import SherwoodMonitor.CardText
import SherwoodMonitor.Library.Markup

/-! What the texts of proposal and draft cards are made of: escaped text, bold and italic elements,
the chip of a status as it is, and the clock of the last minute, whose `<` is not escaped. -/
namespace SherwoodMonitor.CardMarkup
open PyUnicode PyText FramedContext NumberText Markup CardText

/-! ### Escaped text -/

variable (fl : ℚ → ℚ)

def boldName : ElementName := ⟨['b'], by decide, by simp⟩
def italicName : ElementName := ⟨['i'], by decide, by simp⟩

def bold (s : String) : Part := .element boldName s.toList
def italic (s : String) : Part := .element italicName s.toList
def textPart (s : String) : Part := .text s.toList

lemma escapeHtml_eq (l : List Char) : escapeHtml l = escape l := by
  rw [escapeHtml, replaceChar, replaceChar, replaceChar, List.flatMap_assoc, List.flatMap_assoc,
    escape]
  refine congrArg (List.flatMap · l) (funext fun c => ?_)
  by_cases hamp : c = '&'
  · subst hamp; decide
  by_cases hlt : c = '<'
  · subst hlt; decide
  by_cases hgt : c = '>'
  · subst hgt; decide
  simp [hamp, hlt, hgt, escapeChar.eq_4 c hamp hlt hgt]

@[simp] lemma toList_esc (s : String) : (esc s).toList = escape s.toList := by
  rw [esc, String.toList_ofList, escapeHtml_eq]

lemma esc_append (s t : String) : esc (s ++ t) = esc s ++ esc t := by
  apply String.toList_inj.1
  rw [toList_esc, String.toList_append, escape_append, String.toList_append, toList_esc, toList_esc]

lemma esc_intercalate (sep : String) (items : List String) :
    esc (sep.intercalate items) = (esc sep).intercalate (items.map esc) := by
  apply String.toList_inj.1
  have hitems : (items.map esc).map String.toList = (items.map String.toList).map escape := by
    simp [Function.comp_def]
  rw [toList_esc, String.toList_intercalate, escape_intercalate, String.toList_intercalate, toList_esc,
    hitems]

lemma esc_of_plain {s : String} (hs : Plain s.toList) : esc s = s := by
  apply String.toList_inj.1
  rw [toList_esc, escape_of_plain hs]

/-! ### Numbers -/

lemma plain_of_numberChars {l : List Char} (h : NumberChars l) : Plain l := by
  intro c hc
  rcases h c hc with hdigit | hmark
  · refine ⟨?_, ?_, ?_⟩ <;> rintro rfl <;> exact absurd hdigit (by decide)
  · simp only [List.mem_cons, List.not_mem_nil, or_false] at hmark
    rcases hmark with rfl | rfl | rfl <;> decide

lemma plain_ofList {l : List Char} (h : Plain l) : Plain (String.ofList l).toList :=
  String.toList_ofList.symm ▸ h

lemma plain_number {l : List Char} (h : NumberChars l) : Plain (String.ofList l).toList :=
  plain_ofList (plain_of_numberChars h)

lemma plain_fmtAmount (v : ℚ) : Plain (fmtAmount fl v).toList := by
  rw [fmtAmount]
  refine plain_number ?_
  split_ifs
  · exact numberChars_groupedInt _
  · exact numberChars_trimZeros (numberChars_fixed numberChars_grouped 2 v)

lemma plain_append {s t : String} (hs : Plain s.toList) (ht : Plain t.toList) :
    Plain (s ++ t).toList := String.toList_append ▸ hs.append ht

lemma plain_fmtUsd (v : ℚ) : Plain (fmtUsd v).toList :=
  plain_append (plain_ofList (by decide)) (plain_number (numberChars_fixed numberChars_grouped 2 v))

lemma plain_fmtPct (bps : ℤ) : Plain (fmtPct fl bps).toList :=
  plain_append (plain_number (numberChars_fixed numberChars_plainDigits 1 _)) (plain_ofList (by decide))

lemma plain_toString (n : ℤ) : Plain (toString n).toList :=
  plain_of_numberChars (numberChars_toString n)

lemma plain_fmtWeight (bps : ℤ) : Plain (fmtWeight fl bps).toList := by
  refine plain_append ?_ (plain_ofList (by decide))
  split_ifs
  · exact plain_toString _
  · exact plain_number (numberChars_trimZeros (numberChars_fixed numberChars_plainDigits 2 _))

lemma plain_bar (fraction : ℚ) (cells : ℕ) : Plain (bar fl fraction cells).toList := by
  rw [bar, String.toList_ofList]
  refine Plain.append (fun c hc => ?_) (fun c hc => ?_)
  · rw [List.eq_of_mem_replicate hc]
    decide
  · rw [List.eq_of_mem_replicate hc]
    decide

lemma plain_vetoMeter (againstBps thresholdBps : ℤ) :
    Plain (vetoMeter fl againstBps thresholdBps).toList := by
  have hagainst := plain_append (s := "Against ") (plain_ofList (by decide)) (plain_fmtPct fl againstBps)
  have hbar := plain_bar fl (fl (againstBps / (max 1 thresholdBps : ℤ))) meterCells
  have hblank : Plain " ".toList := plain_ofList (by decide)
  exact plain_append (plain_append (plain_append (plain_append hagainst hblank) hbar) hblank)
    (plain_fmtWeight fl _)

lemma plain_goalBar (maxCapital nav : ℚ) : Plain (goalBar fl maxCapital nav).toList := by
  rw [goalBar]
  split_ifs
  · exact plain_ofList (by decide)
  · exact plain_append (plain_append (plain_append (plain_bar fl _ _) (plain_ofList (by decide)))
      (plain_toString _)) (plain_ofList (by decide))

lemma plain_usdNote (wood : ℚ) (woodUsd : Option ℚ) : Plain (usdNote fl wood woodUsd).toList := by
  rw [usdNote]
  split
  · exact plain_append (plain_append (plain_ofList (by decide)) (plain_fmtUsd _)) (plain_ofList (by decide))
  · exact plain_ofList (by decide)

lemma plain_bondLine (bondWood : ℚ) (woodUsd : Option ℚ) :
    Plain (bondLine fl bondWood woodUsd).toList := by
  have hamount := plain_append (s := "bond ") (plain_ofList (by decide))
    (plain_fmtAmount fl (roundTo fl 2 bondWood))
  exact plain_append (plain_append (plain_append hamount (plain_ofList (by decide))) (plain_usdNote fl _ _))
    (plain_ofList (by decide))

/-- The clock of the last minute is the one that is not plain. -/
def lastMinute : String := "ends in <1m"

lemma countdown_cases (endsAt : Option ℤ) (now : ℚ) :
    countdown fl endsAt now = lastMinute ∨ Plain (countdown fl endsAt now).toList := by
  cases endsAt with
  | none => exact Or.inr (plain_ofList (by decide) : Plain "".toList)
  | some endsAt =>
    have hcount : ∀ n : ℤ, Plain ("ends in " ++ toString n).toList :=
      fun n => plain_append (plain_ofList (by decide)) (plain_toString n)
    unfold countdown
    dsimp only
    split_ifs
    · exact Or.inr (plain_ofList (by decide))
    · exact Or.inl rfl
    · exact Or.inr (plain_append (hcount _) (plain_ofList (by decide)))
    · have hhours := fun n => plain_append (hcount n) (t := "h ") (plain_ofList (by decide))
      exact Or.inr (plain_append (plain_append (hhours _) (plain_number (numberChars_padded 2 _)))
        (plain_ofList (by decide)))
    · have hdays := fun n => plain_append (hcount n) (t := "d ") (plain_ofList (by decide))
      exact Or.inr (plain_append (plain_append (hdays _) (plain_toString _)) (plain_ofList (by decide)))

lemma meterClock_cases (p : ProposalView) (now : ℚ) :
    meterClock fl p now = lastMinute ∨ Plain (meterClock fl p now).toList := by
  rw [meterClock]
  split_ifs
  · exact countdown_cases fl p.votingEndsAt now
  · exact Or.inr (plain_ofList (by decide))

lemma mem_replaceFrom {old new : List Char} {skip : ℕ} {l : List Char} {c : Char}
    (hc : c ∈ replaceFrom old new skip l) : c ∈ new ∨ c ∈ l := by
  fun_induction replaceFrom old new skip l with
  | case1 => exact nomatch hc
  | case2 d l hpre ih =>
    rcases List.mem_append.1 hc with hc | hc
    · exact Or.inl hc
    · exact (ih hc).imp_right (List.mem_cons_of_mem _)
  | case3 d l hpre ih =>
    rcases List.mem_cons.1 hc with rfl | hc
    · exact Or.inr List.mem_cons_self
    · exact (ih hc).imp_right (List.mem_cons_of_mem _)
  | case4 skip d l ih => exact (ih hc).imp_right (List.mem_cons_of_mem _)

lemma reviewClock_cases (p : ProposalView) (now : ℚ) :
    reviewClock fl p now = lastMinute ∨ Plain (reviewClock fl p now).toList := by
  rw [reviewClock]
  rcases countdown_cases fl p.reviewEndsAt now with h | h
  · rw [h]
    exact Or.inl (by decide +kernel)
  · have hnew : Plain "review closed".toList := plain_ofList (by decide)
    refine Or.inr fun c hc => ?_
    rw [String.toList_ofList] at hc
    exact (mem_replaceFrom hc).elim (hnew c) (h c)

/-! ### Lines -/

def clockParts (clock : String) : List Part :=
  if clock = lastMinute then [textPart "ends in ", .stray '1' rfl, textPart "m"]
  else [textPart clock]

@[simp] lemma html_nil : html [] = [] := rfl

@[simp] lemma html_textPart (s : String) (rest : List Part) :
    html (textPart s :: rest) = (esc s).toList ++ html rest := by
  rw [html_cons, toList_esc]
  rfl

@[simp] lemma html_bold (s : String) (rest : List Part) :
    html (bold s :: rest) = "<b>".toList ++ ((esc s).toList ++ ("</b>".toList ++ html rest)) := by
  have hopen : "<b>".toList = Frames.openTag boldName.name := String.toList_ofList
  have hclose : "</b>".toList = Frames.closeTag boldName.name := String.toList_ofList
  rw [html_cons, toList_esc, hopen, hclose, bold, Part.html, List.append_assoc, List.append_assoc]

@[simp] lemma html_italic (s : String) (rest : List Part) :
    html (italic s :: rest) = "<i>".toList ++ ((esc s).toList ++ ("</i>".toList ++ html rest)) := by
  have hopen : "<i>".toList = Frames.openTag italicName.name := String.toList_ofList
  have hclose : "</i>".toList = Frames.closeTag italicName.name := String.toList_ofList
  rw [html_cons, toList_esc, hopen, hclose, italic, Part.html, List.append_assoc, List.append_assoc]

lemma html_clockParts {clock : String} (h : clock = lastMinute ∨ Plain clock.toList) :
    html (clockParts clock) = clock.toList := by
  rw [clockParts]
  split_ifs with hlast
  · rw [hlast]
    decide +kernel
  · rw [html_textPart, html_nil, List.append_nil, esc_of_plain (h.resolve_left hlast)]

def capitalParts (p : ProposalView) : List Part :=
  [textPart "Max capital ", bold (fmtAmount fl p.maxCapital ++ " " ++ p.capitalSymbol),
    textPart " · max drawdown ", bold (fmtPct fl p.maxDrawdownBps)]

lemma html_capitalParts (p : ProposalView) :
    html (capitalParts fl p) = (capitalLine fl p).toList := by
  unfold capitalParts capitalLine
  simp (disch := (refine plain_ofList ?_; decide)) only [html_textPart, html_bold, html_nil, esc_append,
    esc_of_plain (plain_fmtAmount fl _), esc_of_plain (plain_fmtPct fl _), esc_of_plain,
    String.toList_append, List.append_assoc, List.append_nil]

def legParts (leg : Leg) : List Part :=
  if 0 < leg.weightBps then [bold leg.symbol, textPart (" " ++ fmtWeight fl leg.weightBps)]
  else [textPart leg.symbol]

lemma html_legParts (leg : Leg) : html (legParts fl leg) = (legText fl leg).toList := by
  rw [legParts, legText]
  split_ifs
  · simp (disch := (refine plain_ofList ?_; decide)) only [html_textPart, html_bold, html_nil, esc_append,
      esc_of_plain (plain_fmtWeight fl _), esc_of_plain, String.toList_append, List.append_assoc,
      List.append_nil]
  · rw [html_textPart, html_nil, List.append_nil]

def legsParts (p : ProposalView) : List Part :=
  [textPart " · "].intercalate (p.legs.map (legParts fl))

lemma html_legsParts (p : ProposalView) : html (legsParts fl p) = (legsLine fl p).toList := by
  have hlegs : (p.legs.map (legParts fl)).map html = (p.legs.map (legText fl)).map String.toList := by
    simp only [List.map_map, Function.comp_def, html_legParts]
  have hsep : html [textPart " · "] = " · ".toList := by
    rw [html_textPart, html_nil, List.append_nil, esc_of_plain (plain_ofList (by decide))]
  rw [legsParts, html_intercalate, hlegs, hsep, legsLine, String.toList_intercalate]

/-- A line of parts and the line of text that is written so. -/
def Writes (rows : List (List Part)) (lines : List String) : Prop :=
  rows.map html = lines.map String.toList

lemma Writes.append {rows rows' : List (List Part)} {lines lines' : List String}
    (h : Writes rows lines) (h' : Writes rows' lines') : Writes (rows ++ rows') (lines ++ lines') := by
  rw [Writes, List.map_append, List.map_append, h, h']

lemma writes_nil : Writes [] [] := rfl

lemma writes_blank : Writes [[]] [""] := rfl

lemma writes_one {row : List Part} {line : String} (h : html row = line.toList) :
    Writes [row] [line] := congrArg (fun l => [l]) h

lemma writes_plain {line : String} (h : Plain line.toList) : Writes [[textPart line]] [line] :=
  writes_one (by rw [html_textPart, html_nil, List.append_nil, esc_of_plain h])

def legsRows (p : ProposalView) : List (List Part) :=
  if legsLine fl p ≠ "" then [legsParts fl p] else []

lemma writes_legs (p : ProposalView) : Writes (legsRows fl p) (legsLines fl p) := by
  rw [legsRows, legsLines]
  split_ifs
  · exact writes_one (html_legsParts fl p)
  · exact writes_nil

def goalRows (p : ProposalView) (fund : Option FundView) : List (List Part) :=
  (goalLines fl p fund).map fun line => [textPart line]

lemma writes_goal (p : ProposalView) (fund : Option FundView) :
    Writes (goalRows fl p fund) (goalLines fl p fund) := by
  rw [goalRows]
  cases fund with
  | none => exact writes_nil
  | some fund =>
    rw [goalLines]
    split_ifs
    · exact writes_plain (plain_append (plain_ofList (by decide)) (plain_goalBar fl _ _))
    · exact writes_nil

def meterRows (p : ProposalView) (now : ℚ) : List (List Part) :=
  if lower p.status ∈ meteredStatuses then
    let clock := meterClock fl p now
    [textPart (vetoMeter fl p.againstBps p.thresholdBps) ::
      if clock ≠ "" then textPart " · " :: clockParts clock else []]
  else []

lemma writes_meter (p : ProposalView) (now : ℚ) :
    Writes (meterRows fl p now) (meterLines fl p now) := by
  rw [meterRows, meterLines]
  split_ifs with hmetered
  · have hmeter := esc_of_plain (plain_vetoMeter fl p.againstBps p.thresholdBps)
    refine writes_one ?_
    split_ifs
    · simp (disch := (refine plain_ofList ?_; decide)) only [html_textPart, hmeter, esc_of_plain,
        html_clockParts (meterClock_cases fl p now), String.toList_append, List.append_assoc]
    · rw [html_textPart, hmeter, html_nil, List.append_nil]
  · exact writes_nil

def coverText (p : ProposalView) : String :=
  if p.guardianCoverage ≠ "" then " · coverage " ++ p.guardianCoverage else ""

lemma esc_coverText (p : ProposalView) : esc (coverText p) = coverNote p := by
  rw [coverText, coverNote]
  split_ifs
  · rw [esc_append, esc_of_plain (plain_ofList (by decide))]
  · exact esc_of_plain (plain_ofList (by decide))

def guardianRows (p : ProposalView) (now : ℚ) : List (List Part) :=
  if lower p.status = "review" then
    let clock := reviewClock fl p now
    [textPart "🛡 Guardian review" ::
      ((if clock ≠ "" then textPart " · " :: clockParts clock else []) ++ [textPart (coverText p)])]
  else if lower p.status = "approved" then [[textPart ("🛡 Guardian approved" ++ coverText p)]]
  else []

lemma writes_guardian (p : ProposalView) (now : ℚ) :
    Writes (guardianRows fl p now) (guardianLines fl p now) := by
  rw [guardianRows, guardianLines]
  split_ifs
  · refine writes_one ?_
    split_ifs
    · simp (disch := (refine plain_ofList ?_; decide)) only [html_textPart, html_append, List.cons_append, html_nil,
        esc_coverText, html_clockParts (reviewClock_cases fl p now), esc_of_plain,
        String.toList_append, List.append_assoc, List.append_nil]
    · simp (disch := (refine plain_ofList ?_; decide)) only [html_textPart, html_nil, List.nil_append, esc_coverText,
        esc_of_plain, String.toList_append, List.append_nil, String.append_empty]
  · refine writes_one ?_
    rw [html_textPart, html_nil, List.append_nil, esc_append, esc_coverText,
      esc_of_plain (plain_ofList (by decide))]
  · exact writes_nil

/-- The handles of a list of people before they are escaped. -/
def avatarsText (ids : List ℤ) (people : People) : String :=
  let shown := ((unique ids).take maxAvatars).map fun i => handleText i people
  let extra := (unique ids).length - shown.length
  " ".intercalate (shown ++ if 0 < extra then ["+" ++ toString extra] else [])

lemma esc_avatarsText (ids : List ℤ) (people : People) :
    esc (avatarsText ids people) = avatars ids people := by
  have hblank : esc " " = " " := esc_of_plain (plain_ofList (by decide))
  have hextra : ∀ n : ℕ, esc ("+" ++ toString n) = "+" ++ toString n := fun n =>
    esc_of_plain (plain_append (plain_ofList (by decide)) (plain_toString n))
  rw [avatarsText, avatars, esc_intercalate, hblank]
  simp only [List.map_append, List.map_map, Function.comp_def, List.length_map, personHandle]
  split_ifs
  · rw [List.map_singleton, hextra]
  · rfl

/-- Items of one line, before they are escaped. -/
def joinedRows (items : List String) : List (List Part) :=
  if items ≠ [] then [[textPart (" · ".intercalate items)]] else []

lemma writes_joined (items : List String) : Writes (joinedRows items) (joined (items.map esc)) := by
  rw [joinedRows, joined]
  by_cases hnil : items = []
  · subst hnil
    exact writes_nil
  · rw [if_pos hnil, if_pos (by simpa using hnil)]
    refine writes_one ?_
    rw [html_textPart, html_nil, List.append_nil, esc_intercalate,
      esc_of_plain (plain_ofList (by decide))]

def socialItems (p : ProposalView) (people : People) : List String :=
  (if p.backers ≠ [] then ["👍 " ++ avatarsText p.backers people] else []) ++
    if p.objectors ≠ [] then ["❌ " ++ avatarsText p.objectors people] else []

lemma writes_social (p : ProposalView) (people : People) :
    Writes (joinedRows (socialItems p people)) (socialLines p people) := by
  have hitem : ∀ (mark : String) (ids : List ℤ), Plain mark.toList →
      (if ids ≠ [] then [mark ++ avatarsText ids people] else []).map esc =
        if ids ≠ [] then [mark ++ avatars ids people] else [] := by
    intro mark ids hmark
    split_ifs
    · rw [List.map_singleton, esc_append, esc_of_plain hmark, esc_avatarsText]
    · rfl
  have hitems := writes_joined (socialItems p people)
  rw [socialItems, List.map_append, hitem _ _ (plain_ofList (by decide)),
    hitem _ _ (plain_ofList (by decide))] at hitems
  exact hitems

def creditItems (p : ProposalView) (people : People) : List String :=
  (p.ideaBy.map fun tgId => "idea by " ++ handleText tgId people).toList ++
    if p.proposer ≠ "" then ["agent " ++ p.proposer] else []

lemma writes_credit (p : ProposalView) (people : People) :
    Writes (joinedRows (creditItems p people)) (creditLines p people) := by
  have hidea : (p.ideaBy.map fun tgId => "idea by " ++ handleText tgId people).toList.map esc =
      (p.ideaBy.map fun tgId => "idea by " ++ personHandle (some tgId) people).toList := by
    cases p.ideaBy with
    | none => rfl
    | some tgId =>
      simp only [Option.map_some, Option.toList_some, List.map_singleton, esc_append, personHandle]
      rw [esc_of_plain (plain_ofList (by decide))]
  have hagent : (if p.proposer ≠ "" then ["agent " ++ p.proposer] else []).map esc =
      if p.proposer ≠ "" then ["agent " ++ esc p.proposer] else [] := by
    split_ifs
    · rw [List.map_singleton, esc_append, esc_of_plain (plain_ofList (by decide))]
    · rfl
  have hitems := writes_joined (creditItems p people)
  rw [creditItems, List.map_append, hidea, hagent] at hitems
  exact hitems

def closingRows (p : ProposalView) : List (List Part) :=
  if lower p.status = "voting" then
    [[], [italic ("Only Against counts. Silence = pass unless Against reaches " ++
      fmtWeight fl p.thresholdBps ++ " of shares before the window ends.")]]
  else if lower p.status = "vetoed" then
    [[italic "Vetoed. The agent's bond comes back at once."]]
  else []

lemma writes_closing (p : ProposalView) : Writes (closingRows fl p) (closingLines fl p) := by
  rw [closingRows, closingLines]
  split_ifs
  · refine writes_blank.append (writes_one ?_)
    simp (disch := (refine plain_ofList ?_; decide)) only [html_italic, html_nil, esc_append,
      esc_of_plain (plain_fmtWeight fl _), esc_of_plain, String.toList_append, List.append_assoc,
      List.append_nil]
  · refine writes_one ?_
    simp (disch := (refine plain_ofList ?_; decide)) only [html_italic, html_nil, esc_of_plain,
      String.toList_append, List.append_assoc, List.append_nil]
  · exact writes_nil

/-! ### Whole texts -/

def thesisRow (p : ProposalView) : List Part := [italic (thesisText p.thesis)]

lemma html_thesisRow (p : ProposalView) :
    html (thesisRow p) = ("<i>" ++ thesis p.thesis ++ "</i>").toList := by
  rw [thesisRow, html_italic, html_nil, List.append_nil, String.toList_append, String.toList_append,
    List.append_assoc]
  rfl

/-- The rows that both cards have behind their title. -/
def shapeRows (p : ProposalView) (fund : Option FundView) : List (List Part) :=
  [thesisRow p, []] ++ legsRows fl p ++ [capitalParts fl p] ++ goalRows fl p fund

lemma writes_shape (p : ProposalView) (fund : Option FundView) :
    Writes (shapeRows fl p fund) (["<i>" ++ thesis p.thesis ++ "</i>", ""] ++ legsLines fl p ++
      [capitalLine fl p] ++ goalLines fl p fund) := by
  have hfirst : Writes [thesisRow p, []] ["<i>" ++ thesis p.thesis ++ "</i>", ""] :=
    (writes_one (html_thesisRow p)).append writes_blank
  exact ((hfirst.append (writes_legs fl p)).append (writes_one (html_capitalParts fl p))).append
    (writes_goal fl p fund)

/-- The first line of a text with the other lines. -/
lemma toList_lines {head : List Char} {first : List Part} {rows : List (List Part)} {line : String}
    {lines : List String} (hline : line.toList = head ++ html first) (hrows : Writes rows lines) :
    ("\n".intercalate (line :: lines)).toList = head ++ html (joinLines (first :: rows)) := by
  have hnewline : "\n".toList = ['\n'] := String.toList_ofList
  rw [String.toList_intercalate, List.map_cons, hline, ← hrows, html_joinLines, List.map_cons,
    hnewline]
  cases rows with
  | nil => simp
  | cons row rows =>
    rw [List.map_cons, List.intercalate_cons_cons, List.intercalate_cons_cons, List.append_assoc,
      List.append_assoc, List.append_assoc]

/-- What stands before the number of the proposal: the chip of its status, as it is. -/
def proposalHead (p : ProposalView) : List Char := (statusChip (lower p.status)).toList ++ [' ', '·', ' ']

def proposalRows (p : ProposalView) (fund : Option FundView) (people : People)
    (woodUsd : Option ℚ) (now : ℚ) : List (List Part) :=
  shapeRows fl p fund ++ [[]] ++ meterRows fl p now ++ guardianRows fl p now ++
    joinedRows (socialItems p people) ++ joinedRows (creditItems p people) ++
    [[textPart (bondLine fl p.bondWood woodUsd)]] ++ closingRows fl p

/-- A proposal's card behind its head. -/
def proposalDoc (p : ProposalView) (fund : Option FundView) (people : People)
    (woodUsd : Option ℚ) (now : ℚ) : List Part :=
  joinLines ([bold ("Proposal #" ++ p.displayId)] :: proposalRows fl p fund people woodUsd now)

lemma writes_proposal (p : ProposalView) (fund : Option FundView) (people : People)
    (woodUsd : Option ℚ) (now : ℚ) :
    Writes (proposalRows fl p fund people woodUsd now)
      (proposalLines fl p fund people woodUsd now).tail :=
  (((((((writes_shape fl p fund).append writes_blank).append
    (writes_meter fl p now)).append (writes_guardian fl p now)).append
    (writes_social p people)).append (writes_credit p people)).append
    (writes_plain (plain_bondLine fl p.bondWood woodUsd))).append (writes_closing fl p)

lemma intercalate_concat {α : Type} (sep : List α) (lines : List (List α)) (last : List α) :
    ∃ before, sep.intercalate (lines ++ [last]) = before ++ last := by
  induction lines with
  | nil => exact ⟨[], List.intercalate_singleton⟩
  | cons line lines ih =>
    obtain ⟨before, h⟩ := ih
    have hne : lines ++ [last] ≠ [] := by simp
    refine ⟨line ++ sep ++ before, ?_⟩
    rw [List.cons_append, List.intercalate_cons_of_ne_nil hne, h]
    simp only [List.append_assoc]

lemma rstrip_intercalate (front : List String) {last : String} {c : Char}
    (hlast : last.toList.getLast? = some c) (hc : isSpace c = false) :
    rstrip ("\n".intercalate (front ++ [last])) = "\n".intercalate (front ++ [last]) := by
  obtain ⟨init, hinit⟩ := List.getLast?_eq_some_iff.1 hlast
  obtain ⟨before, hbefore⟩ := intercalate_concat "\n".toList (front.map String.toList) last.toList
  apply String.toList_inj.1
  rw [rstrip, String.toList_ofList, String.toList_intercalate, List.map_append, List.map_singleton,
    hbefore, hinit, ← List.append_assoc, List.rdropWhile_concat_neg]
  rw [hc]
  exact Bool.false_ne_true

/-- The last line of a proposal's card. -/
lemma proposalLines_last (p : ProposalView) (fund : Option FundView) (people : People)
    (woodUsd : Option ℚ) (now : ℚ) :
    ∃ front last c, proposalLines fl p fund people woodUsd now = front ++ [last] ∧
      last.toList.getLast? = some c ∧ isSpace c = false := by
  have hends : ∀ s t : String, t.toList ≠ [] → (s ++ t).toList.getLast? = t.toList.getLast? := by
    intro s t ht
    rw [String.toList_append, List.getLast?_append_of_ne_nil _ ht]
  rw [proposalLines, closingLines]
  split_ifs
  · refine ⟨_ ++ [""], _, '>', (List.append_assoc _ [""] [_]).symm, ?_, by decide⟩
    rw [hends _ _ (by decide +kernel)]
    decide +kernel
  · refine ⟨_, _, '>', rfl, ?_, by decide⟩
    rw [hends _ _ (by decide +kernel)]
    decide +kernel
  · refine ⟨_, bondLine fl p.bondWood woodUsd, 'e', List.append_nil _, ?_, by decide⟩
    rw [bondLine, hends _ _ (by decide +kernel)]
    decide +kernel

lemma toList_proposalText (p : ProposalView) (fund : Option FundView) (people : People)
    (woodUsd : Option ℚ) (now : ℚ) :
    (proposalText fl p fund people woodUsd now).toList =
      proposalHead p ++ html (proposalDoc fl p fund people woodUsd now) := by
  obtain ⟨front, last, c, hlines, hlast, hc⟩ := proposalLines_last fl p fund people woodUsd now
  have htitle : (statusChip (lower p.status) ++ " · " ++ "<b>" ++ "Proposal #" ++ esc p.displayId ++
      "</b>").toList = proposalHead p ++ html [bold ("Proposal #" ++ p.displayId)] := by
    have hsep : " · ".toList = [' ', '·', ' '] := String.toList_ofList
    have hnumber : esc "Proposal #" = "Proposal #" := esc_of_plain (plain_ofList (by decide))
    simp only [proposalHead, html_bold, html_nil, esc_append, hnumber, String.toList_append,
      List.append_assoc, List.append_nil, hsep]
  rw [proposalText, hlines, rstrip_intercalate front hlast hc, ← hlines]
  exact toList_lines htitle (writes_proposal fl p fund people woodUsd now)

/-! ### Drafts -/

def ideaText (ideaBy : Option ℤ) (people : People) : String :=
  match ideaBy with
  | none => ""
  | some tgId => " · from " ++ handleText tgId people ++ "'s idea"

lemma esc_ideaText (ideaBy : Option ℤ) (people : People) :
    esc (ideaText ideaBy people) = ideaNote ideaBy people := by
  cases ideaBy with
  | none => exact esc_of_plain (plain_ofList (by decide))
  | some tgId =>
    unfold ideaText ideaNote personHandle
    simp (disch := (refine plain_ofList ?_; decide)) only [esc_append, esc_of_plain]

def draftTitle (p : ProposalView) (people : People) : List Part :=
  [textPart "📝 DRAFT · ", bold ("Draft #" ++ p.id), textPart (ideaText p.ideaBy people)]

lemma html_draftTitle (p : ProposalView) (people : People) :
    html (draftTitle p people) =
      (statusChip "draft" ++ " · " ++ "<b>" ++ "Draft #" ++ esc p.id ++ "</b>" ++
        ideaNote p.ideaBy people).toList := by
  have hchip : statusChip "draft" ++ " · " = "📝 DRAFT · " := by decide +kernel
  rw [hchip]
  unfold draftTitle
  simp (disch := (refine plain_ofList ?_; decide)) only [html_textPart, html_bold, html_nil,
    esc_ideaText, esc_append, esc_of_plain, String.toList_append, List.append_assoc, List.append_nil]

def agentRows (p : ProposalView) : List (List Part) :=
  if p.proposer ≠ "" then [[textPart ("agent " ++ p.proposer)]] else []

lemma writes_agent (p : ProposalView) :
    Writes (agentRows p) (if p.proposer ≠ "" then ["agent " ++ esc p.proposer] else []) := by
  rw [agentRows]
  split_ifs
  · refine writes_one ?_
    rw [html_textPart, html_nil, List.append_nil, esc_append, esc_of_plain (plain_ofList (by decide))]
  · exact writes_nil

def shortfallRows (shortfall woodUsd : Option ℚ) : List (List Part) :=
  (shortfallLines fl shortfall woodUsd).map fun line => [textPart line]

lemma writes_shortfall (shortfall woodUsd : Option ℚ) :
    Writes (shortfallRows fl shortfall woodUsd) (shortfallLines fl shortfall woodUsd) := by
  rw [shortfallRows]
  cases shortfall with
  | none => exact writes_nil
  | some wood =>
    rw [shortfallLines]
    split_ifs
    · have hneeds := plain_append (s := "needs ~") (plain_ofList (by decide))
        (plain_fmtAmount fl (roundTo fl 1 wood))
      exact writes_plain (plain_append (plain_append (plain_append hneeds (plain_ofList (by decide)))
        (plain_usdNote fl wood woodUsd)) (plain_ofList (by decide)))
    · exact writes_nil

/-- The line of the bond buffer before its note is escaped. -/
def bufferText (p : ProposalView) : String :=
  match bondBufferLines.find? fun e => e.1 = lower p.bondBufferStatus with
  | some (_, line) =>
      if p.bondBufferNote ≠ "" then line ++ " (" ++ shortened (oneLine p.bondBufferNote) 120 ++ ")"
      else line
  | none => ""

lemma esc_bufferText (p : ProposalView) : esc (bufferText p) = bondBufferLine p := by
  have hlines : ∀ e ∈ bondBufferLines, Plain e.2.toList := by
    intro e he
    simp only [bondBufferLines, List.mem_cons, List.not_mem_nil, or_false] at he
    rcases he with rfl | rfl | rfl | rfl | rfl <;> exact plain_ofList (by decide)
  rw [bufferText, bondBufferLine]
  cases hfind : bondBufferLines.find? fun e => e.1 = lower p.bondBufferStatus with
  | none => exact esc_of_plain (plain_ofList (by decide))
  | some e =>
    have hline := esc_of_plain (hlines e (List.mem_of_find?_eq_some hfind))
    dsimp only
    split_ifs
    · simp (disch := (refine plain_ofList ?_; decide)) only [esc_append, hline, esc_of_plain, short]
    · exact hline

def bufferRows (p : ProposalView) : List (List Part) :=
  if bondBufferLine p ≠ "" then [[textPart (bufferText p)]] else []

lemma writes_buffer (p : ProposalView) :
    Writes (bufferRows p) (if bondBufferLine p ≠ "" then [bondBufferLine p] else []) := by
  rw [bufferRows]
  split_ifs
  · exact writes_one (by rw [html_textPart, html_nil, List.append_nil, esc_bufferText])
  · exact writes_nil

def draftRows (p : ProposalView) (fund : Option FundView) (woodUsd shortfall : Option ℚ) :
    List (List Part) :=
  shapeRows fl p fund ++ agentRows p ++ [[textPart (bondLine fl p.bondWood woodUsd)]] ++
    shortfallRows fl shortfall woodUsd ++ bufferRows p ++
    [[], [italic "Host: 🚀 Ship it sends this to a vote."]]

/-- A draft's card. -/
def draftDoc (p : ProposalView) (fund : Option FundView) (people : People)
    (woodUsd shortfall : Option ℚ) : List Part :=
  joinLines (draftTitle p people :: draftRows fl p fund woodUsd shortfall)

lemma writes_draft (p : ProposalView) (fund : Option FundView) (people : People)
    (woodUsd shortfall : Option ℚ) :
    Writes (draftRows fl p fund woodUsd shortfall)
      (draftLines fl p fund people woodUsd shortfall).tail := by
  have hlast : Writes [[], [italic "Host: 🚀 Ship it sends this to a vote."]]
      ["", "<i>" ++ "Host: 🚀 Ship it sends this to a vote." ++ "</i>"] := by
    refine writes_blank.append (writes_one ?_)
    simp (disch := (refine plain_ofList ?_; decide)) only [html_italic, html_nil, esc_of_plain,
      String.toList_append, List.append_assoc, List.append_nil]
  exact (((((writes_shape fl p fund).append (writes_agent p)).append
    (writes_plain (plain_bondLine fl p.bondWood woodUsd))).append
    (writes_shortfall fl shortfall woodUsd)).append (writes_buffer p)).append hlast

lemma toList_draftText (p : ProposalView) (fund : Option FundView) (people : People)
    (woodUsd shortfall : Option ℚ) :
    (draftText fl p fund people woodUsd shortfall).toList =
      [] ++ html (draftDoc fl p fund people woodUsd shortfall) :=
  toList_lines (html_draftTitle p people).symm (writes_draft fl p fund people woodUsd shortfall)

end SherwoodMonitor.CardMarkup
