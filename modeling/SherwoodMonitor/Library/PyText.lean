import Mathlib.Data.List.DropRight
import Mathlib.Data.Rat.Defs
import SherwoodMonitor.Library.PyUnicode

/-! The Python string operations: `strip`, `lower`, `isdigit`, `int`, `float`, `repr` and the
substitution of the runs of a character class. Strings are sequences of Unicode scalars; the
interpreter's limit on the length of integer literals, and `nan` and the infinities among the
numbers, are left out. -/
namespace SherwoodMonitor.PyText
open PyUnicode

/-- `l.strip()` on characters. -/
def stripChars (l : List Char) : List Char := (l.dropWhile isSpace).rdropWhile isSpace

def strip (s : String) : String := String.ofList (stripChars s.toList)

lemma stripChars_split (l : List Char) :
    ∃ ws ws', (∀ c ∈ ws, isSpace c = true) ∧ (∀ c ∈ ws', isSpace c = true) ∧
      l = ws ++ stripChars l ++ ws' := by
  refine ⟨l.takeWhile isSpace, (l.dropWhile isSpace).rtakeWhile isSpace,
    fun _ h => List.mem_takeWhile_imp h, fun _ h => List.mem_rtakeWhile_imp h, ?_⟩
  rw [stripChars, List.append_assoc, List.rdropWhile_append_rtakeWhile,
    List.takeWhile_append_dropWhile]

lemma stripChars_append_left {ws l : List Char} (hws : ∀ c ∈ ws, isSpace c = true) :
    stripChars (ws ++ l) = stripChars l := by
  rw [stripChars, List.dropWhile_append_of_pos hws, stripChars]

lemma stripChars_concat {l : List Char} {w : Char} (hw : isSpace w = true) :
    stripChars (l ++ [w]) = stripChars l := by
  rw [stripChars, List.dropWhile_append, stripChars]
  split_ifs with hl
  · simp [List.isEmpty_iff.1 hl, hw]
  · exact List.rdropWhile_concat_pos _ _ _ hw

lemma stripChars_append_right {ws : List Char} (l : List Char)
    (hws : ∀ c ∈ ws, isSpace c = true) : stripChars (l ++ ws) = stripChars l := by
  induction ws generalizing l with
  | nil => simp
  | cons w ws ih =>
    rw [← List.singleton_append, ← List.append_assoc, ih _ fun c hc => hws c (by simp [hc]),
      stripChars_concat (hws w (by simp))]

lemma stripChars_eq_self {l : List Char} (hhead : ∀ c ∈ l.head?, isSpace c = false)
    (hlast : ∀ c ∈ l.getLast?, isSpace c = false) : stripChars l = l := by
  have hdrop : l.dropWhile isSpace = l := by
    cases l with
    | nil => rfl
    | cons c l => simp [hhead c rfl]
  rw [stripChars, hdrop, List.rdropWhile_eq_self_iff]
  intro hl
  simp [hlast _ (List.getLast?_eq_getLast_of_ne_nil hl)]

lemma head?_stripChars {l : List Char} {c : Char} (hc : c ∈ (stripChars l).head?) :
    isSpace c = false := by
  have hpre : stripChars l <+: l.dropWhile isSpace := List.rdropWhile_prefix _ _
  obtain ⟨t, ht⟩ := hpre
  cases hs : stripChars l with
  | nil => simp [hs] at hc
  | cons d r =>
    obtain rfl : d = c := by simpa [hs] using hc
    have hne : l.dropWhile isSpace ≠ [] := by simp [← ht, hs]
    have hnot := List.head_dropWhile_not isSpace hne
    simpa [← ht, hs] using hnot

lemma getLast?_stripChars {l : List Char} {c : Char} (hc : c ∈ (stripChars l).getLast?) :
    isSpace c = false := by
  have hne : stripChars l ≠ [] := by
    intro h
    simp [h] at hc
  have hlast := List.rdropWhile_last_not isSpace (l.dropWhile isSpace) hne
  rw [List.getLast?_eq_getLast_of_ne_nil hne] at hc
  obtain rfl : (stripChars l).getLast hne = c := by simpa using hc
  simpa [stripChars] using hlast

lemma stripChars_stripChars (l : List Char) : stripChars (stripChars l) = stripChars l :=
  stripChars_eq_self (fun _ => head?_stripChars) fun _ => getLast?_stripChars

lemma stripChars_nil : stripChars [] = [] := rfl

@[simp] lemma toList_strip (s : String) : (strip s).toList = stripChars s.toList := by
  simp [strip]

/-- Whether the nearest character that the final sigma rule does not look through is cased. -/
def meetsCased (l : List Char) : Bool := (l.dropWhile isCaseIgnorable).head?.any isCased

lemma meetsCased_append_space {ws : List Char} (l : List Char)
    (hws : ∀ c ∈ ws, isSpace c = true) : meetsCased (l ++ ws) = meetsCased l := by
  induction l with
  | nil =>
    cases ws with
    | nil => rfl
    | cons w ws =>
      have hw := hws w (by simp)
      simp [meetsCased, isCaseIgnorable_of_isSpace hw, isCased_of_isSpace hw]
  | cons c l ih =>
    by_cases hc : isCaseIgnorable c = true
    · simpa [meetsCased, hc] using ih
    · simp [meetsCased, hc]

/-- A capital sigma ends a word when the nearest character before it that the rule does not look
through is cased, and the nearest one after it is not. -/
def finalSigma (before rest : List Char) : Bool :=
  meetsCased before && !meetsCased rest

def lowerOne (before : List Char) (c : Char) (rest : List Char) : List Char :=
  if c = 'Σ' then [if finalSigma before rest then 'ς' else 'σ']
  else if c = 'İ' then ['i', '\u0307']
  else [lowerChar c]

/-- `before` holds what stands before the text, nearest character first. -/
def lowerChars : List Char → List Char → List Char
  | _, [] => []
  | before, c :: rest => lowerOne before c rest ++ lowerChars (c :: before) rest

def lower (s : String) : String := String.ofList (lowerChars [] s.toList)

@[simp] lemma toList_lower (s : String) : (lower s).toList = lowerChars [] s.toList := by
  simp [lower]

lemma lowerOne_of_isSpace {c : Char} (before rest : List Char) (hc : isSpace c = true) :
    lowerOne before c rest = [c] := by
  have hsigma : c ≠ 'Σ' := by rintro rfl; exact absurd hc (by decide)
  have hdotted : c ≠ 'İ' := by rintro rfl; exact absurd hc (by decide)
  rw [lowerOne, if_neg hsigma, if_neg hdotted, lowerChar_of_isSpace hc]

lemma lowerChars_before_space {ws : List Char} (before l : List Char)
    (hws : ∀ c ∈ ws, isSpace c = true) : lowerChars (before ++ ws) l = lowerChars before l := by
  induction l generalizing before with
  | nil => rfl
  | cons c l ih =>
    rw [lowerChars, lowerChars, lowerOne, lowerOne, finalSigma, finalSigma,
      meetsCased_append_space before hws, ← List.cons_append, ih]

lemma lowerChars_space_append {ws : List Char} (before l : List Char)
    (hws : ∀ c ∈ ws, isSpace c = true) :
    lowerChars before (ws ++ l) = ws ++ lowerChars (ws.reverse ++ before) l := by
  induction ws generalizing before with
  | nil => rfl
  | cons w ws ih =>
    rw [List.cons_append, lowerChars, lowerOne_of_isSpace _ _ (hws w (by simp)),
      ih (w :: before) fun c hc => hws c (by simp [hc])]
    simp

lemma lowerChars_append_space {ws : List Char} (before l : List Char)
    (hws : ∀ c ∈ ws, isSpace c = true) :
    lowerChars before (l ++ ws) = lowerChars before l ++ ws := by
  induction l generalizing before with
  | nil => simpa [lowerChars] using lowerChars_space_append before [] hws
  | cons c l ih =>
    rw [List.cons_append, lowerChars, lowerChars, lowerOne, lowerOne, finalSigma, finalSigma,
      meetsCased_append_space l hws, ih, List.append_assoc]

/-- Lowering commutes with stripping: the outer white space decides no final sigma. -/
lemma lowerChars_of_stripChars (l : List Char) :
    ∃ ws ws', (∀ c ∈ ws, isSpace c = true) ∧ (∀ c ∈ ws', isSpace c = true) ∧
      l = ws ++ stripChars l ++ ws' ∧
      lowerChars [] l = ws ++ lowerChars [] (stripChars l) ++ ws' := by
  obtain ⟨ws, ws', hws, hws', hl⟩ := stripChars_split l
  refine ⟨ws, ws', hws, hws', hl, ?_⟩
  have hrev : ∀ c ∈ ws.reverse, isSpace c = true := fun c hc => hws c (List.mem_reverse.1 hc)
  rw [hl, lowerChars_append_space _ _ hws', lowerChars_space_append _ _ hws, List.append_nil,
    ← hl, ← List.nil_append ws.reverse, lowerChars_before_space [] _ hrev]

lemma lowerOne_ne_nil (before : List Char) (c : Char) (rest : List Char) :
    lowerOne before c rest ≠ [] := by
  rw [lowerOne]
  split_ifs <;> simp

lemma lower_eq_empty {t : String} (h : lower t = lower "") : t = "" := by
  have hchars := congrArg String.toList h
  rw [toList_lower, toList_lower] at hchars
  cases hl : t.toList with
  | nil => exact String.toList_injective hl
  | cons c l =>
    rw [hl, lowerChars] at hchars
    exact absurd (List.append_eq_nil_iff.1 hchars).1 (lowerOne_ne_nil _ _ _)

lemma isSpace_lowerOne {before rest : List Char} {c d : Char} (hc : isSpace c = false)
    (hd : d ∈ lowerOne before c rest) : isSpace d = false := by
  rw [lowerOne] at hd
  split_ifs at hd
  · obtain rfl := List.mem_singleton.1 hd
    decide
  · obtain rfl := List.mem_singleton.1 hd
    decide
  · rcases List.mem_cons.1 hd with rfl | hd
    · decide
    · obtain rfl := List.mem_singleton.1 hd
      decide
  · obtain rfl := List.mem_singleton.1 hd
    exact isSpace_lowerChar hc

lemma head?_lowerChars {before l : List Char} (hl : ∀ c ∈ l.head?, isSpace c = false) :
    ∀ c ∈ (lowerChars before l).head?, isSpace c = false := by
  intro c hc
  cases l with
  | nil => simp [lowerChars] at hc
  | cons d l =>
    rw [lowerChars, List.head?_append_of_ne_nil _ (lowerOne_ne_nil before d l)] at hc
    exact isSpace_lowerOne (hl d rfl) (List.mem_of_head? hc)

lemma getLast?_lowerChars {before l : List Char} (hl : ∀ c ∈ l.getLast?, isSpace c = false) :
    ∀ c ∈ (lowerChars before l).getLast?, isSpace c = false := by
  induction l generalizing before with
  | nil => simp [lowerChars]
  | cons d l ih =>
    intro c hc
    cases l with
    | nil =>
      have hd : isSpace d = false := hl d rfl
      rw [lowerChars, lowerChars, List.append_nil] at hc
      exact isSpace_lowerOne hd (List.mem_of_getLast? hc)
    | cons e l =>
      have hrest : ∀ c ∈ (e :: l).getLast?, isSpace c = false := fun c hc => hl c (by simpa using hc)
      have hne : lowerChars (d :: before) (e :: l) ≠ [] := by simp [lowerChars, lowerOne_ne_nil]
      rw [lowerChars, List.getLast?_append_of_ne_nil _ hne] at hc
      exact ih hrest c hc

/-- Stripping and lowering commute. -/
lemma strip_lower (s : String) : strip (lower s) = lower (strip s) := by
  apply String.toList_injective
  simp only [toList_strip, toList_lower]
  obtain ⟨ws, ws', hws, hws', -, hl⟩ := lowerChars_of_stripChars s.toList
  rw [hl, stripChars_append_right _ hws', stripChars_append_left hws]
  exact stripChars_eq_self (head?_lowerChars fun _ => head?_stripChars)
    (getLast?_lowerChars fun _ => getLast?_stripChars)

/-- Lowering keeps what there is to strip. -/
lemma lower_strip_eq_lower {s : String} : lower (strip s) = lower s ↔ strip s = s := by
  constructor
  · intro h
    obtain ⟨ws, ws', -, -, hs, hl⟩ := lowerChars_of_stripChars s.toList
    have hlength := congrArg (List.length ∘ String.toList) h
    simp only [Function.comp_apply, toList_lower, toList_strip, hl, List.length_append] at hlength
    have hws : ws = [] := List.eq_nil_of_length_eq_zero (by omega)
    have hws' : ws' = [] := List.eq_nil_of_length_eq_zero (by omega)
    rw [hws, hws', List.nil_append, List.append_nil] at hs
    rw [strip, ← hs, String.ofList_toList]
  · intro h
    rw [h]

lemma strip_strip (s : String) : strip (strip s) = strip s := by
  apply String.toList_injective
  simp only [toList_strip, stripChars_stripChars]

/-- Digits and signs are the lowercase of themselves alone. -/
lemma eq_of_lowerChars {before l out : List Char} (h : lowerChars before l = out)
    (hout : ∀ c ∈ out, c.toNat < 65) : l = out := by
  subst h
  induction l generalizing before with
  | nil => rfl
  | cons c l ih =>
    rw [lowerChars] at hout ⊢
    have hl := ih fun d hd => hout d (List.mem_append_right _ hd)
    have hc : ∀ d ∈ lowerOne before c l, d.toNat < 65 := fun d hd =>
      hout d (List.mem_append_left _ hd)
    have hself : lowerOne before c l = [c] := by
      rw [lowerOne] at hc ⊢
      split_ifs at hc ⊢
      · exact absurd (hc _ List.mem_cons_self) (by decide)
      · exact absurd (hc _ List.mem_cons_self) (by decide)
      · exact absurd (hc _ List.mem_cons_self) (by decide)
      · rw [lowerChar_eq_of_lt (hc _ List.mem_cons_self)]
    rw [hself, List.singleton_append, ← hl]

/-- ASCII text is lowered character by character. -/
lemma lowerChars_ascii {l : List Char} (before : List Char) (hl : ∀ c ∈ l, c.toNat < 128) :
    lowerChars before l = l.map lowerChar := by
  induction l generalizing before with
  | nil => rfl
  | cons c l ih =>
    have hc := hl c List.mem_cons_self
    have hsigma : c ≠ 'Σ' := by rintro rfl; exact absurd hc (by decide)
    have hdotted : c ≠ 'İ' := by rintro rfl; exact absurd hc (by decide)
    rw [lowerChars, lowerOne, if_neg hsigma, if_neg hdotted,
      ih _ fun d hd => hl d (List.mem_cons_of_mem c hd)]
    rfl

/-- Text in the lower half of ASCII is its own lowercase. -/
lemma lowerChars_eq_self {l : List Char} (before : List Char)
    (hl : ∀ c ∈ l, c.toNat < 128 ∧ ¬(65 ≤ c.toNat ∧ c.toNat ≤ 90)) :
    lowerChars before l = l := by
  rw [lowerChars_ascii before fun c hc => (hl c hc).1]
  exact (List.map_congr_left fun c hc => lowerChar_of_ascii (hl c hc).1 (hl c hc).2).trans
    (List.map_id l)

def upper (s : String) : String := String.ofList (s.toList.flatMap upperChar)

/-- `re.sub(r"[…]+", " ", l)` for the class of the characters with `p`; `inRun` says that the
blank of the current run is written already. -/
def subRunsAux (p : Char → Bool) : Bool → List Char → List Char
  | _, [] => []
  | inRun, c :: l =>
      if p c then
        if inRun then subRunsAux p true l else ' ' :: subRunsAux p true l
      else c :: subRunsAux p false l

def subRuns (p : Char → Bool) (l : List Char) : List Char := subRunsAux p false l

lemma subRunsAux_subRunsAux {p q : Char → Bool} (hq : q ' ' = true) {b₁ b₂ : Bool}
    (hb : b₁ = true → b₂ = true) (l : List Char) :
    subRunsAux q b₂ (subRunsAux p b₁ l) = subRunsAux (fun c => p c || q c) b₂ l := by
  induction l generalizing b₁ b₂ with
  | nil => rfl
  | cons c l ih =>
    by_cases hp : p c = true
    · cases b₁ with
      | true => simp [subRunsAux, hp, hb rfl, ih]
      | false => cases b₂ <;> simp [subRunsAux, hp, hq, ih]
    · by_cases hqc : q c = true
      · cases b₂ <;> simp [subRunsAux, hp, hqc, ih]
      · simp [subRunsAux, hp, hqc, ih]

/-- Two substitutions in a row are one, for the union of the classes. -/
lemma subRuns_subRuns {p q : Char → Bool} (hq : q ' ' = true) (l : List Char) :
    subRuns q (subRuns p l) = subRuns (fun c => p c || q c) l :=
  subRunsAux_subRunsAux hq (by simp) l

lemma stripChars_subRunsAux (p : Char → Bool) (b : Bool) (l : List Char) :
    stripChars (subRunsAux p b l) = stripChars (subRuns p l) := by
  cases b with
  | false => rfl
  | true =>
    cases l with
    | nil => rfl
    | cons c l =>
      by_cases hp : p c = true
      · rw [subRuns, subRunsAux, subRunsAux, if_pos hp, if_pos hp, ← List.singleton_append]
        exact (stripChars_append_left (by decide)).symm
      · simp [subRuns, subRunsAux, hp]

lemma stripChars_subRunsAux_append_left {p : Char → Bool} {ws : List Char} (b : Bool)
    (l : List Char) (hws : ∀ c ∈ ws, p c = true) :
    stripChars (subRunsAux p b (ws ++ l)) = stripChars (subRuns p l) := by
  induction ws generalizing b with
  | nil => exact stripChars_subRunsAux p b l
  | cons w ws ih =>
    have hrest := ih true fun c hc => hws c (by simp [hc])
    have hblank : ∀ c ∈ [' '], isSpace c = true := by decide
    cases b with
    | true => simpa [subRunsAux, hws w (by simp)] using hrest
    | false =>
      rw [List.cons_append, subRunsAux, if_pos (hws w (by simp)), ← List.singleton_append]
      exact (stripChars_append_left hblank).trans hrest

lemma isSpace_subRunsAux {p : Char → Bool} {ws : List Char} (b : Bool)
    (hws : ∀ c ∈ ws, p c = true) : ∀ c ∈ subRunsAux p b ws, isSpace c = true := by
  induction ws generalizing b with
  | nil => simp [subRunsAux]
  | cons w ws ih =>
    have hrest := ih true fun c hc => hws c (by simp [hc])
    have hblank : isSpace ' ' = true := by decide
    cases b <;> simpa [subRunsAux, hws w (by simp), hblank] using hrest

lemma subRunsAux_append_right {p : Char → Bool} {ws : List Char} (b : Bool) (l : List Char)
    (hws : ∀ c ∈ ws, p c = true) :
    ∃ post, (∀ c ∈ post, isSpace c = true) ∧
      subRunsAux p b (l ++ ws) = subRunsAux p b l ++ post := by
  induction l generalizing b with
  | nil => exact ⟨subRunsAux p b ws, isSpace_subRunsAux b hws, by simp [subRunsAux]⟩
  | cons c l ih =>
    by_cases hp : p c = true
    · obtain ⟨post, hpost, h⟩ := ih true
      exact ⟨post, hpost, by cases b <;> simp [subRunsAux, hp, h]⟩
    · obtain ⟨post, hpost, h⟩ := ih false
      exact ⟨post, hpost, by simp [subRunsAux, hp, h]⟩

/-- What a stripped substitution gives does not depend on outer characters of the class. -/
lemma stripChars_subRuns_append {p : Char → Bool} {ws ws' : List Char} (l : List Char)
    (hws : ∀ c ∈ ws, p c = true) (hws' : ∀ c ∈ ws', p c = true) :
    stripChars (subRuns p (ws ++ l ++ ws')) = stripChars (subRuns p l) := by
  obtain ⟨post, hpost, h⟩ := subRunsAux_append_right false (ws ++ l) hws'
  rw [subRuns, h, stripChars_append_right _ hpost, stripChars_subRunsAux_append_left _ _ hws]

/-- No two blanks side by side. -/
def Spaced (l : List Char) : Prop := l.IsChain fun a b => ¬(a = ' ' ∧ b = ' ')

lemma mem_subRunsAux {p : Char → Bool} {b : Bool} {l : List Char} {c : Char}
    (hc : c ∈ subRunsAux p b l) : p c = false ∨ c = ' ' := by
  induction l generalizing b with
  | nil => simp [subRunsAux] at hc
  | cons d l ih =>
    by_cases hp : p d = true
    · cases b with
      | true => exact ih (by simpa [subRunsAux, hp] using hc)
      | false =>
        rcases List.mem_cons.1 (by simpa [subRunsAux, hp] using hc) with rfl | h
        · exact Or.inr rfl
        · exact ih h
    · rcases List.mem_cons.1 (by simpa [subRunsAux, hp] using hc) with rfl | h
      · exact Or.inl (by simpa using hp)
      · exact ih h

lemma spaced_subRunsAux {p : Char → Bool} (hp : p ' ' = true) (b : Bool) (l : List Char) :
    Spaced (subRunsAux p b l) ∧ (b = true → ∀ c ∈ (subRunsAux p b l).head?, c ≠ ' ') := by
  induction l generalizing b with
  | nil => simp [subRunsAux, Spaced]
  | cons c l ih =>
    by_cases hc : p c = true
    · cases b with
      | true => simpa [subRunsAux, hc] using ih true
      | false =>
        obtain ⟨hsp, hhead⟩ := ih true
        refine ⟨?_, by simp⟩
        simp only [subRunsAux, hc, if_true, Bool.false_eq_true, if_false, Spaced]
        exact List.isChain_cons.2 ⟨fun d hd h => hhead rfl d hd h.2, hsp⟩
    · have hne : c ≠ ' ' := by rintro rfl; exact hc hp
      refine ⟨?_, by simp [subRunsAux, hc, hne]⟩
      simp only [subRunsAux, hc, Spaced]
      exact List.isChain_cons.2 ⟨fun d _ h => hne h.1, (ih false).1⟩

lemma spaced_subRuns {p : Char → Bool} (hp : p ' ' = true) (l : List Char) :
    Spaced (subRuns p l) := (spaced_subRunsAux hp false l).1

/-- A text whose only characters of the class are single blanks is left alone. -/
lemma subRuns_eq_self {p : Char → Bool} {l : List Char} (hl : ∀ c ∈ l, p c = false ∨ c = ' ')
    (hsp : Spaced l) : subRuns p l = l := by
  have haux : ∀ b : Bool, (b = true → ∀ c ∈ l.head?, c ≠ ' ') → subRunsAux p b l = l := by
    induction l with
    | nil => intro b _; rfl
    | cons c l ih =>
      intro b hb
      obtain ⟨hnext, hrest⟩ := List.isChain_cons.1 hsp
      have hl' : ∀ d ∈ l, p d = false ∨ d = ' ' := fun d hd => hl d (by simp [hd])
      by_cases hc : p c = true
      · have hblank : c = ' ' := (hl c (by simp)).resolve_left (by simp [hc])
        have hb' : b = false := by
          by_contra h
          exact hb (by simpa using h) c rfl hblank
        rw [subRunsAux, if_pos hc, hb', hblank]
        simp only [Bool.false_eq_true, if_false]
        rw [ih hl' hrest true fun _ d hd h => hnext d hd ⟨hblank, h⟩]
      · rw [subRunsAux, if_neg hc, ih hl' hrest false (by simp)]
  exact haux false (by simp)

def isDigitText (s : String) : Bool := !s.toList.isEmpty && s.toList.all isDigit

def hexValue? (c : Char) : Option ℕ :=
  if 97 ≤ c.toNat ∧ c.toNat ≤ 102 then some (c.toNat - 87)
  else if 65 ≤ c.toNat ∧ c.toNat ≤ 70 then some (c.toNat - 55)
  else decimalValue? c

/-- Digits with single underscores between them, read onto `acc`. -/
def digitsOnto (value? : Char → Option ℕ) (base : ℕ) : ℕ → List Char → Option ℕ
  | acc, [] => some acc
  | acc, '_' :: d :: l => (value? d).bind fun v => digitsOnto value? base (acc * base + v) l
  | acc, d :: l => (value? d).bind fun v => digitsOnto value? base (acc * base + v) l

def digits? (value? : Char → Option ℕ) (base : ℕ) : List Char → Option ℕ
  | [] => none
  | d :: l => (value? d).bind fun v => digitsOnto value? base v l

def signed (read : List Char → Option ℕ) : List Char → Option ℤ
  | '-' :: l => (read l).map fun n => -(n : ℤ)
  | '+' :: l => (read l).map fun n => (n : ℤ)
  | l => (read l).map fun n => (n : ℤ)

/-- `int(s)`; `none` is its `ValueError`. -/
def int? (s : String) : Option ℤ := signed (digits? decimalValue? 10) (stripChars s.toList)

def hexBody : List Char → List Char
  | '0' :: x :: '_' :: l => if x = 'x' ∨ x = 'X' then l else '0' :: x :: '_' :: l
  | '0' :: x :: l => if x = 'x' ∨ x = 'X' then l else '0' :: x :: l
  | l => l

/-- `int(s, 16)`. -/
def int16? (s : String) : Option ℤ :=
  signed (fun l => digits? hexValue? 16 (hexBody l)) (stripChars s.toList)

/-- The text before the first character with `p`, and what follows that character if there is
one. -/
def splitAtFirst (p : Char → Bool) (l : List Char) : List Char × Option (List Char) :=
  (l.takeWhile (!p ·), (l.dropWhile (!p ·)).tail? )

/-- The value of `ip.fp`, where one of the two sides may be empty. -/
def mantissa? (l : List Char) : Option ℚ :=
  match splitAtFirst (· = '.') l with
  | (ip, none) => (digits? decimalValue? 10 ip).map fun n => (n : ℚ)
  | (ip, some []) => (digits? decimalValue? 10 ip).map fun n => (n : ℚ)
  | ([], some fp) => (digits? decimalValue? 10 fp).map fun n =>
      (n : ℚ) / 10 ^ (fp.filter (· ≠ '_')).length
  | (ip, some fp) => (digits? decimalValue? 10 ip).bind fun n =>
      (digits? decimalValue? 10 fp).map fun m => n + (m : ℚ) / 10 ^ (fp.filter (· ≠ '_')).length

def unsignedFloat? (l : List Char) : Option ℚ :=
  match splitAtFirst (fun c => c = 'e' || c = 'E') l with
  | (m, none) => mantissa? m
  | (m, some ex) => (mantissa? m).bind fun q =>
      (signed (digits? decimalValue? 10) ex).map fun k => q * (10 : ℚ) ^ k

/-- `float(s)` where it is finite, read exactly; `none` is its `ValueError`. -/
def float? (s : String) : Option ℚ :=
  match stripChars s.toList with
  | '-' :: l => (unsignedFloat? l).map (-·)
  | '+' :: l => unsignedFloat? l
  | l => unsignedFloat? l

def hexPair (n : ℕ) : List Char := [Nat.digitChar (n / 16), Nat.digitChar (n % 16)]

def reprChar (quote c : Char) : List Char :=
  if c = quote ∨ c = '\\' then ['\\', c]
  else if c = '\n' then ['\\', 'n']
  else if c = '\r' then ['\\', 'r']
  else if c = '\t' then ['\\', 't']
  else if c.toNat < 32 ∨ (127 ≤ c.toNat ∧ c.toNat ≤ 160) ∨ c.toNat = 173 then
    '\\' :: 'x' :: hexPair c.toNat
  else [c]

/-- `repr(s)`. Characters beyond Latin-1 are all taken as printable. -/
def reprText (s : String) : String :=
  let quote := if '\'' ∈ s.toList ∧ '"' ∉ s.toList then '"' else '\''
  String.ofList (quote :: s.toList.flatMap (reprChar quote) ++ [quote])

def startsWith (s pre : String) : Bool := pre.toList.isPrefixOf s.toList

/-- What a pattern that ends in `$` still has to match: the text before a final newline. -/
def beforeDollar (s : String) : List Char :=
  if s.toList.getLast? = some '\n' then s.toList.dropLast else s.toList

lemma beforeDollar_strip (s : String) : beforeDollar (strip s) = (strip s).toList := by
  have hlast : (strip s).toList.getLast? ≠ some '\n' := by
    intro hlast
    have hspace := getLast?_stripChars (l := s.toList) (c := '\n') (by simpa using hlast)
    exact absurd hspace (by decide)
  rw [beforeDollar, if_neg hlast]

/-- `s[:n]`. -/
def take (s : String) (n : ℕ) : String := String.ofList (s.toList.take n)

example : int? " -1_000 " = some (-1000) := by decide

example : lower "ΑΣ AΣB" = "ας aσb" := by decide +kernel

end SherwoodMonitor.PyText
