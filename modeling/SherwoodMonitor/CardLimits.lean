import SherwoodMonitor.CardMarkup

/-! The texts that are sent of proposal and draft cards (`telegram/cards_live.py`): clipped to
Telegram's limits, they may be cut where HTML cannot be. -/
namespace SherwoodMonitor.CardLimits
open PyText Models PayloadCodecs Markup LiveEdits CardText CardMarkup

/-! ### Calls -/

variable (fl : ℚ → ℚ) {Markup : Type}

def callText : Call Markup → String
  | .sendPhoto _ caption _ => caption
  | .sendMessage text _ => text
  | .editMessageMedia _ caption _ => caption
  | .editMessageCaption caption _ => caption
  | .editMessageText text _ => text

/-- Telegram's limit for a caption or for a message. -/
def callLimit : Call Markup → ℕ
  | .sendPhoto _ _ _ => captionLimit
  | .sendMessage _ _ => textLimit
  | .editMessageMedia _ _ _ => captionLimit
  | .editMessageCaption _ _ => captionLimit
  | .editMessageText _ _ => textLimit

/-- A call by which `LiveCards.post` or `LiveCards.edit` sends a card. -/
def Sends (text : String) (markup : Markup) (call : Call Markup) : Prop :=
  ∃ image, call = postCall ⟨text, some markup, image⟩ ∨
    ∃ ref, call = Edit.call ⟨ref, text, some markup, image⟩

/-- The text is within the limit, and nothing in it is cut. -/
def Accepted (call : Call Markup) : Prop :=
  (callText call).length ≤ callLimit call ∧ WellFormed (callText call).toList

lemma callLimit_pos (call : Call Markup) : 0 < callLimit call := by
  cases call <;> simp [callLimit, captionLimit, textLimit]

lemma Sends.clipped {text : String} {markup : Markup} {call : Call Markup}
    (h : Sends text markup call) : callText call = clip text (callLimit call) := by
  obtain ⟨image, rfl | ⟨ref, rfl⟩⟩ := h
  · rw [postCall]
    split <;> rfl
  · rw [Edit.call]
    split
    · split_ifs <;> rfl
    · rfl

lemma length_clip (text : String) {limit : ℕ} (hlimit : 0 < limit) :
    (clip text limit).length ≤ limit := by
  rw [clip]
  split_ifs with hfits
  · exact hfits
  · rw [String.length_append, take, String.length_ofList, List.length_take]
    have hone : "…".length = 1 := by decide
    omega

/-! ### Cuts -/

/-- What is sent of a card with this head and this document is well formed. An uncut text has a well
formed head and no stray `<`; a cut is in no element and in no entity. -/
def StaysWhole (head : List Char) (doc : List Part) (limit : ℕ) : Prop :=
  if (head ++ html doc).length ≤ limit then WellFormed head ∧ ∀ part ∈ doc, ¬part.IsStray
  else if limit - 1 ≤ head.length then WellFormed (head.take (limit - 1))
  else WellFormed head ∧ Cuts doc (limit - 1 - head.length)

lemma wellFormed_clip_iff {head : List Char} {doc : List Part} {text : String}
    (htext : text.toList = head ++ html doc) (limit : ℕ)
    (hhead : ∀ name opened, read start head ≠ some ⟨.entity name, opened⟩) :
    WellFormed (clip text limit).toList ↔ StaysWhole head doc limit := by
  have hlen : text.length = (head ++ html doc).length := by
    rw [← htext, String.length_toList]
  have hcut : (take text (limit - 1) ++ "…").toList =
      (head ++ html doc).take (limit - 1) ++ ['…'] := by
    have hdots : "…".toList = ['…'] := String.toList_ofList
    rw [String.toList_append, take, String.toList_ofList, htext, hdots]
  rw [clip, StaysWhole, hlen]
  by_cases hfits : (head ++ html doc).length ≤ limit
  · rw [if_pos hfits, if_pos hfits, htext, wellFormed_append_iff doc hhead]
  · rw [if_neg hfits, if_neg hfits, hcut, wellFormed_concat_iff (by decide),
      wellFormed_take_iff doc (limit - 1) hhead]

/-- The head of a card ends with a blank, so that no entity goes on behind it. -/
lemma proposalHead_settled (p : ProposalView) (name : List Char) (opened : List (List Char)) :
    read start (proposalHead p) ≠ some ⟨.entity name, opened⟩ := by
  have hlast : proposalHead p = ((statusChip (lower p.status)).toList ++ [' ', '·']) ++ [' '] := by
    rw [proposalHead, List.append_assoc]
    rfl
  rw [hlast]
  exact not_entity_concat (by decide) _ _

/-- A card that is sent is accepted just where its text stays whole. -/
lemma accepted_iff {head : List Char} {doc : List Part} {text : String} {markup : Markup}
    {call : Call Markup} (htext : text.toList = head ++ html doc)
    (hhead : ∀ name opened, read start head ≠ some ⟨.entity name, opened⟩)
    (hsends : Sends text markup call) : Accepted call ↔ StaysWhole head doc (callLimit call) := by
  have hlength := length_clip text (callLimit_pos call)
  rw [Accepted, hsends.clipped, wellFormed_clip_iff htext _ hhead]
  exact and_iff_right hlength

/-! ### Drafts -/

/-- Nothing in a draft's card is stray. -/
def Tidy (doc : List Part) : Prop := ∀ part ∈ doc, ¬part.IsStray

lemma Tidy.append {doc rest : List Part} (h : Tidy doc) (h' : Tidy rest) : Tidy (doc ++ rest) :=
  fun part hpart => (List.mem_append.1 hpart).elim (h part) (h' part)

lemma tidy_intercalate {sep : List Part} {docs : List (List Part)} (hsep : Tidy sep)
    (hdocs : ∀ doc ∈ docs, Tidy doc) : Tidy (sep.intercalate docs) := by
  induction docs with
  | nil => exact fun _ h => (nomatch h)
  | cons doc docs ih =>
    obtain ⟨hdoc, hrest⟩ := List.forall_mem_cons.1 hdocs
    cases docs with
    | nil => rwa [List.intercalate_singleton]
    | cons next docs =>
      rw [List.intercalate_cons_cons]
      exact (hdoc.append hsep).append (ih hrest)

lemma tidy_nil : Tidy [] := fun _ h => (nomatch h)

lemma tidy_cons {part : Part} {rest : List Part} (hpart : ¬part.IsStray) (hrest : Tidy rest) :
    Tidy (part :: rest) := List.forall_mem_cons.2 ⟨hpart, hrest⟩

def TidyRows (rows : List (List Part)) : Prop := ∀ row ∈ rows, Tidy row

lemma TidyRows.append {rows rows' : List (List Part)} (h : TidyRows rows) (h' : TidyRows rows') :
    TidyRows (rows ++ rows') := fun row hrow => (List.mem_append.1 hrow).elim (h row) (h' row)

lemma tidyRows_nil : TidyRows [] := by
  simp [TidyRows]

lemma tidyRows_one {row : List Part} (h : Tidy row) : TidyRows [row] := by
  simpa [TidyRows] using h

lemma tidyRows_texts (lines : List String) : TidyRows (lines.map fun line => [textPart line]) := by
  intro row hrow
  obtain ⟨line, -, rfl⟩ := List.mem_map.1 hrow
  exact tidy_cons id tidy_nil

lemma tidyRows_shape (p : ProposalView) (fund : Option FundView) :
    TidyRows (shapeRows fl p fund) := by
  have hlegs : TidyRows (legsRows fl p) := by
    rw [legsRows]
    split_ifs
    · refine tidyRows_one (tidy_intercalate (tidy_cons id tidy_nil) fun doc hdoc => ?_)
      obtain ⟨leg, -, rfl⟩ := List.mem_map.1 hdoc
      rw [legParts]
      split_ifs
      · exact tidy_cons id (tidy_cons id tidy_nil)
      · exact tidy_cons id tidy_nil
    · exact tidyRows_nil
  have hcapital : Tidy (capitalParts fl p) :=
    tidy_cons id (tidy_cons id (tidy_cons id (tidy_cons id tidy_nil)))
  have hthesis : TidyRows [thesisRow p, []] :=
    (tidyRows_one (tidy_cons id tidy_nil)).append (tidyRows_one tidy_nil)
  exact ((hthesis.append hlegs).append (tidyRows_one hcapital)).append (tidyRows_texts _)

lemma tidy_draftDoc (p : ProposalView) (fund : Option FundView) (people : People)
    (woodUsd shortfall : Option ℚ) : Tidy (draftDoc fl p fund people woodUsd shortfall) := by
  have htitle : Tidy (draftTitle p people) := tidy_cons id (tidy_cons id (tidy_cons id tidy_nil))
  have hagent : TidyRows (agentRows p) := by
    rw [agentRows]
    split_ifs
    · exact tidyRows_one (tidy_cons id tidy_nil)
    · exact tidyRows_nil
  have hbuffer : TidyRows (bufferRows p) := by
    rw [bufferRows]
    split_ifs
    · exact tidyRows_one (tidy_cons id tidy_nil)
    · exact tidyRows_nil
  have hlast : TidyRows [[], [italic "Host: 🚀 Ship it sends this to a vote."]] :=
    (tidyRows_one tidy_nil).append (tidyRows_one (tidy_cons id tidy_nil))
  have hrows : TidyRows (draftRows fl p fund woodUsd shortfall) :=
    (((((tidyRows_shape fl p fund).append hagent).append (tidyRows_one (tidy_cons id tidy_nil))).append
      (tidyRows_texts _)).append hbuffer).append hlast
  exact tidy_intercalate (tidy_cons id tidy_nil) (List.forall_mem_cons.2 ⟨htitle, hrows⟩)

lemma staysWhole_tidy {doc : List Part} {limit : ℕ} (hlimit : 1 < limit) (h : Tidy doc) :
    StaysWhole [] doc limit ↔ (html doc).length ≤ limit ∨ Cuts doc (limit - 1) := by
  have hempty : WellFormed [] := rfl
  rw [StaysWhole, List.nil_append]
  split_ifs with hfits hcut
  · exact iff_of_true ⟨hempty, h⟩ (Or.inl hfits)
  · simp at hcut
    omega
  · simp [hempty, hfits]

/-! ### Cards -/

lemma text_of_proposal {p : ProposalView} {fund : Option FundView} {people : People}
    {woodUsd : Option ℚ} {baseUrl : String} {now : ℚ} {text : String} {keyboard : Keyboard}
    (h : renderProposalCard fl p fund people woodUsd baseUrl now = .ok (text, keyboard)) :
    text = proposalText fl p fund people woodUsd now := by
  obtain ⟨first, -, h⟩ := Service.bind_eq_ok.1 h
  obtain ⟨second, -, h⟩ := Service.bind_eq_ok.1 h
  exact (Prod.mk.inj (Except.ok.inj h)).1.symm

lemma text_of_draft {p : ProposalView} {fund : Option FundView} {people : People}
    {woodUsd shortfall : Option ℚ} {cosign : Bool} {text : String} {keyboard : Keyboard}
    (h : renderDraftCard fl p fund people woodUsd shortfall cosign = .ok (text, keyboard)) :
    text = draftText fl p fund people woodUsd shortfall := by
  obtain ⟨ship, -, h⟩ := Service.bind_eq_ok.1 h
  split_ifs at h
  · obtain ⟨button, -, h⟩ := Service.bind_eq_ok.1 h
    exact (Prod.mk.inj (Except.ok.inj h)).1.symm
  · exact (Prod.mk.inj (Except.ok.inj h)).1.symm

/-- Where the cards that are sent are accepted. A proposal's card has no stray `<` before the end or
the cut, and a chip that is well formed; and no cut is in an element or an entity. -/
theorem card_accepted_iff :
    (∀ (p : ProposalView) (fund : Option FundView) (people : People) (woodUsd : Option ℚ)
      (baseUrl : String) (now : ℚ) (text : String) (keyboard : Keyboard) (call : Call Keyboard),
      renderProposalCard fl p fund people woodUsd baseUrl now = .ok (text, keyboard) →
        Sends text keyboard call →
        (Accepted call ↔ StaysWhole (proposalHead p) (proposalDoc fl p fund people woodUsd now)
          (callLimit call))) ∧
    (∀ (p : ProposalView) (fund : Option FundView) (people : People) (woodUsd shortfall : Option ℚ)
      (cosign : Bool) (text : String) (keyboard : Keyboard) (call : Call Keyboard),
      renderDraftCard fl p fund people woodUsd shortfall cosign = .ok (text, keyboard) →
        Sends text keyboard call →
        (Accepted call ↔
          (html (draftDoc fl p fund people woodUsd shortfall)).length ≤ callLimit call ∨
            Cuts (draftDoc fl p fund people woodUsd shortfall) (callLimit call - 1))) := by
  refine ⟨?_, ?_⟩
  · intro p fund people woodUsd baseUrl now text keyboard call hrender hsends
    rw [text_of_proposal fl hrender] at hsends
    exact accepted_iff (toList_proposalText fl p fund people woodUsd now) (proposalHead_settled p)
      hsends
  · intro p fund people woodUsd shortfall cosign text keyboard call hrender hsends
    rw [text_of_draft fl hrender] at hsends
    have hlimit : 1 < callLimit call := by
      cases call <;> simp [callLimit, captionLimit, textLimit]
    rw [accepted_iff (toList_draftText fl p fund people woodUsd shortfall)
      (fun _ _ => by simp [start]) hsends,
      staysWhole_tidy hlimit (tidy_draftDoc fl p fund people woodUsd shortfall)]

def smallCard (status : String) : ProposalView :=
  { id := "7", proposer := "", thesis := "buy", status, thresholdBps := 2000, votingEndsAt := some 30 }

def nobody : People := fun _ => none

def shipKeyboard : Keyboard := [[⟨"🚀 Ship it", .callbackData "shfund:shipit:7"⟩]]

/-- Two cards that are sent as they are. -/
theorem card_accepted_iff_small :
    Accepted (postCall ⟨proposalText id (smallCard "passed") none nobody none 0,
      some ([] : Keyboard), none⟩) ∧
    Accepted (postCall ⟨draftText id (smallCard "draft") none nobody none none, some shipKeyboard,
      none⟩) := by
  constructor
  · have hrender : renderProposalCard id (smallCard "passed") none nobody none "" 0 =
        .ok (proposalText id (smallCard "passed") none nobody none 0, []) := by
      have hrow : backRow (smallCard "passed") = .ok [] := by
        have hstatus : ¬lower (smallCard "passed").status ∈ ["proposed", "voting"] := by decide +kernel
        rw [backRow, if_neg hstatus]
        rfl
      rw [renderProposalCard, hrow]
      rfl
    refine ((card_accepted_iff id).1 _ _ _ _ _ _ _ _ _ hrender ⟨none, Or.inl rfl⟩).2 ?_
    rw [StaysWhole, if_pos (by decide +kernel)]
    exact ⟨by decide +kernel, by decide +kernel⟩
  · have hrender : renderDraftCard id (smallCard "draft") none nobody none none false =
        .ok (draftText id (smallCard "draft") none nobody none none, shipKeyboard) := by
      have hdata : cb "shipit" (.str "7") = .ok "shfund:shipit:7" := by decide +kernel
      rw [renderDraftCard, callbackButton, smallCard, hdata]
      rfl
    exact ((card_accepted_iff id).2 _ _ _ _ _ _ _ _ _ hrender ⟨none, Or.inl rfl⟩).2
      (Or.inl (by decide +kernel))

def voteKeyboard : Keyboard :=
  [[⟨"👍 Back it", .callbackData "shfund:back:7"⟩, ⟨"❌ Object", .callbackData "shfund:vote:7"⟩]]

lemma render_voting : renderProposalCard id (smallCard "voting") none nobody none "" 0 =
    .ok (proposalText id (smallCard "voting") none nobody none 0, voteKeyboard) := by
  have hback : cb "back" (.str "7") = .ok "shfund:back:7" := by decide +kernel
  have hvote : cb "vote" (.str "7") = .ok "shfund:vote:7" := by decide +kernel
  have hstatus : lower "voting" = "voting" := by decide +kernel
  have hrow : backRow (smallCard "voting") = .ok
      [⟨"👍 Back it", .callbackData "shfund:back:7"⟩, ⟨"❌ Object", .callbackData "shfund:vote:7"⟩] := by
    simp only [backRow, smallCard, hstatus, callbackButton, hback, hvote]
    rfl
  rw [renderProposalCard, hrow]
  rfl

lemma voting_stray :
    ¬StaysWhole (proposalHead (smallCard "voting"))
      (proposalDoc id (smallCard "voting") none nobody none 0) textLimit := by
  rw [StaysWhole, if_pos (by decide +kernel)]
  exact fun h => absurd h.2 (by decide +kernel)

/-- In the last minute of a vote the clock is no text of HTML. -/
theorem not_card_accepted :
    ¬∀ (p : ProposalView) (people : People) (now : ℚ) (text : String) (keyboard : Keyboard)
      (call : Call Keyboard), renderProposalCard id p none people none "" now = .ok (text, keyboard) →
        Sends text keyboard call → Accepted call := by
  intro h
  have hsends : Sends (proposalText id (smallCard "voting") none nobody none 0) voteKeyboard
      (postCall ⟨proposalText id (smallCard "voting") none nobody none 0, some voteKeyboard, none⟩) :=
    ⟨none, Or.inl rfl⟩
  have haccepted := h (smallCard "voting") nobody 0 _ voteKeyboard _ render_voting hsends
  have htext := toList_proposalText id (smallCard "voting") none nobody none 0
  exact voting_stray ((accepted_iff htext (proposalHead_settled _) hsends).1 haccepted)

end SherwoodMonitor.CardLimits
