import Mathlib.Data.List.Basic
import Mathlib.Tactic

/-! A text framed by an opening and a closing tag. Each tag occurs once, where the mark that both
begin with stands nowhere between them. In a text put together from pieces that separators keep
apart, a pattern occurs where it occurs in a piece. -/
namespace SherwoodMonitor.Frames

variable {α : Type*}

/-- The places of the text where the pattern begins. -/
def occurrences [DecidableEq α] (pattern : List α) : List α → ℕ
  | [] => if pattern = [] then 1 else 0
  | a :: l => (if pattern <+: a :: l then 1 else 0) + occurrences pattern l

section Count
variable [DecidableEq α] {mark a : α} {pattern l body : List α}

@[simp] lemma occurrences_mark_nil : occurrences (mark :: pattern) [] = 0 := rfl

lemma occurrences_mark_cons :
    occurrences (mark :: pattern) (mark :: l) =
      (if pattern <+: l then 1 else 0) + occurrences (mark :: pattern) l := by
  rw [occurrences]
  simp only [List.cons_prefix_cons, true_and]

/-- No occurrence begins where the pattern's first element does not stand. -/
lemma occurrences_append (hbody : mark ∉ body) (l : List α) :
    occurrences (mark :: pattern) (body ++ l) = occurrences (mark :: pattern) l := by
  induction body with
  | nil => rfl
  | cons a body ih =>
    obtain ⟨hne, hrest⟩ := List.ne_and_not_mem_of_not_mem_cons hbody
    rw [List.cons_append, occurrences, if_neg, Nat.zero_add, ih hrest]
    exact fun hpre => hne (List.cons_prefix_cons.1 hpre).1

lemma occurrences_eq_zero (hbody : mark ∉ body) : occurrences (mark :: pattern) body = 0 := by
  rw [← List.append_nil body, occurrences_append hbody, occurrences_mark_nil]

end Count

/-- Where a text is split, no piece has a separator in it. -/
lemma forall_mem_splitOnP {p : α → Bool} {l piece : List α} (hpiece : piece ∈ l.splitOnP p) :
    ∀ a ∈ piece, p a = false := by
  induction l generalizing piece with
  | nil =>
    rw [List.splitOnP_nil, List.mem_singleton] at hpiece
    simp [hpiece]
  | cons b l ih =>
    rw [List.splitOnP_cons_eq_if_modifyHead] at hpiece
    split_ifs at hpiece with hb
    · rcases List.mem_cons.1 hpiece with rfl | hrest
      · simp
      · exact ih hrest
    · cases hpieces : l.splitOnP p with
      | nil => exact absurd hpieces (List.splitOnP_ne_nil p l)
      | cons first rest =>
        rw [hpieces, List.modifyHead_cons, List.mem_cons] at hpiece
        rw [hpieces] at ih
        rcases hpiece with rfl | hrest
        · intro a ha
          rcases List.mem_cons.1 ha with rfl | ha
          · simpa using hb
          · exact ih List.mem_cons_self a ha
        · exact ih (List.mem_cons_of_mem _ hrest)

lemma mem_or_mem_of_mem_intercalate {sep : List α} {pieces : List (List α)} {a : α}
    (h : a ∈ sep.intercalate pieces) : a ∈ sep ∨ ∃ piece ∈ pieces, a ∈ piece := by
  induction pieces with
  | nil => simp [List.intercalate_nil] at h
  | cons first rest ih =>
    cases rest with
    | nil =>
      rw [List.intercalate_singleton] at h
      exact Or.inr ⟨first, List.mem_cons_self, h⟩
    | cons second rest =>
      rw [List.intercalate_cons_cons, List.mem_append, List.mem_append] at h
      rcases h with (hfirst | hsep) | hrest
      · exact Or.inr ⟨first, List.mem_cons_self, hfirst⟩
      · exact Or.inl hsep
      · exact (ih hrest).imp id fun ⟨piece, hpiece, ha⟩ =>
          ⟨piece, List.mem_cons_of_mem _ hpiece, ha⟩

/-! ### Tags -/

/-- `<tag>` and `</tag>`. -/
def openTag (tag : List Char) : List Char := '<' :: (tag ++ ['>'])
def closeTag (tag : List Char) : List Char := '<' :: '/' :: (tag ++ ['>'])

/-- The text is the opening tag, a body in which no tag begins, and the closing tag. -/
def Framed (tag text : List Char) : Prop :=
  ∃ body, text = openTag tag ++ body ++ closeTag tag ∧ '<' ∉ body

/-- A tag's name: no tag begins in it, and no slash stands before it. -/
structure TagName (tag : List Char) : Prop where
  free : '<' ∉ tag
  name : tag.head? ≠ some '/'

variable {tag text : List Char}

lemma Framed.occurrences_eq (h : Framed tag text) (htag : TagName tag) (pattern : List Char) :
    occurrences ('<' :: pattern) text =
      (if pattern <+: tag ++ '>' :: text.drop (tag.length + 2) then 1 else 0) +
        (if pattern <+: '/' :: (tag ++ ['>']) then 1 else 0) := by
  obtain ⟨body, rfl, hopen⟩ := h
  have hsplit : openTag tag ++ body ++ closeTag tag =
      '<' :: ((tag ++ '>' :: body) ++ '<' :: '/' :: (tag ++ ['>'])) := by
    simp [openTag, closeTag]
  have hdrop : (openTag tag ++ body ++ closeTag tag).drop (tag.length + 2) =
      body ++ closeTag tag := by
    rw [List.append_assoc]
    exact List.drop_left' (by simp [openTag])
  have hfirst : '<' ∉ tag ++ '>' :: body := by simp [htag.free, hopen]
  have hlast : '<' ∉ '/' :: (tag ++ ['>']) := by simp [htag.free]
  have hrest : tag ++ '>' :: body ++ '<' :: '/' :: (tag ++ ['>']) =
      tag ++ '>' :: (body ++ closeTag tag) := by
    simp [closeTag]
  rw [hdrop, hsplit, occurrences_mark_cons, occurrences_append hfirst, occurrences_mark_cons,
    occurrences_eq_zero hlast, hrest, Nat.add_zero]

lemma TagName.not_slash_prefix (htag : TagName tag) (l : List Char) :
    ¬ '/' :: (tag ++ ['>']) <+: tag ++ '>' :: l := by
  cases tag with
  | nil => simp
  | cons c tag =>
    intro hpre
    obtain rfl : '/' = c := (List.cons_prefix_cons.1 hpre).1
    exact htag.name rfl

lemma TagName.not_prefix_slash (htag : TagName tag) : ¬tag ++ ['>'] <+: '/' :: (tag ++ ['>']) := by
  intro hpre
  cases tag with
  | nil => simp at hpre
  | cons c tag =>
    obtain rfl : c = '/' := (List.cons_prefix_cons.1 hpre).1
    exact htag.name rfl

/-- The opening tag occurs once. -/
lemma Framed.opened_once (h : Framed tag text) (htag : TagName tag) :
    occurrences (openTag tag) text = 1 := by
  have hpre : tag ++ ['>'] <+: tag ++ '>' :: text.drop (tag.length + 2) := by
    exact ⟨_, by rw [List.append_assoc, List.singleton_append]⟩
  rw [openTag, h.occurrences_eq htag, if_pos hpre, if_neg htag.not_prefix_slash]

/-- The closing tag occurs once. -/
lemma Framed.closed_once (h : Framed tag text) (htag : TagName tag) :
    occurrences (closeTag tag) text = 1 := by
  rw [closeTag, h.occurrences_eq htag, if_neg (htag.not_slash_prefix _),
    if_pos List.prefix_rfl]

/-! ### Texts put together from pieces -/

section Pieces

/-- A pattern that begins before an element which it does not have ends before it. -/
lemma prefix_append_cons_iff {pattern l r : List α} {a : α} (ha : a ∉ pattern) :
    pattern <+: l ++ a :: r ↔ pattern <+: l := by
  constructor
  · intro h
    obtain ⟨rest, hrest⟩ := h
    rcases List.append_eq_append_iff.1 hrest with ⟨mid, hmid, -⟩ | ⟨mid, hmid, hr⟩
    · exact ⟨mid, hmid.symm⟩
    · cases mid with
      | nil => simp [hmid]
      | cons b mid =>
        obtain rfl : a = b := (List.cons.inj hr).1
        exact absurd (by simp [hmid]) ha
  · exact fun h => h.trans (List.prefix_append _ _)

variable [DecidableEq α] {pattern l r : List α}

/-- The piece begins, or ends, with an element that the pattern does not have. -/
def Starts (pattern l : List α) : Prop := ∃ a ∈ l.head?, a ∉ pattern
def Ends (pattern l : List α) : Prop := ∃ a ∈ l.getLast?, a ∉ pattern

instance : Decidable (Starts pattern l) :=
  match h : l.head? with
  | none => isFalse (by simp [Starts, h])
  | some a => decidable_of_iff (a ∉ pattern) (by simp [Starts, h])

instance : Decidable (Ends pattern l) :=
  match h : l.getLast? with
  | none => isFalse (by simp [Ends, h])
  | some a => decidable_of_iff (a ∉ pattern) (by simp [Ends, h])

/-- No occurrence goes over an element that the pattern does not have. -/
lemma occurrences_append_cons {a : α} (hne : pattern ≠ []) (ha : a ∉ pattern) :
    occurrences pattern (l ++ a :: r) = occurrences pattern l + occurrences pattern r := by
  induction l with
  | nil =>
    have hno : ¬pattern <+: a :: r := by
      cases pattern with
      | nil => exact absurd rfl hne
      | cons b pattern =>
        intro h
        obtain rfl := (List.cons_prefix_cons.1 h).1
        exact ha List.mem_cons_self
    simp [occurrences, hno, hne]
  | cons b l ih =>
    have hiff : pattern <+: b :: (l ++ a :: r) ↔ pattern <+: b :: l := by
      exact prefix_append_cons_iff (l := b :: l) ha
    rw [List.cons_append, occurrences, occurrences, ih, if_congr hiff rfl rfl]
    omega

lemma occurrences_cons {a : α} (hne : pattern ≠ []) (ha : a ∉ pattern) :
    occurrences pattern (a :: r) = occurrences pattern r := by
  have h := occurrences_append_cons (l := []) (r := r) hne ha
  simpa [occurrences, hne] using h

lemma occurrences_append_of_starts (hne : pattern ≠ []) (h : Starts pattern r) :
    occurrences pattern (l ++ r) = occurrences pattern l + occurrences pattern r := by
  obtain ⟨a, hhead, ha⟩ := h
  cases r with
  | nil => cases hhead
  | cons b r =>
    obtain rfl : b = a := by simpa using hhead
    rw [occurrences_append_cons hne ha, occurrences_cons hne ha]

lemma occurrences_append_of_ends (hne : pattern ≠ []) (h : Ends pattern l) :
    occurrences pattern (l ++ r) = occurrences pattern l + occurrences pattern r := by
  obtain ⟨a, hlast, ha⟩ := h
  obtain ⟨front, rfl⟩ := List.getLast?_eq_some_iff.1 hlast
  rw [List.append_assoc, List.singleton_append, occurrences_append_cons hne ha,
    occurrences_append_cons hne ha]
  simp [occurrences, hne]

lemma occurrences_intercalate {a : α} (hne : pattern ≠ []) (ha : a ∉ pattern)
    (pieces : List (List α)) :
    occurrences pattern ([a].intercalate pieces) = (pieces.map (occurrences pattern)).sum := by
  induction pieces with
  | nil => simp [List.intercalate_nil, occurrences, hne]
  | cons first rest ih =>
    cases rest with
    | nil => simp [List.intercalate_singleton]
    | cons second rest =>
      rw [List.intercalate_cons_cons, List.append_assoc, List.singleton_append,
        occurrences_append_cons hne ha, ih]
      simp

end Pieces

end SherwoodMonitor.Frames
