import Mathlib.Data.List.Basic

/-! Texts put together with a separator: what stands before the first one, and after the last one,
can be told from the whole. -/
namespace SherwoodMonitor.Separated

variable {α : Type*} {sep : α}

lemma append_cons_inj {a a' b b' : List α} (ha : sep ∉ a) (ha' : sep ∉ a')
    (h : a ++ sep :: b = a' ++ sep :: b') : a = a' ∧ b = b' := by
  induction a generalizing a' with
  | nil =>
    cases a' with
    | nil => exact ⟨rfl, (List.cons.inj h).2⟩
    | cons c a' =>
      obtain rfl : sep = c := (List.cons.inj h).1
      exact absurd List.mem_cons_self ha'
  | cons c a ih =>
    cases a' with
    | nil =>
      obtain rfl : c = sep := (List.cons.inj h).1
      exact absurd List.mem_cons_self ha
    | cons d a' =>
      obtain ⟨hhead, htail⟩ := List.cons.inj h
      obtain ⟨hrest, hb⟩ := ih (fun hmem => ha (List.mem_cons_of_mem c hmem))
        (fun hmem => ha' (List.mem_cons_of_mem d hmem)) htail
      exact ⟨by rw [hhead, hrest], hb⟩

lemma append_cons_inj_right {a a' b b' : List α} (hb : sep ∉ b) (hb' : sep ∉ b')
    (h : a ++ sep :: b = a' ++ sep :: b') : a = a' ∧ b = b' := by
  have hrev : b.reverse ++ sep :: a.reverse = b'.reverse ++ sep :: a'.reverse := by
    simpa using congrArg List.reverse h
  obtain ⟨hback, hfront⟩ := append_cons_inj (by simpa using hb) (by simpa using hb') hrev
  exact ⟨List.reverse_injective hfront, List.reverse_injective hback⟩

/-- `split(sep, n)`: the text cut at the first `n` separators. -/
def splitN [DecidableEq α] (sep : α) : ℕ → List α → List (List α)
  | 0, l => [l]
  | n + 1, l =>
    match l.dropWhile (· ≠ sep) with
    | [] => [l]
    | _ :: rest => l.takeWhile (· ≠ sep) :: splitN sep n rest

lemma splitN_append [DecidableEq α] {a : List α} (n : ℕ) (b : List α) (ha : sep ∉ a) :
    splitN sep (n + 1) (a ++ sep :: b) = a :: splitN sep n b := by
  have hne : ∀ x ∈ a, decide (x ≠ sep) = true := fun x hx =>
    decide_eq_true fun heq => ha (heq ▸ hx)
  rw [splitN, List.dropWhile_append_of_pos hne, List.takeWhile_append_of_pos hne]
  simp

/-- The text has no separator in it. -/
def Free (sep : Char) (s : String) : Prop := sep ∉ s.toList

variable {sep : Char} {a a' b b' s : String}

lemma toList_joined (hs : s.toList = [sep]) :
    (a ++ s ++ b).toList = a.toList ++ sep :: b.toList := by
  simp [hs]

/-- The field before the first separator, and the rest. -/
theorem joined_inj (ha : Free sep a) (ha' : Free sep a') (h : a ++ s ++ b = a' ++ s ++ b')
    (hs : s.toList = [sep] := by rfl) : a = a' ∧ b = b' := by
  have hlists := congrArg String.toList h
  rw [toList_joined hs, toList_joined hs] at hlists
  obtain ⟨hfront, hback⟩ := append_cons_inj ha ha' hlists
  exact ⟨String.toList_inj.1 hfront, String.toList_inj.1 hback⟩

/-- The field after the last separator, and what stands before. -/
theorem joined_inj_right (hb : Free sep b) (hb' : Free sep b')
    (h : a ++ s ++ b = a' ++ s ++ b') (hs : s.toList = [sep] := by rfl) : a = a' ∧ b = b' := by
  have hlists := congrArg String.toList h
  rw [toList_joined hs, toList_joined hs] at hlists
  obtain ⟨hfront, hback⟩ := append_cons_inj_right hb hb' hlists
  exact ⟨String.toList_inj.1 hfront, String.toList_inj.1 hback⟩

/-- All of a text's characters are of one kind, which the separator is not. -/
lemma free_of_chars {p : Char → Bool} (h : ∀ c ∈ a.toList, p c = true) (hsep : p sep = false) :
    Free sep a := by
  intro hmem
  rw [h sep hmem] at hsep
  cases hsep

end SherwoodMonitor.Separated
