import Mathlib.Data.List.Basic

/-! A table of records, each named by its place: records are rewritten in place and new ones come
at the end. -/
namespace SherwoodMonitor.Table
variable {α : Type*} {l : List α} {i j : ℕ} {a b : α}

lemma set_cases (h : (l.set i b)[j]? = some a) : j = i ∧ a = b ∨ j ≠ i ∧ l[j]? = some a := by
  rw [List.getElem?_set] at h
  split_ifs at h with hij hlt
  · exact Or.inl ⟨hij.symm, (Option.some.inj h).symm⟩
  · exact Or.inr ⟨Ne.symm hij, h⟩

lemma concat_cases (h : (l ++ [b])[j]? = some a) :
    j = l.length ∧ a = b ∨ l[j]? = some a := by
  rw [List.getElem?_append] at h
  split_ifs at h with hlt
  · exact Or.inr h
  · obtain ⟨hj, rfl⟩ : j - l.length = 0 ∧ b = a := by
      simpa [List.getElem?_singleton] using h
    exact Or.inl ⟨by omega, rfl⟩

lemma modify_cases {f : α → α} (h : (l.modify i f)[j]? = some a) :
    ∃ a', l[j]? = some a' ∧ (j = i ∧ a = f a' ∨ j ≠ i ∧ a = a') := by
  rw [List.getElem?_modify, Option.map_eq_map, Option.map_eq_some_iff] at h
  obtain ⟨a', hget, heq⟩ := h
  refine ⟨a', hget, ?_⟩
  split_ifs at heq with hij
  · exact Or.inl ⟨hij.symm, heq.symm⟩
  · exact Or.inr ⟨Ne.symm hij, heq.symm⟩

lemma set_self (h : l[i]? = some a) : (l.set i b)[i]? = some b := by
  obtain ⟨hlt, -⟩ := List.getElem?_eq_some_iff.1 h
  simp [hlt]

lemma set_other (hne : j ≠ i) (h : l[j]? = some a) : (l.set i b)[j]? = some a := by
  rwa [List.getElem?_set_ne (Ne.symm hne)]

lemma concat_old (h : l[j]? = some a) : (l ++ [b])[j]? = some a := by
  obtain ⟨hlt, -⟩ := List.getElem?_eq_some_iff.1 h
  rwa [List.getElem?_append_left hlt]

lemma concat_new : (l ++ [b])[l.length]? = some b := by simp

/-- Each record stays in its place, up to `R`, and those that came are `N`. -/
structure Grown (R : α → α → Prop) (N : α → Prop) (l l' : List α) : Prop where
  kept : ∀ (i : ℕ) (a : α), l[i]? = some a → ∃ b, l'[i]? = some b ∧ R a b
  came : ∀ (i : ℕ) (b : α), l'[i]? = some b → l[i]? = none → N b

variable {R : α → α → Prop} {N : α → Prop} {l' l'' : List α}

lemma Grown.refl (hrefl : ∀ a, R a a) (l : List α) : Grown R N l l where
  kept := fun _ a h => ⟨a, h, hrefl a⟩
  came := fun _ b h hnone => by rw [hnone] at h; cases h

lemma Grown.trans (htrans : ∀ a b c, R a b → R b c → R a c) (hnew : ∀ a b, N a → R a b → N b)
    (h : Grown R N l l') (h' : Grown R N l' l'') : Grown R N l l'' where
  kept := by
    intro i a ha
    obtain ⟨b, hb, hab⟩ := h.kept i a ha
    obtain ⟨c, hc, hbc⟩ := h'.kept i b hb
    exact ⟨c, hc, htrans a b c hab hbc⟩
  came := by
    intro i c hc hnone
    cases hb : l'[i]? with
    | none => exact h'.came i c hc hb
    | some b =>
      obtain ⟨c', hc', hbc⟩ := h'.kept i b hb
      obtain rfl : c' = c := Option.some.inj (hc'.symm.trans hc)
      exact hnew b c' (h.came i b hb hnone) hbc

/-- One record is rewritten. -/
lemma Grown.set (hrefl : ∀ a, R a a) (ha : l[i]? = some a) (hab : R a b) :
    Grown R N l (l.set i b) where
  kept := by
    intro j c hc
    rcases eq_or_ne j i with rfl | hne
    · obtain rfl : a = c := Option.some.inj (ha.symm.trans hc)
      exact ⟨b, set_self ha, hab⟩
    · exact ⟨c, set_other hne hc, hrefl c⟩
  came := by
    intro j c hc hnone
    rcases set_cases hc with ⟨rfl, -⟩ | ⟨-, hold⟩
    · rw [hnone] at ha
      cases ha
    · rw [hnone] at hold
      cases hold

/-- One record comes. -/
lemma Grown.concat (hrefl : ∀ a, R a a) (hb : N b) : Grown R N l (l ++ [b]) where
  kept := fun _ c hc => ⟨c, concat_old hc, hrefl c⟩
  came := by
    intro j c hc hnone
    rcases concat_cases hc with ⟨-, rfl⟩ | hold
    · exact hb
    · rw [hnone] at hold
      cases hold

end SherwoodMonitor.Table
