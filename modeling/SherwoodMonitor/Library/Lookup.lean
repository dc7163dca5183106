import Mathlib.Data.List.Basic
import Mathlib.Tactic

/-! First-match lookups in a list of records, with the position of the record found, so that the
record can be written back in its place. -/
namespace SherwoodMonitor.Lookup

variable {α β : Type*} {p : α → Bool} {l : List α} {i : ℕ} {a : α}

/-- The first element of `l` with `p`, and where it stands. -/
def locate (p : α → Bool) : List α → Option (ℕ × α)
  | [] => none
  | a :: l => if p a then some (0, a) else (locate p l).map fun r => (r.1 + 1, r.2)

lemma locate_cons_neg (l : List α) (ha : p a = false) :
    locate p (a :: l) = (locate p l).map fun r => (r.1 + 1, r.2) := by
  simp [locate, ha]

lemma locate_getElem? (h : locate p l = some (i, a)) : l[i]? = some a := by
  induction l generalizing i with
  | nil => simp [locate] at h
  | cons b l ih =>
    by_cases hb : p b = true
    · obtain ⟨rfl, rfl⟩ : 0 = i ∧ b = a := by simpa [locate, hb] using h
      rfl
    · rw [locate_cons_neg l (by simpa using hb), Option.map_eq_some_iff] at h
      obtain ⟨⟨j, c⟩, hj, heq⟩ := h
      obtain ⟨rfl, rfl⟩ : j + 1 = i ∧ c = a := by simpa using heq
      exact ih hj

lemma locate_holds (h : locate p l = some (i, a)) : p a = true := by
  induction l generalizing i with
  | nil => simp [locate] at h
  | cons b l ih =>
    by_cases hb : p b = true
    · obtain ⟨rfl, rfl⟩ : 0 = i ∧ b = a := by simpa [locate, hb] using h
      exact hb
    · rw [locate_cons_neg l (by simpa using hb), Option.map_eq_some_iff] at h
      obtain ⟨⟨j, c⟩, hj, heq⟩ := h
      obtain ⟨rfl, rfl⟩ : j + 1 = i ∧ c = a := by simpa using heq
      exact ih hj

lemma locate_mem (h : locate p l = some (i, a)) : a ∈ l :=
  List.mem_of_getElem? (locate_getElem? h)

lemma locate_eq_none : locate p l = none ↔ ∀ a ∈ l, p a = false := by
  induction l with
  | nil => simp [locate]
  | cons b l ih => by_cases hb : p b = true <;> simp [locate, hb, ih]

lemma exists_locate (ha : a ∈ l) (hp : p a = true) : ∃ r, locate p l = some r := by
  rw [← Option.ne_none_iff_exists']
  intro h
  simpa [hp] using locate_eq_none.1 h a ha

/-- Before the record found, nothing matches. -/
lemma locate_first (h : locate p l = some (i, a)) {j : ℕ} {b : α} (hj : j < i)
    (hb : l[j]? = some b) : p b = false := by
  induction l generalizing i j with
  | nil => simp [locate] at h
  | cons c l ih =>
    by_cases hc : p c = true
    · obtain ⟨rfl, -⟩ : 0 = i ∧ c = a := by simpa [locate, hc] using h
      omega
    · rw [locate_cons_neg l (by simpa using hc), Option.map_eq_some_iff] at h
      obtain ⟨⟨k, d⟩, hk, heq⟩ := h
      obtain ⟨rfl, rfl⟩ : k + 1 = i ∧ d = a := by simpa using heq
      cases j with
      | zero =>
        obtain rfl : c = b := by simpa using hb
        simpa using hc
      | succ j => exact ih hk (Nat.lt_of_succ_lt_succ hj) (by simpa using hb)

/-- The first match is found. -/
lemma locate_of_first (h : l[i]? = some a) (ha : p a = true)
    (hfirst : ∀ j b, j < i → l[j]? = some b → p b = false) : locate p l = some (i, a) := by
  obtain ⟨⟨k, c⟩, hk⟩ := exists_locate (List.mem_of_getElem? h) ha
  rcases lt_trichotomy k i with hlt | rfl | hlt
  · exact absurd (locate_holds hk) (by simp [hfirst k c hlt (locate_getElem? hk)])
  · obtain rfl : c = a := Option.some.inj ((locate_getElem? hk).symm.trans h)
    exact hk
  · exact absurd ha (by simp [locate_first hk hlt h])

lemma find?_eq_locate (p : α → Bool) (l : List α) : l.find? p = (locate p l).map (·.2) := by
  induction l with
  | nil => rfl
  | cons b l ih => by_cases hb : p b = true <;> simp [locate, hb, ih, Function.comp_def]

/-- When keys are distinct, a record is where its key is found. -/
lemma locate_of_nodup [DecidableEq β] {key : α → β} (hnodup : (l.map key).Nodup)
    (h : l[i]? = some a) : locate (fun b => key b = key a) l = some (i, a) := by
  obtain ⟨⟨j, b⟩, hj⟩ := exists_locate (p := fun b => decide (key b = key a))
    (List.mem_of_getElem? h) (by simp)
  have hkey : key b = key a := by simpa using locate_holds hj
  have hjget := locate_getElem? hj
  have hij : (l.map key)[j]? = (l.map key)[i]? := by simp [h, hjget, hkey]
  have hjlt : j < (l.map key).length := by
    simpa using (List.getElem?_eq_some_iff.1 hjget).1
  obtain rfl : j = i := (List.getElem?_inj hjlt hnodup).1 hij
  obtain rfl : b = a := Option.some.inj (hjget.symm.trans h)
  exact hj

/-- A lookup that looks only at `key` finds the same position after `l` changed elsewhere. -/
lemma locate_map (f : α → β) {q : β → Bool} (hq : ∀ a, p a = q (f a)) (l : List α) :
    locate q (l.map f) = (locate p l).map fun r => (r.1, f r.2) := by
  induction l with
  | nil => rfl
  | cons a l ih => by_cases ha : q (f a) = true <;> simp [locate, hq, ha, ih, Function.comp_def]

/-- Writing back a record with the same key leaves the list of keys as it was. -/
lemma map_set_of_eq {f : α → β} {b : α} (h : l[i]? = some a) (hf : f b = f a) :
    (l.set i b).map f = l.map f := by
  rw [List.map_set, hf]
  have hget : (l.map f)[i]? = some (f a) := by simp [h]
  obtain ⟨hi, hval⟩ := List.getElem?_eq_some_iff.1 hget
  rw [← hval, List.set_getElem_self]

lemma mem_set_cases {b c : α} (h : c ∈ l.set i b) : c = b ∨ c ∈ l :=
  (List.mem_or_eq_of_mem_set h).symm

/-- What a count changes by when one place is written. -/
lemma countP_set_add {b : α} (h : l[i]? = some a) :
    (l.set i b).countP p + (if p a then 1 else 0) = l.countP p + if p b then 1 else 0 := by
  induction l generalizing i with
  | nil => simp at h
  | cons c l ih =>
    cases i with
    | zero =>
      obtain rfl : c = a := by simpa using h
      rw [List.set_cons_zero, List.countP_cons, List.countP_cons]
      omega
    | succ i =>
      have htail := ih (by simpa using h)
      rw [List.set_cons_succ, List.countP_cons, List.countP_cons]
      omega

/-- Two places of a list whose elements are pairwise related. -/
lemma pairwise_getElem? {R : α → α → Prop} (hsymm : ∀ a b, R a b → R b a) (h : l.Pairwise R)
    {j : ℕ} {b : α} (hij : i ≠ j) (ha : l[i]? = some a) (hb : l[j]? = some b) : R a b := by
  obtain ⟨hi, rfl⟩ := List.getElem?_eq_some_iff.1 ha
  obtain ⟨hj, rfl⟩ := List.getElem?_eq_some_iff.1 hb
  rcases Nat.lt_or_gt_of_ne hij with hlt | hlt
  · exact List.pairwise_iff_getElem.1 h i j hi hj hlt
  · exact hsymm _ _ (List.pairwise_iff_getElem.1 h j i hj hi hlt)

/-- A record written back has to be related to those in the other places. -/
lemma pairwise_set {R : α → α → Prop} (hsymm : ∀ a b, R a b → R b a) (h : l.Pairwise R) {new : α}
    (hnew : ∀ j b, j ≠ i → l[j]? = some b → R new b) : (l.set i new).Pairwise R := by
  rw [List.pairwise_iff_getElem]
  intro j k hj hk hjk
  rw [List.length_set] at hj hk
  rw [List.getElem_set, List.getElem_set]
  split_ifs with hij hik hik
  · omega
  · exact hnew k _ (by omega) (List.getElem?_eq_getElem hk)
  · exact hsymm _ _ (hnew j _ (by omega) (List.getElem?_eq_getElem hj))
  · exact List.pairwise_iff_getElem.1 h j k hj hk hjk

/-- A filter does not see a record that it drops. -/
lemma filter_set_of_neg {new : α} (h : l[i]? = some a) (ha : p a = false) (hnew : p new = false) :
    (l.set i new).filter p = l.filter p := by
  induction l generalizing i with
  | nil => simp at h
  | cons b l ih =>
    cases i with
    | zero =>
      obtain rfl : b = a := by simpa using h
      simp [ha, hnew]
    | succ i =>
      have hrest := ih (by simpa using h)
      by_cases hb : p b = true <;> simp [hb, hrest]

lemma filter_erase_of_neg [DecidableEq α] (l : List α) (ha : p a = false) :
    (l.erase a).filter p = l.filter p := by
  rw [← List.erase_filter, List.erase_of_not_mem]
  simp [ha]

end SherwoodMonitor.Lookup
