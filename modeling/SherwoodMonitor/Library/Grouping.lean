import Mathlib.Algebra.BigOperators.Group.List.Basic
import Mathlib.Data.List.Dedup
import Mathlib.Data.List.Induction

/-! Records gathered by key into an insertion-ordered table with one row for each key: the row
starts fresh at the key's first record and every record of the key is added to it. -/
namespace SherwoodMonitor.Grouping

section Upsert

variable {κ ρ : Type*} [DecidableEq κ] {fresh : ρ} {f : ρ → ρ} {k k' : κ} {r : ρ}
  {rows : List (κ × ρ)}

def upsert (fresh : ρ) (f : ρ → ρ) (k : κ) : List (κ × ρ) → List (κ × ρ)
  | [] => [(k, f fresh)]
  | row :: rows => if row.1 = k then (k, f row.2) :: rows else row :: upsert fresh f k rows

lemma mem_keys_upsert : k' ∈ (upsert fresh f k rows).map (·.1) ↔ k' = k ∨ k' ∈ rows.map (·.1) := by
  induction rows with
  | nil => simp [upsert]
  | cons row rows ih =>
    rw [upsert]
    split
    · rename_i hkey
      simp [hkey]
    · rw [List.map_cons, List.mem_cons, ih, List.map_cons, List.mem_cons]
      exact or_left_comm

lemma nodup_upsert (h : (rows.map (·.1)).Nodup) : ((upsert fresh f k rows).map (·.1)).Nodup := by
  induction rows with
  | nil => simp [upsert]
  | cons row rows ih =>
    rw [List.map_cons, List.nodup_cons] at h
    rw [upsert]
    split
    · rename_i hkey
      rw [List.map_cons, List.nodup_cons, ← hkey]
      exact h
    · rename_i hkey
      rw [List.map_cons, List.nodup_cons, mem_keys_upsert, not_or]
      exact ⟨⟨hkey, h.1⟩, ih h.2⟩

/-- A row of another key is kept; the key's own row is the updated one, from the row before it or
from a fresh one. -/
lemma mem_upsert (h : (rows.map (·.1)).Nodup) :
    (k', r) ∈ upsert fresh f k rows ↔
      k' ≠ k ∧ (k', r) ∈ rows ∨
      k' = k ∧ ((∃ r₀, (k, r₀) ∈ rows ∧ r = f r₀) ∨ k ∉ rows.map (·.1) ∧ r = f fresh) := by
  induction rows with
  | nil => simp [upsert]
  | cons row rows ih =>
    obtain ⟨k₀, r₀⟩ := row
    rw [List.map_cons, List.nodup_cons] at h
    have hrest : ∀ x, (k₀, x) ∉ rows := fun x hx => h.1 (List.mem_map.2 ⟨(k₀, x), hx, rfl⟩)
    rw [upsert]
    split
    · rename_i hkey
      obtain rfl : k₀ = k := hkey
      by_cases hk : k' = k₀
      · subst hk
        simp [hrest]
      · simp [hk]
    · rename_i hkey
      rw [List.mem_cons, ih h.2]
      by_cases hk : k' = k
      · subst hk
        simp [Ne.symm hkey]
      · simp [hk]

/-- What a measure of the rows adds up to grows by what the update adds. -/
lemma sum_upsert {M : Type*} [AddCommMonoid M] {v : ρ → M} {w : M} (hfresh : v fresh = 0)
    (hf : ∀ r, v (f r) = v r + w) :
    ((upsert fresh f k rows).map fun row => v row.2).sum = (rows.map fun row => v row.2).sum + w := by
  induction rows with
  | nil => simp [upsert, hf, hfresh]
  | cons row rows ih =>
    rw [upsert]
    split
    · rw [List.map_cons, List.sum_cons, List.map_cons, List.sum_cons, hf, add_right_comm]
    · rw [List.map_cons, List.sum_cons, ih, List.map_cons, List.sum_cons, add_assoc]

end Upsert

section Group

variable {κ α ρ : Type*} [DecidableEq κ] {key : α → κ} {fresh : κ → ρ} {add : α → ρ → ρ}
  {l l' : List α} {k : κ} {r : ρ}

def step (key : α → κ) (fresh : κ → ρ) (add : α → ρ → ρ) (rows : List (κ × ρ)) (a : α) :
    List (κ × ρ) :=
  upsert (fresh (key a)) (add a) (key a) rows

def group (key : α → κ) (fresh : κ → ρ) (add : α → ρ → ρ) (l : List α) : List (κ × ρ) :=
  l.foldl (step key fresh add) []

@[simp] lemma group_nil : group key fresh add ([] : List α) = [] := rfl

@[simp] lemma group_concat (l : List α) (a : α) :
    group key fresh add (l ++ [a]) = step key fresh add (group key fresh add l) a := by
  rw [group, List.foldl_append, List.foldl_cons, List.foldl_nil, ← group]

lemma mem_keys_group : k ∈ (group key fresh add l).map (·.1) ↔ ∃ a ∈ l, key a = k := by
  induction l using List.reverseRecOn with
  | nil => simp
  | append_singleton l a ih =>
    rw [group_concat, step, mem_keys_upsert, ih]
    simp only [List.mem_append, List.mem_singleton, or_and_right, exists_or, exists_eq_left]
    rw [or_comm, eq_comm]

lemma nodup_group : ((group key fresh add l).map (·.1)).Nodup := by
  induction l using List.reverseRecOn with
  | nil => simp
  | append_singleton l a ih =>
    rw [group_concat]
    exact nodup_upsert ih

/-- The row of a key holds exactly the key's own records. -/
theorem mem_group :
    (k, r) ∈ group key fresh add l ↔
      (∃ a ∈ l, key a = k) ∧
        r = (l.filter fun a => key a = k).foldl (fun r a => add a r) (fresh k) := by
  induction l using List.reverseRecOn generalizing r with
  | nil => simp
  | append_singleton l a ih =>
    rw [group_concat, step, mem_upsert nodup_group, mem_keys_group]
    simp only [List.filter_append, List.foldl_append, List.mem_append, List.mem_singleton,
      or_and_right, exists_or, exists_eq_left]
    by_cases hk : k = key a
    · subst hk
      by_cases hsome : ∃ b ∈ l, key b = key a
      · simp [ih, hsome]
      · have hnone : l.filter (fun b => key b = key a) = [] := by
          rw [List.filter_eq_nil_iff]
          intro b hb hkey
          exact hsome ⟨b, hb, of_decide_eq_true hkey⟩
        simp [ih, hsome, hnone]
    · simp [ih, hk, Ne.symm hk]

/-- Where the order of adding does not matter, permuted records give the same rows. -/
theorem group_perm (hcomm : ∀ a b r, add a (add b r) = add b (add a r)) (h : l.Perm l') :
    (group key fresh add l).Perm (group key fresh add l') := by
  rw [List.perm_ext_iff_of_nodup (List.Nodup.of_map _ nodup_group)
    (List.Nodup.of_map _ nodup_group)]
  rintro ⟨k, r⟩
  have : RightCommutative fun r a => add a r := ⟨fun r a b => hcomm b a r⟩
  rw [mem_group, mem_group, (h.filter _).foldl_eq]
  simp only [h.mem_iff]

/-- What is added up over the rows is what the records add. -/
theorem sum_group {M : Type*} [AddCommMonoid M] {v : ρ → M} {w : α → M} (hfresh : ∀ k, v (fresh k) = 0)
    (hadd : ∀ a r, v (add a r) = v r + w a) :
    ((group key fresh add l).map fun row => v row.2).sum = (l.map w).sum := by
  induction l using List.reverseRecOn with
  | nil => simp
  | append_singleton l a ih =>
    rw [group_concat, step, sum_upsert (hfresh _) (hadd a), ih, List.map_append, List.sum_append,
      List.map_singleton, List.sum_singleton]

/-- The records themselves, in their order, under their keys. -/
def collect (key : α → κ) (l : List α) : List (κ × List α) :=
  group key (fun _ => []) (fun a row => row ++ [a]) l

lemma mem_keys_collect : k ∈ (collect key l).map (·.1) ↔ ∃ a ∈ l, key a = k := mem_keys_group

lemma nodup_collect : ((collect key l).map (·.1)).Nodup := nodup_group

theorem mem_collect {row : List α} :
    (k, row) ∈ collect key l ↔ (∃ a ∈ l, key a = k) ∧ row = l.filter fun a => key a = k := by
  rw [collect, mem_group, List.foldl_append_eq_append, List.nil_append, ← List.flatMap_def,
    List.flatMap_singleton']

lemma flatMap_upsert_perm {a : α} {rows : List (κ × List α)} :
    ((upsert [] (· ++ [a]) k rows).flatMap (·.2)).Perm (rows.flatMap (·.2) ++ [a]) := by
  induction rows with
  | nil => simp [upsert]
  | cons row rows ih =>
    rw [upsert]
    split
    · rw [List.flatMap_cons, List.flatMap_cons, List.append_assoc, List.append_assoc]
      exact List.perm_append_comm.append_left row.2
    · rw [List.flatMap_cons, List.flatMap_cons, List.append_assoc]
      exact ih.append_left row.2

/-- Together the rows hold each record as often as the list does. -/
theorem flatMap_collect_perm : ((collect key l).flatMap (·.2)).Perm l := by
  induction l using List.reverseRecOn with
  | nil => exact List.Perm.refl []
  | append_singleton l a ih =>
    rw [collect, group_concat, step]
    exact flatMap_upsert_perm.trans (ih.append_right [a])

end Group

end SherwoodMonitor.Grouping
