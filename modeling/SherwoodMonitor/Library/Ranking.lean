import Mathlib.Data.List.Sort

/-! Lists sorted by a key, and when the first places of two rankings of the same list agree. -/
namespace SherwoodMonitor.Ranking
variable {α β κ ι : Type*} [LinearOrder κ] [LinearOrder ι] {key : α → κ} {other : α → ι}
  {l l' : List α} {a b : α} {n : ℕ}

/-- `sorted(l, key=key)`, which is stable. -/
def rank (key : α → κ) (l : List α) : List α := l.insertionSort fun a b => key a ≤ key b

lemma rank_perm (key : α → κ) (l : List α) : (rank key l).Perm l := List.perm_insertionSort _ l

@[simp] lemma mem_rank : a ∈ rank key l ↔ a ∈ l := (rank_perm key l).mem_iff

lemma pairwise_rank (key : α → κ) (l : List α) :
    (rank key l).Pairwise fun a b => key a ≤ key b := by
  have : Std.Total fun a b => key a ≤ key b := ⟨fun a b => le_total (key a) (key b)⟩
  have : IsTrans α fun a b => key a ≤ key b := ⟨fun _ _ _ => le_trans⟩
  exact List.pairwise_insertionSort _ l

/-- Where no two elements share a key the ranking does not depend on the order of the list. -/
theorem rank_eq_of_perm (hinj : ∀ a ∈ l, ∀ b ∈ l, key a = key b → a = b) (h : l.Perm l') :
    rank key l = rank key l' := by
  refine List.Perm.eq_of_pairwise ?_ (pairwise_rank key l) (pairwise_rank key l') ?_
  · intro a b ha hb hab hba
    exact hinj a (mem_rank.1 ha) b (h.mem_iff.2 (mem_rank.1 hb)) (le_antisymm hab hba)
  · exact ((rank_perm key l).trans h).trans (rank_perm key l').symm

lemma map_rank {key : β → κ} (f : α → β) (l : List α) :
    (rank (key ∘ f) l).map f = rank key (l.map f) :=
  List.map_insertionSort _ _ f l fun _ _ _ _ => Iff.rfl

/-- The rank of an element is the number of elements ahead of it. -/
lemma mem_take_of_ahead (hl : l.Pairwise fun a b => key a < key b) (hb : b ∈ l)
    (hn : (l.filter fun a => key a < key b).length < n) : b ∈ l.take n := by
  induction l generalizing n with
  | nil => simp at hb
  | cons x l ih =>
    obtain ⟨m, rfl⟩ := Nat.exists_eq_add_one_of_ne_zero (Nat.ne_of_gt (Nat.zero_lt_of_lt hn))
    obtain ⟨hx, hrest⟩ := List.pairwise_cons.1 hl
    rw [List.take_succ_cons, List.mem_cons]
    rcases List.mem_cons.1 hb with rfl | hmem
    · exact Or.inl rfl
    · rw [List.filter_cons, if_pos (decide_eq_true (hx b hmem)), List.length_cons] at hn
      exact Or.inr (ih hrest hmem (Nat.lt_of_succ_lt_succ hn))

/-- What is ahead of one of the first elements is one of them. -/
lemma mem_take_of_lt (hl : l.Pairwise fun a b => key a ≤ key b) (ha : a ∈ l) (hb : b ∈ l.take n)
    (hab : key a < key b) : a ∈ l.take n := by
  rw [← List.take_append_drop n l, List.mem_append] at ha
  rcases ha with ha | ha
  · exact ha
  · rw [← List.take_append_drop n l, List.pairwise_append] at hl
    exact absurd (hl.2.2 b hb a ha) (not_le.2 hab)

/-- Two elements of a list that both keys sort are not ordered differently by them. -/
lemma not_lt_of_sorted (hkey : l.Pairwise fun a b => key a ≤ key b)
    (hother : l.Pairwise fun a b => other a ≤ other b) (hal : a ∈ l) (hbl : b ∈ l)
    (hab : key a < key b) : ¬other b < other a := by
  induction l with
  | nil => simp at hal
  | cons x l ih =>
    obtain ⟨hkx, hkrest⟩ := List.pairwise_cons.1 hkey
    obtain ⟨hox, horest⟩ := List.pairwise_cons.1 hother
    rcases List.mem_cons.1 hal with rfl | ha <;> rcases List.mem_cons.1 hbl with rfl | hb
    · exact absurd hab (lt_irrefl _)
    · exact not_lt.2 (hox b hb)
    · exact absurd hab (not_lt.2 (hkx a ha))
    · exact ih hkrest horest ha hb

/-- The first places of a list sorted by one key are also the first by another key, where the other
key puts nothing ahead of what stands there. -/
lemma take_rank_of_sorted (hl : l.Pairwise fun a b => other a < other b)
    (h : ∀ a ∈ l, ∀ b ∈ l, key a < key b → other b < other a →
      n ≤ (l.filter fun c => other c < other b).length) :
    (rank key l).take n = l.take n := by
  induction l generalizing n with
  | nil => rfl
  | cons x l ih =>
    obtain ⟨hx, hrest⟩ := List.pairwise_cons.1 hl
    cases n with
    | zero => rfl
    | succ n =>
      -- nothing is ahead of `x` by the second key, so by the first key nothing may be either
      have hnone : ((x :: l).filter fun c => other c < other x) = [] := by
        rw [List.filter_eq_nil_iff]
        intro c hc
        rcases List.mem_cons.1 hc with rfl | hc
        · simp
        · simpa using (hx c hc).le
      have hleast : ∀ b ∈ l, key x ≤ key b := by
        intro b hb
        by_contra hlt
        have hcount := h b (List.mem_cons_of_mem x hb) x List.mem_cons_self (not_le.1 hlt) (hx b hb)
        rw [hnone] at hcount
        exact absurd hcount (Nat.not_succ_le_zero n)
      rw [rank, List.insertionSort_cons_of_forall_rel _ hleast, ← rank, List.take_succ_cons,
        List.take_succ_cons, ih hrest]
      intro a ha b hb hab hba
      have hcount := h a (List.mem_cons_of_mem x ha) b (List.mem_cons_of_mem x hb) hab hba
      rw [List.filter_cons, if_pos (decide_eq_true (hx b hb)), List.length_cons] at hcount
      exact Nat.le_of_succ_le_succ hcount

/-- The first `n` places of two rankings agree exactly when no two elements are ordered differently
by the two keys with the second key putting one of them among its first `n`. -/
theorem take_rank_eq_iff (hnd : l.Nodup) (hkey : ∀ a ∈ l, ∀ b ∈ l, key a = key b → a = b)
    (hother : ∀ a ∈ l, ∀ b ∈ l, other a = other b → a = b) :
    (rank key l).take n = (rank other l).take n ↔
      ∀ a ∈ l, ∀ b ∈ l, key a < key b → other b < other a →
        n ≤ (l.filter fun c => other c < other b).length := by
  have hperm := rank_perm other l
  have hstrict : (rank other l).Pairwise fun a b => other a < other b := by
    have hne : (rank other l).Pairwise fun a b => a ≠ b := hperm.nodup_iff.2 hnd
    refine (List.Pairwise.and_mem.1 ((pairwise_rank other l).and hne)).imp ?_
    rintro a b ⟨ha, hb, hle, hab⟩
    exact lt_of_le_of_ne hle fun heq => hab (hother a (mem_rank.1 ha) b (mem_rank.1 hb) heq)
  have hcount : ∀ b, ((rank other l).filter fun c => other c < other b).length =
      (l.filter fun c => other c < other b).length := fun b => (hperm.filter _).length_eq
  constructor
  · intro htake a ha b hb hab hba
    by_contra hlt
    have hbtake := mem_take_of_ahead hstrict (mem_rank.2 hb) (hcount b ▸ not_le.1 hlt)
    rw [← htake] at hbtake
    have hatake := mem_take_of_lt (pairwise_rank key l) (mem_rank.2 ha) hbtake hab
    have hkeyed := (pairwise_rank key l).sublist (List.take_sublist n _)
    have hothered := (pairwise_rank other l).sublist (List.take_sublist n _)
    rw [htake] at hatake hbtake hkeyed
    exact not_lt_of_sorted hkeyed hothered hatake hbtake hab hba
  · intro h
    rw [rank_eq_of_perm hkey hperm.symm]
    refine take_rank_of_sorted hstrict ?_
    intro a ha b hb hab hba
    rw [hcount]
    exact h a (mem_rank.1 ha) b (mem_rank.1 hb) hab hba

end SherwoodMonitor.Ranking
