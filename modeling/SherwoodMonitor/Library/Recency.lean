import Mathlib.Data.List.Dedup
import Mathlib.Data.List.DropRight
import Mathlib.Data.List.Induction

/-! A bounded set that forgets what was seen the longest ago: after any sequence it holds the most
recently seen distinct elements. -/
namespace SherwoodMonitor.Recency
variable {α : Type*} [DecidableEq α] {cap : ℕ} {l seen : List α} {a : α}

/-- An element is seen, the oldest stands first. -/
def touch (cap : ℕ) (seen : List α) (a : α) : List α :=
  if a ∈ seen then seen.erase a ++ [a]
  else if cap < (seen ++ [a]).length then (seen ++ [a]).tail else seen ++ [a]

/-- The `n` most recently seen distinct elements of a sequence, the oldest first. -/
def mostRecent (n : ℕ) (l : List α) : List α := l.dedup.rtake n

lemma nodup_mostRecent (n : ℕ) (l : List α) : (mostRecent n l).Nodup :=
  (List.nodup_dedup l).sublist (List.drop_sublist _ _)

lemma length_mostRecent_le (n : ℕ) (l : List α) : (mostRecent n l).length ≤ n := by
  rw [mostRecent, List.rtake, List.length_drop]
  omega

/-- The last element moves to the end, the others keep their order. -/
lemma dedup_concat (l : List α) (a : α) : (l ++ [a]).dedup = l.dedup.erase a ++ [a] := by
  induction l with
  | nil => simp
  | cons b l ih =>
    by_cases hmem : b ∈ l
    · rw [List.cons_append, List.dedup_cons_of_mem (List.mem_append_left _ hmem),
        List.dedup_cons_of_mem hmem, ih]
    · by_cases hab : b = a
      · subst hab
        have hnot : b ∉ l.dedup := fun h => hmem (List.mem_dedup.1 h)
        rw [List.cons_append, List.dedup_cons_of_mem (List.mem_append_right _ (by simp)), ih,
          List.dedup_cons_of_notMem hmem, List.erase_cons_head, List.erase_of_not_mem hnot]
      · have hnot : b ∉ l ++ [a] := by simp [hmem, hab]
        rw [List.cons_append, List.dedup_cons_of_notMem hnot, ih, List.dedup_cons_of_notMem hmem,
          List.erase_cons_tail (by simpa using hab), List.cons_append]

omit [DecidableEq α] in
/-- The last `n` of a list are known from a part of it that is long enough. -/
lemma rtake_append {n : ℕ} {pre : List α} (h : l.length = n ∨ pre = [] ∧ l.length ≤ n) :
    (pre ++ l).rtake n = l := by
  rw [List.rtake, List.length_append]
  rcases h with rfl | ⟨rfl, hle⟩
  · rw [Nat.add_sub_cancel, List.drop_left]
  · rw [List.nil_append, List.length_nil, Nat.zero_add, Nat.sub_eq_zero_of_le hle, List.drop_zero]

/-- The distinct elements are the forgotten ones and the remembered ones; as long as there is room
nothing is forgotten. -/
lemma dedup_split (cap : ℕ) (l : List α) :
    ∃ pre, l.dedup = pre ++ mostRecent cap l ∧
      ((mostRecent cap l).length = cap ∨ pre = [] ∧ (mostRecent cap l).length ≤ cap) := by
  refine ⟨l.dedup.rdrop cap, (List.take_append_drop _ _).symm, ?_⟩
  rw [mostRecent, List.rtake, List.length_drop, List.rdrop]
  rcases le_total cap l.dedup.length with hle | hle
  · exact Or.inl (Nat.sub_sub_self hle)
  · rw [Nat.sub_eq_zero_of_le hle, Nat.sub_zero, List.take_zero]
    exact Or.inr ⟨rfl, hle⟩

lemma touch_mostRecent (cap : ℕ) (l : List α) (a : α) :
    touch cap (mostRecent cap l) a = mostRecent cap (l ++ [a]) := by
  obtain ⟨pre, hsplit, hroom⟩ := dedup_split cap l
  have hnodup : (pre ++ mostRecent cap l).Nodup := hsplit ▸ List.nodup_dedup l
  rw [mostRecent.eq_def cap (l ++ [a]), dedup_concat, hsplit, touch]
  split_ifs with hmem hfull
  · -- seen again: it leaves its place among the remembered ones
    have hpre : a ∉ pre := fun h => (List.nodup_append.1 hnodup).2.2 a h a hmem rfl
    rw [List.erase_append_right _ hpre, List.append_assoc]
    refine (rtake_append ?_).symm
    rwa [List.length_append, List.length_erase_of_mem hmem, List.length_singleton,
      Nat.sub_add_cancel (List.length_pos_of_mem hmem)]
  · -- new, or seen too long ago, and there is no room for it
    have hlen : (mostRecent cap l).length = cap := by
      rw [List.length_append, List.length_singleton] at hfull
      exact le_antisymm (length_mostRecent_le cap l) (Nat.le_of_lt_succ hfull)
    have herase : (pre ++ mostRecent cap l).erase a = pre.erase a ++ mostRecent cap l := by
      by_cases hpre : a ∈ pre
      · exact List.erase_append_left _ hpre
      · rw [List.erase_append_right _ hpre, List.erase_of_not_mem hmem, List.erase_of_not_mem hpre]
    obtain ⟨b, tail, htail⟩ : ∃ b tail, mostRecent cap l ++ [a] = b :: tail :=
      List.exists_cons_of_ne_nil (by simp)
    rw [herase, List.append_assoc, htail, List.tail_cons, List.append_cons]
    refine (rtake_append (Or.inl ?_)).symm
    have hcount := congrArg List.length htail
    rw [List.length_append, List.length_singleton, List.length_cons, hlen] at hcount
    exact (Nat.succ_injective hcount).symm
  · -- new, and there is room
    rw [List.length_append, List.length_singleton, not_lt] at hfull
    obtain ⟨rfl, -⟩ : pre = [] ∧ _ := hroom.resolve_left (by omega)
    have hfit : (mostRecent cap l ++ [a]).length ≤ cap := by
      rwa [List.length_append, List.length_singleton]
    have hall : ([] ++ (mostRecent cap l ++ [a])).rtake cap = mostRecent cap l ++ [a] :=
      rtake_append (Or.inr ⟨rfl, hfit⟩)
    rw [List.nil_append, List.erase_of_not_mem hmem]
    exact hall.symm

/-- What is remembered after a sequence is what was seen most recently. -/
theorem foldl_touch (cap : ℕ) (l : List α) : l.foldl (touch cap) [] = mostRecent cap l := by
  induction l using List.reverseRecOn with
  | nil => simp [mostRecent]
  | append_singleton l a ih =>
    rw [List.foldl_append, List.foldl_cons, List.foldl_nil, ih, touch_mostRecent]

end SherwoodMonitor.Recency
