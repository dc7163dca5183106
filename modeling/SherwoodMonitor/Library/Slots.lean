import Mathlib.Data.List.Perm.Subperm
import Mathlib.Tactic

/-! A book of slots: a bounded number of holders, each of whom holds one. -/
namespace SherwoodMonitor.Slots
open List

variable {κ : Type*} {cap : ℕ} {l l' : List κ} {k : κ}

/-- The holders are distinct and at most `cap`. -/
structure Fits (cap : ℕ) (holders : List κ) : Prop where
  nodup : holders.Nodup
  length_le : holders.length ≤ cap

lemma fits_nil : Fits cap ([] : List κ) := ⟨List.nodup_nil, Nat.zero_le _⟩

/-- Holders may leave. -/
lemma Fits.of_subperm (h : Fits cap l) (hsub : l' <+~ l) : Fits cap l' := by
  obtain ⟨l'', hperm, hsub⟩ := hsub
  exact ⟨hperm.nodup_iff.1 (h.nodup.sublist hsub),
    hperm.length_eq ▸ hsub.length_le.trans h.length_le⟩

/-- A newcomer takes a free slot. -/
lemma Fits.take (h : Fits cap l) (hk : k ∉ l) (hfree : l.length < cap) : Fits cap (k :: l) :=
  ⟨List.nodup_cons.2 ⟨hk, h.nodup⟩, hfree⟩

/-- A holder that leaves and comes back keeps its slot. -/
lemma cons_filter_ne_subperm [DecidableEq κ] (hk : k ∈ l) : k :: l.filter (· ≠ k) <+~ l :=
  List.cons_subperm_of_not_mem_of_mem (by simp) hk List.filter_sublist.subperm

/-- Rewriting one record lets its holder stay or leave. -/
lemma filter_map_set_sublist {α : Type*} {p : α → Bool} {f : α → κ} {xs : List α} {i : ℕ}
    {a b : α} (ha : xs[i]? = some a) (hp : p b = true → p a = true) (hf : f b = f a) :
    ((xs.set i b).filter p).map f <+ (xs.filter p).map f := by
  induction xs generalizing i with
  | nil => simp at ha
  | cons x xs ih =>
    cases i with
    | zero =>
      obtain rfl : x = a := by simpa using ha
      by_cases hb : p b = true
      · simp [hb, hp hb, hf]
      · by_cases hx : p x = true <;> simp [hb, hx]
    | succ i =>
      have hrest := @ih i (by simpa using ha)
      by_cases hx : p x = true <;> simpa [hx] using hrest

/-- Rewriting every record lets their holders stay or leave. -/
lemma filter_map_map_sublist {α : Type*} {p : α → Bool} {f : α → κ} {g : α → α} (xs : List α)
    (hp : ∀ a, p (g a) = true → p a = true) (hf : ∀ a, f (g a) = f a) :
    ((xs.map g).filter p).map f <+ (xs.filter p).map f := by
  induction xs with
  | nil => simp
  | cons x xs ih =>
    by_cases hg : p (g x) = true
    · simpa [hg, hp x hg, hf] using ih
    · by_cases hx : p x = true
      · simpa [hg, hx] using ih.cons (f x)
      · simpa [hg, hx] using ih

end SherwoodMonitor.Slots
