import SherwoodMonitor.Library.Lookup

/-! A pass over a store applies a list of writes in order. Idempotent writes that commute make an
idempotent pass; writes that each change the first record with their own key commute. -/
namespace SherwoodMonitor.Passes
open Lookup

section Pass

variable {β σ : Type*} {write : β → σ → σ} {steps : List β}

def pass (write : β → σ → σ) (steps : List β) (s : σ) : σ := steps.foldl (fun s b => write b s) s

@[simp] lemma pass_nil (s : σ) : pass write [] s = s := rfl

@[simp] lemma pass_cons (b : β) (steps : List β) (s : σ) :
    pass write (b :: steps) s = pass write steps (write b s) := rfl

/-- A write that commutes with all of a pass may come before it. -/
lemma write_pass {b : β} (hcomm : ∀ c ∈ steps, ∀ s, write b (write c s) = write c (write b s))
    (s : σ) : write b (pass write steps s) = pass write steps (write b s) := by
  induction steps generalizing s with
  | nil => rfl
  | cons c steps ih =>
    have hrest := ih (fun d hd => hcomm d (List.mem_cons_of_mem c hd)) (write c s)
    rw [pass_cons, pass_cons, hrest, hcomm c List.mem_cons_self]

/-- After a pass of commuting idempotent writes each of them has nothing left to do. -/
theorem write_pass_self
    (hcomm : steps.Pairwise fun b c => ∀ s, write b (write c s) = write c (write b s))
    (hidem : ∀ b ∈ steps, ∀ s, write b (write b s) = write b s) {b : β} (hb : b ∈ steps) (s : σ) :
    write b (pass write steps s) = pass write steps s := by
  induction steps generalizing s with
  | nil => simp at hb
  | cons c steps ih =>
    obtain ⟨hc, hrest⟩ := List.pairwise_cons.1 hcomm
    rw [pass_cons]
    rcases List.mem_cons.1 hb with rfl | hmem
    · rw [write_pass hc, hidem b List.mem_cons_self]
    · exact ih hrest (fun d hd => hidem d (List.mem_cons_of_mem c hd)) hmem (write c s)

lemma pass_of_fixed {s : σ} (h : ∀ b ∈ steps, write b s = s) : pass write steps s = s := by
  induction steps with
  | nil => rfl
  | cons c steps ih =>
    rw [pass_cons, h c List.mem_cons_self]
    exact ih fun b hb => h b (List.mem_cons_of_mem c hb)

end Pass

section Keyed

variable {κ α : Type*} [DecidableEq κ] {key : α → Option κ} {f g : α → α} {n m : κ} {l : List α}

/-- Change the first record whose key is `n`. -/
def writeFirst (key : α → Option κ) (n : κ) (f : α → α) : List α → List α
  | [] => []
  | a :: l => if key a = some n then f a :: l else a :: writeFirst key n f l

lemma writeFirst_idem (hkey : ∀ a, key (f a) = key a) (hf : ∀ a, f (f a) = f a) (l : List α) :
    writeFirst key n f (writeFirst key n f l) = writeFirst key n f l := by
  induction l with
  | nil => rfl
  | cons a l ih => by_cases ha : key a = some n <;> simp [writeFirst, ha, hkey, hf, ih]

lemma writeFirst_comm (hnm : n ≠ m) (hf : ∀ a, key (f a) = key a) (hg : ∀ a, key (g a) = key a)
    (l : List α) : writeFirst key n f (writeFirst key m g l) =
      writeFirst key m g (writeFirst key n f l) := by
  induction l with
  | nil => rfl
  | cons a l ih =>
    by_cases ha : key a = some n
    · have hm : key a ≠ some m := by
        rw [ha]
        simpa using hnm
      simp [writeFirst, ha, hf, hnm]
    · by_cases hm : key a = some m <;> simp [writeFirst, ha, hm, hg, ih, hnm.symm]

lemma writeFirst_of_locate {i : ℕ} {a : α}
    (h : locate (fun a => decide (key a = some n)) l = some (i, a)) (f : α → α) :
    writeFirst key n f l = l.set i (f a) := by
  induction l generalizing i with
  | nil => simp [locate] at h
  | cons b l ih =>
    by_cases hb : key b = some n
    · obtain ⟨rfl, rfl⟩ : 0 = i ∧ b = a := by simpa [locate, hb] using h
      simp [writeFirst, hb]
    · rw [locate_cons_neg l (by simpa using hb), Option.map_eq_some_iff] at h
      obtain ⟨⟨j, c⟩, hj, heq⟩ := h
      obtain ⟨rfl, rfl⟩ : j + 1 = i ∧ c = a := by simpa using heq
      simp [writeFirst, hb, ih hj]

lemma map_writeFirst {γ : Type*} {v : α → γ} (hv : ∀ a, v (f a) = v a) (l : List α) :
    (writeFirst key n f l).map v = l.map v := by
  induction l with
  | nil => rfl
  | cons a l ih => by_cases ha : key a = some n <;> simp [writeFirst, ha, hv, ih]

/-- A write under another key is not seen by the lookup. -/
lemma find?_writeFirst_ne (hnm : n ≠ m) (hf : ∀ a, key (f a) = key a) (l : List α) :
    (writeFirst key n f l).find? (fun a => key a = some m) =
      l.find? fun a => key a = some m := by
  induction l with
  | nil => rfl
  | cons a l ih =>
    by_cases ha : key a = some n
    · simp [writeFirst, ha, hf, hnm]
    · by_cases hm : key a = some m <;> simp [writeFirst, ha, hm, hnm.symm, ih]

/-- The lookup finds what the write left. -/
lemma find?_writeFirst_self (hf : ∀ a, key (f a) = key a) (l : List α) :
    (writeFirst key n f l).find? (fun a => key a = some n) =
      (l.find? fun a => key a = some n).map f := by
  induction l with
  | nil => rfl
  | cons a l ih => by_cases ha : key a = some n <;> simp [writeFirst, ha, hf, ih]

end Keyed

end SherwoodMonitor.Passes
