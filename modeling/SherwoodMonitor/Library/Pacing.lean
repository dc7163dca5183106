import Mathlib.Algebra.Order.Monoid.Defs
import Mathlib.Data.List.Pairwise
import Mathlib.Logic.Function.Basic
import Mathlib.Tactic

/-! A gate that its callers go through some time apart. A caller looks whether the gate is open, and
starts at a later step; between the two, other callers may look and start as well. -/
namespace SherwoodMonitor.Pacing

/-- A start, with the step at which its caller had looked. -/
structure Start (τ : Type*) where
  lookedAt : ℕ
  startedAt : ℕ
  time : τ

/-- When the gate opens, the callers that found it open, and the starts so far. -/
structure Gate (τ : Type*) where
  opens : τ
  step : ℕ := 0
  waiting : ℕ → Option ℕ := fun _ => none
  starts : List (Start τ) := []

inductive Move (τ : Type*)
  | look (caller : ℕ) (now : τ)
  | start (caller : ℕ) (now : τ)
  | leave (caller : ℕ) (now : τ)
  | putOff (delay now : τ)
  | other (now : τ)

variable {τ : Type*}

def Move.time : Move τ → τ
  | look _ now => now
  | start _ now => now
  | leave _ now => now
  | putOff _ now => now
  | other now => now

variable [AddCommMonoid τ] [LinearOrder τ]

/-- A start closes the gate for the gap. -/
def Gate.next (gap : τ) (g : Gate τ) : Move τ → Gate τ
  | .look k now =>
      { g with
        step := g.step + 1
        waiting := Function.update g.waiting k (if g.opens ≤ now then some g.step else none) }
  | .start k now =>
      match g.waiting k with
      | none => { g with step := g.step + 1 }
      | some looked =>
          { opens := now + gap
            step := g.step + 1
            waiting := Function.update g.waiting k none
            starts := g.starts ++ [⟨looked, g.step, now⟩] }
  | .leave k _ =>
      { g with step := g.step + 1, waiting := Function.update g.waiting k none }
  | .putOff delay now => { g with step := g.step + 1, opens := now + delay }
  | .other _ => { g with step := g.step + 1 }

def Gate.run (gap : τ) (g : Gate τ) (moves : List (Move τ)) : Gate τ := moves.foldl (next gap) g

/-- Two starts are a gap apart, unless the later caller had looked before the earlier start. -/
def Apart (gap : τ) (s s' : Start τ) : Prop := s'.lookedAt ≤ s.startedAt ∨ s.time + gap ≤ s'.time

/-- What holds of the gate at a time. -/
structure Paced (gap : τ) (g : Gate τ) (now : τ) : Prop where
  past : ∀ s ∈ g.starts, s.time ≤ now
  opens : ∀ s ∈ g.starts, s.time + gap ≤ g.opens
  waiting : ∀ k looked, g.waiting k = some looked →
    ∀ s ∈ g.starts, looked ≤ s.startedAt ∨ s.time + gap ≤ now
  looked : ∀ k looked, g.waiting k = some looked → looked ≤ g.step
  apart : g.starts.Pairwise (Apart gap)

variable {gap now now' : τ} {g : Gate τ}

lemma Paced.later (h : Paced gap g now) (hle : now ≤ now') : Paced gap g now' where
  past s hs := (h.past s hs).trans hle
  opens := h.opens
  waiting k looked hk s hs := (h.waiting k looked hk s hs).imp id fun hgap => hgap.trans hle
  looked := h.looked
  apart := h.apart

/-- Callers that look or leave change no start. -/
lemma Paced.wait (h : Paced gap g now) {waiting : ℕ → Option ℕ}
    (hwaiting : ∀ k looked, waiting k = some looked → g.waiting k = some looked ∨
      looked = g.step ∧ g.opens ≤ now) : Paced gap { g with step := g.step + 1, waiting } now where
  past := h.past
  opens := h.opens
  waiting k looked hk s hs := by
    rcases hwaiting k looked hk with hold | ⟨rfl, hopen⟩
    · exact h.waiting k looked hold s hs
    · exact Or.inr ((h.opens s hs).trans hopen)
  looked k looked hk := by
    rcases hwaiting k looked hk with hold | ⟨rfl, -⟩
    · exact (h.looked k looked hold).trans (Nat.le_succ _)
    · exact Nat.le_succ _
  apart := h.apart

variable [IsOrderedAddMonoid τ]

lemma Paced.start (h : Paced gap g now) {k looked : ℕ} (hk : g.waiting k = some looked) :
    Paced gap
      { opens := now + gap
        step := g.step + 1
        waiting := Function.update g.waiting k none
        starts := g.starts ++ [⟨looked, g.step, now⟩] } now where
  past s hs := by
    rcases List.mem_append.1 hs with hs | hs
    · exact h.past s hs
    · obtain rfl := List.mem_singleton.1 hs
      exact le_rfl
  opens s hs := by
    rcases List.mem_append.1 hs with hs | hs
    · exact add_le_add_left (h.past s hs) gap
    · obtain rfl := List.mem_singleton.1 hs
      exact le_rfl
  waiting k' looked' hk' s hs := by
    have hold : g.waiting k' = some looked' := by
      by_cases heq : k' = k
      · subst heq
        simp at hk'
      · simpa [Function.update_of_ne heq] using hk'
    rcases List.mem_append.1 hs with hs | hs
    · exact h.waiting k' looked' hold s hs
    · obtain rfl := List.mem_singleton.1 hs
      exact Or.inl (h.looked k' looked' hold)
  looked k' looked' hk' := by
    have hold : g.waiting k' = some looked' := by
      by_cases heq : k' = k
      · subst heq
        simp at hk'
      · simpa [Function.update_of_ne heq] using hk'
    exact (h.looked k' looked' hold).trans (Nat.le_succ _)
  apart := by
    rw [List.pairwise_append]
    refine ⟨h.apart, List.pairwise_singleton _ _, ?_⟩
    intro s hs s' hs'
    obtain rfl := List.mem_singleton.1 hs'
    exact h.waiting k looked hk s hs

lemma Paced.putOff (h : Paced gap g now) {delay : τ} (hdelay : gap ≤ delay) :
    Paced gap { g with step := g.step + 1, opens := now + delay } now where
  past := h.past
  opens s hs := add_le_add (h.past s hs) hdelay
  waiting := h.waiting
  looked k looked hk := (h.looked k looked hk).trans (Nat.le_succ _)
  apart := h.apart

/-- A move that puts the gate off does so for the gap at least. -/
def Move.Keeps (gap : τ) : Move τ → Prop
  | .putOff delay _ => gap ≤ delay
  | _ => True

lemma Paced.next (h : Paced gap g now) {m : Move τ} (hle : now ≤ m.time) (hm : m.Keeps gap) :
    Paced gap (g.next gap m) m.time := by
  have hlater := h.later hle
  cases m with
  | look k now =>
    refine hlater.wait fun k' looked hk' => ?_
    by_cases heq : k' = k
    · subst heq
      rw [Function.update_self] at hk'
      split_ifs at hk' with hopen
      exact Or.inr ⟨(Option.some.inj hk').symm, hopen⟩
    · rw [Function.update_of_ne heq] at hk'
      exact Or.inl hk'
  | start k now =>
    unfold Gate.next
    dsimp only [Move.time]
    cases hk : g.waiting k with
    | none => exact hlater.wait fun k' looked hk' => Or.inl hk'
    | some looked => exact hlater.start hk
  | leave k now =>
    refine hlater.wait fun k' looked hk' => Or.inl ?_
    by_cases heq : k' = k
    · subst heq
      simp at hk'
    · rwa [Function.update_of_ne heq] at hk'
  | putOff delay now => exact hlater.putOff hm
  | other now => exact hlater.wait fun k' looked hk' => Or.inl hk'

/-- In a run whose times do not go back, every two starts are a gap apart, or the later caller had
looked before the earlier one started. -/
theorem starts_apart {moves : List (Move τ)} (h : Paced gap g now)
    (hclock : (now :: moves.map Move.time).Pairwise (· ≤ ·)) (hkeeps : ∀ m ∈ moves, m.Keeps gap) :
    (g.run gap moves).starts.Pairwise (Apart gap) := by
  induction moves generalizing g now with
  | nil => exact h.apart
  | cons m moves ih =>
    rw [List.map_cons, List.pairwise_cons] at hclock
    have hle : now ≤ m.time := hclock.1 _ List.mem_cons_self
    exact ih (h.next hle (hkeeps m List.mem_cons_self)) hclock.2
      fun m' hm' => hkeeps m' (List.mem_cons_of_mem _ hm')

omit [IsOrderedAddMonoid τ] in
/-- A gate through which nobody has gone. -/
lemma paced_start {opens : τ} : Paced gap { opens } now := by
  constructor <;> simp

end SherwoodMonitor.Pacing
