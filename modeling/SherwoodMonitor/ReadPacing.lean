import Mathlib.Algebra.Order.Ring.Rat
import SherwoodMonitor.Library.Pacing
import SherwoodMonitor.Models

/-! How often the chain is read for a fund: `ChainSync` (`fund/telegram.py`) under concurrent calls
of `get_proposal`, each of which reads in a worker thread. -/
namespace SherwoodMonitor.ReadPacing
open Models Pacing

/-- What a call of `get_proposal` waits for: the thread that its read hops to, or the answer. -/
inductive Call
  | hopping (fund vault : String) (lookedAt : ℕ)
  | reading (fund : String)

structure Read where
  fund : String
  vault : String
  start : Start ℚ

/-- A `ChainSync`, the calls under way and the reads so far. -/
structure ChainSync where
  intervalS : ℚ
  backoffS : ℚ
  nextRead : String → Option ℚ := fun _ => none
  step : ℕ := 0
  calls : ℕ → Option Call := fun _ => none
  reads : List Read := []

inductive Move
  /-- A call has loaded its fund, and goes on up to its next wait. -/
  | look (call : ℕ) (name proposalId : String) (st : Option FundState) (now : ℚ)
  /-- Its thread runs up to the request. -/
  | sync (call : ℕ) (now : ℚ)
  /-- The request ends: with a card, or with an error and its status. -/
  | answer (call : ℕ) (error : Option (Option ℤ)) (now : ℚ)

def Move.time : Move → ℚ
  | look _ _ _ _ now => now
  | sync _ now => now
  | answer _ _ now => now

namespace ChainSync

def due (c : ChainSync) (fund : String) (now : ℚ) : Bool := decide ((c.nextRead fund).getD 0 ≤ now)

/-- The proposal is on the chain, and its status may still change there. -/
def follows (record : ProposalRecord) : Bool :=
  record.onchainId.isSome &&
    decide (record.status ∈ [Status.proposed, Status.voting, Status.review, Status.approved])

/-- The vault that `get_proposal` has its fund's chain read for. -/
def wanted (c : ChainSync) (name proposalId : String) (st : Option FundState) (now : ℚ) :
    Option String :=
  match st with
  | none => none
  | some st =>
      match st.proposal proposalId with
      | .ok (some (_, record)) => if follows record && c.due name now then some st.fund.vault else none
      | _ => none

def setCall (c : ChainSync) (k : ℕ) (call : Option Call) : ChainSync :=
  { c with step := c.step + 1, calls := Function.update c.calls k call }

def setNext (c : ChainSync) (fund : String) (time : ℚ) : ChainSync :=
  { c with nextRead := Function.update c.nextRead fund (some time) }

def addRead (c : ChainSync) (r : Read) : ChainSync := { c with reads := c.reads ++ [r] }

/-- A move of no call that waits for it. -/
def pass (c : ChainSync) : ChainSync := { c with step := c.step + 1 }

def look (c : ChainSync) (k : ℕ) (name proposalId : String) (st : Option FundState) (now : ℚ) :
    ChainSync :=
  c.setCall k ((c.wanted name proposalId st now).map fun vault => .hopping name vault c.step)

def sync (c : ChainSync) (k : ℕ) (now : ℚ) : ChainSync :=
  match c.calls k with
  | some (.hopping fund vault lookedAt) =>
      if vault = "" then c.setCall k none
      else
        ((c.setNext fund (now + c.intervalS)).addRead ⟨fund, vault, lookedAt, c.step, now⟩).setCall k
          (some (.reading fund))
  | _ => c.pass

def answer (c : ChainSync) (k : ℕ) (error : Option (Option ℤ)) (now : ℚ) : ChainSync :=
  match c.calls k with
  | some (.reading fund) =>
      match error with
      | none => c.setCall k none
      | some status =>
          let delay := if status = some 404 then c.backoffS else c.intervalS
          (c.setNext fund (now + delay)).setCall k none
  | _ => c.pass

def advance (c : ChainSync) : Move → ChainSync
  | .look k name proposalId st now => c.look k name proposalId st now
  | .sync k now => c.sync k now
  | .answer k error now => c.answer k error now

def run (c : ChainSync) (moves : List Move) : ChainSync := moves.foldl advance c

/-- The step at which a call that hops for the fund had looked. -/
def hopFor (fund : String) : Option Call → Option ℕ
  | some (.hopping fund' _ lookedAt) => if fund' = fund then some lookedAt else none
  | _ => none

/-- The gate of one fund. -/
def gate (c : ChainSync) (fund : String) : Gate ℚ where
  opens := (c.nextRead fund).getD 0
  step := c.step
  waiting k := hopFor fund (c.calls k)
  starts := (c.reads.filter fun r => r.fund = fund).map Read.start

/-- What a move of the program is to the gate of a fund. -/
def moveOf (c : ChainSync) (fund : String) : Move → Pacing.Move ℚ
  | .look k name proposalId st now =>
      if name = fund ∧ (c.wanted name proposalId st now).isSome then .look k now else .leave k now
  | .sync k now =>
      match c.calls k with
      | some (.hopping fund' vault _) =>
          if fund' = fund ∧ vault ≠ "" then .start k now else .leave k now
      | _ => .other now
  | .answer k error now =>
      match c.calls k, error with
      | some (.reading fund'), some status =>
          if fund' = fund then .putOff (if status = some 404 then c.backoffS else c.intervalS) now
          else .other now
      | _, _ => .other now

variable {c : ChainSync} {fund : String}

lemma moveOf_time (m : Move) : (c.moveOf fund m).time = m.time := by
  cases m with
  | look k name proposalId st now =>
    unfold moveOf
    dsimp only
    split_ifs <;> rfl
  | sync k now =>
    unfold moveOf
    dsimp only
    split
    · split_ifs <;> rfl
    · rfl
  | answer k error now =>
    unfold moveOf
    dsimp only
    split
    · split_ifs <;> rfl
    · rfl

lemma moveOf_keeps (hle : c.intervalS ≤ c.backoffS) (m : Move) :
    (c.moveOf fund m).Keeps c.intervalS := by
  cases m with
  | look k name proposalId st now =>
    unfold moveOf
    dsimp only
    split_ifs <;> trivial
  | sync k now =>
    unfold moveOf
    dsimp only
    split
    · split_ifs <;> trivial
    · trivial
  | answer k error now =>
    unfold moveOf
    dsimp only
    split
    · split_ifs
      · exact hle
      · exact le_rfl
      · trivial
    · trivial

lemma hopFor_update (k : ℕ) (call : Option Call) :
    (fun j => hopFor fund (Function.update c.calls k call j)) =
      Function.update (fun j => hopFor fund (c.calls j)) k (hopFor fund call) :=
  Function.comp_update (hopFor fund) c.calls k call

lemma wanted_due {name proposalId : String} {st : Option FundState} {now : ℚ}
    (h : (c.wanted name proposalId st now).isSome) : (c.nextRead name).getD 0 ≤ now := by
  unfold wanted at h
  split at h
  · simp at h
  · split at h
    · split_ifs at h with hfollows
      · simpa [due] using (Bool.and_eq_true_iff.1 hfollows).2
      · simp at h
    · simp at h

lemma gate_setCall (k : ℕ) (call : Option Call) :
    (c.setCall k call).gate fund =
      { c.gate fund with
        step := c.step + 1
        waiting := Function.update (c.gate fund).waiting k (hopFor fund call) } := by
  rw [gate, setCall]
  dsimp only
  rw [hopFor_update]
  rfl

lemma gate_look (k : ℕ) (name proposalId : String) (st : Option FundState) (now : ℚ) :
    (c.look k name proposalId st now).gate fund =
      (c.gate fund).next c.intervalS (c.moveOf fund (.look k name proposalId st now)) := by
  rw [look, gate_setCall, moveOf]
  cases hw : c.wanted name proposalId st now with
  | none => simp [Gate.next, hopFor, gate]
  | some vault =>
    by_cases hname : name = fund
    · subst hname
      have hdue := wanted_due (c := c) (by rw [hw]; rfl)
      simp [Gate.next, hopFor, gate, hdue]
    · simp [Gate.next, hopFor, gate, hname]

lemma gate_setNext_self (time : ℚ) :
    (c.setNext fund time).gate fund = { c.gate fund with opens := time } := by
  simp [gate, setNext]

lemma gate_setNext_ne {fund' : String} (h : fund' ≠ fund) (time : ℚ) :
    (c.setNext fund' time).gate fund = c.gate fund := by
  simp [gate, setNext, Function.update_of_ne h.symm]

/-- A read of the fund is a start of its gate. -/
lemma gate_addRead (r : Read) :
    (c.addRead r).gate fund =
      { c.gate fund with
        starts := (c.gate fund).starts ++ if r.fund = fund then [r.start] else [] } := by
  by_cases hr : r.fund = fund <;> simp [gate, addRead, hr]

lemma gate_sync (k : ℕ) (now : ℚ) :
    (c.sync k now).gate fund = (c.gate fund).next c.intervalS (c.moveOf fund (.sync k now)) := by
  unfold sync moveOf
  dsimp only
  rcases hcall : c.calls k with _ | ⟨fund', vault, lookedAt⟩ | ⟨fund'⟩
  · rfl
  · have hwaiting : (c.gate fund).waiting k = hopFor fund (some (.hopping fund' vault lookedAt)) := by
      rw [← hcall]
      rfl
    dsimp only
    by_cases hvault : vault = ""
    · rw [if_pos hvault, if_neg (fun h => h.2 hvault), gate_setCall]
      rfl
    · rw [if_neg hvault, gate_setCall, gate_addRead]
      by_cases hfund : fund' = fund
      · subst hfund
        rw [if_pos rfl, if_pos ⟨rfl, hvault⟩, gate_setNext_self]
        unfold Gate.next
        dsimp only
        rw [hwaiting]
        simp [hopFor, gate, setNext, addRead]
      · rw [if_neg hfund, if_neg (fun h => hfund h.1), gate_setNext_ne hfund]
        simp [Gate.next, hopFor, setNext, gate, addRead]
  · rfl

lemma gate_answer (k : ℕ) (error : Option (Option ℤ)) (now : ℚ) :
    (c.answer k error now).gate fund =
      (c.gate fund).next c.intervalS (c.moveOf fund (.answer k error now)) := by
  unfold answer moveOf
  dsimp only
  rcases hcall : c.calls k with _ | ⟨fund', vault, lookedAt⟩ | ⟨fund'⟩
  · rfl
  · rfl
  · have hidle : Function.update (c.gate fund).waiting k none = (c.gate fund).waiting := by
      have hnone : (c.gate fund).waiting k = none := by
        change hopFor fund (c.calls k) = none
        rw [hcall]
        rfl
      rw [← hnone, Function.update_eq_self]
    cases error with
    | none =>
      dsimp only
      rw [gate_setCall]
      change ({ c.gate fund with step := c.step + 1, waiting := Function.update _ k none } : Gate ℚ) = _
      rw [hidle]
      rfl
    | some status =>
      dsimp only
      rw [gate_setCall]
      by_cases hfund : fund' = fund
      · subst hfund
        rw [if_pos rfl, gate_setNext_self]
        change ({ c.gate fund' with
          step := c.step + 1, opens := _, waiting := Function.update _ k none } : Gate ℚ) = _
        rw [hidle]
        rfl
      · rw [if_neg hfund, gate_setNext_ne hfund]
        change ({ c.gate fund with
          step := c.step + 1, waiting := Function.update _ k none } : Gate ℚ) = _
        rw [hidle]
        rfl

/-- The gate of a fund follows the program. -/
lemma gate_advance (m : Move) :
    (c.advance m).gate fund = (c.gate fund).next c.intervalS (c.moveOf fund m) := by
  cases m with
  | look k name proposalId st now => exact gate_look k name proposalId st now
  | sync k now => exact gate_sync k now
  | answer k error now => exact gate_answer k error now

lemma advance_intervals (m : Move) :
    (c.advance m).intervalS = c.intervalS ∧ (c.advance m).backoffS = c.backoffS := by
  cases m with
  | look k name proposalId st now => exact ⟨rfl, rfl⟩
  | sync k now =>
    unfold advance sync
    dsimp only
    split
    · split_ifs <;> exact ⟨rfl, rfl⟩
    · exact ⟨rfl, rfl⟩
  | answer k error now =>
    unfold advance answer
    dsimp only
    split
    · split <;> exact ⟨rfl, rfl⟩
    · exact ⟨rfl, rfl⟩

/-- What the moves of a run are to the gate of a fund. -/
def movesOf (fund : String) (c : ChainSync) : List Move → List (Pacing.Move ℚ)
  | [] => []
  | m :: moves => c.moveOf fund m :: movesOf fund (c.advance m) moves

lemma gate_run (moves : List Move) :
    (c.run moves).gate fund = (c.gate fund).run c.intervalS (movesOf fund c moves) := by
  induction moves generalizing c with
  | nil => rfl
  | cons m moves ih =>
    have hstep := ih (c := c.advance m)
    rw [gate_advance, (advance_intervals m).1] at hstep
    exact hstep

lemma movesOf_time (moves : List Move) :
    (movesOf fund c moves).map Pacing.Move.time = moves.map Move.time := by
  induction moves generalizing c with
  | nil => rfl
  | cons m moves ih => rw [movesOf, List.map_cons, List.map_cons, moveOf_time, ih]

lemma movesOf_keeps (hle : c.intervalS ≤ c.backoffS) (moves : List Move) :
    ∀ m ∈ movesOf fund c moves, m.Keeps c.intervalS := by
  induction moves generalizing c with
  | nil => intro m hm; cases hm
  | cons m moves ih =>
    obtain ⟨hinterval, hbackoff⟩ := advance_intervals (c := c) m
    intro m' hm'
    rcases List.mem_cons.1 hm' with rfl | hm'
    · exact moveOf_keeps hle m
    · rw [← hinterval]
      exact ih (by rw [hinterval, hbackoff]; exact hle) m' hm'

end ChainSync

/-- Whatever calls of `get_proposal` run side by side, and whatever their requests answer: of two
reads of a fund, the later starts an interval after the earlier, unless its call had looked before
the earlier started. -/
theorem reads_apart {intervalS backoffS : ℚ} (hle : intervalS ≤ backoffS) {moves : List Move}
    (hclock : (moves.map Move.time).Pairwise (· ≤ ·)) (fund : String) :
    ((ChainSync.run { intervalS, backoffS } moves).reads.filter fun r => r.fund = fund).Pairwise
      fun r r' => r'.start.lookedAt ≤ r.start.startedAt ∨
        r.start.time + intervalS ≤ r'.start.time := by
  have hmoves : ∃ now, (now :: moves.map Move.time).Pairwise (· ≤ ·) := by
    cases moves with
    | nil => exact ⟨0, List.pairwise_singleton _ _⟩
    | cons m moves =>
      refine ⟨m.time, List.pairwise_cons.2 ⟨fun t ht => ?_, hclock⟩⟩
      rw [List.map_cons, List.pairwise_cons] at hclock
      rcases List.mem_cons.1 ht with rfl | ht
      · exact le_rfl
      · exact hclock.1 t ht
  obtain ⟨now, hnow⟩ := hmoves
  let c : ChainSync := { intervalS, backoffS }
  have hstart : Paced intervalS (c.gate fund) now := paced_start
  have hapart := starts_apart hstart (by rw [ChainSync.movesOf_time]; exact hnow)
    (@ChainSync.movesOf_keeps c fund hle moves)
  have hgate := @ChainSync.gate_run c fund moves
  rw [← hgate] at hapart
  exact List.pairwise_map.1 hapart

/-- A fund with one proposal under vote. -/
def votingFund : FundState where
  fund := { name := "sherwood", vault := "0xvault" }
  proposals := [
    { id := "p1", proposerAgent := "a", thesis := "", onchainId := some 1, status := .voting }]

/-- Two calls look before either reads; the next read waits for an interval. -/
def twoCalls : List Move :=
  [.look 0 "sherwood" "p1" (some votingFund) 5, .look 1 "sherwood" "p1" (some votingFund) 6,
    .sync 0 7, .sync 1 8, .answer 0 (some (some 503)) 9, .answer 1 none 10,
    .look 0 "sherwood" "p1" (some votingFund) 20, .look 1 "sherwood" "p1" (some votingFund) 39,
    .sync 1 40]

theorem reads_apart_twoCalls :
    (30 : ℚ) ≤ 600 ∧ (twoCalls.map Move.time).Pairwise (· ≤ ·) ∧
      ((ChainSync.run { intervalS := 30, backoffS := 600 } twoCalls).reads.map fun r =>
        r.start.time) = [7, 8, 40] ∧
      ((ChainSync.run { intervalS := 30, backoffS := 600 } twoCalls).reads.filter fun r =>
        r.fund = "sherwood").Pairwise fun r r' =>
          r'.start.lookedAt ≤ r.start.startedAt ∨ r.start.time + 30 ≤ r'.start.time := by
  have hclock : (twoCalls.map Move.time).Pairwise (· ≤ ·) := by decide +kernel
  exact ⟨by decide, hclock, by decide +kernel, reads_apart (by decide) hclock "sherwood"⟩

end SherwoodMonitor.ReadPacing
