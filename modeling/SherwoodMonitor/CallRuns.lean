import SherwoodMonitor.Effects

/-! Calls run to completion one after another. An invariant that the updates preserve holds after
any such run; of the chain's status write only the legal steps count, since within one call the
step is checked on the state that it is written to. -/
namespace SherwoodMonitor.CallRuns
open Models Rules Service ChainCard Calls AtomicStore

/-- The state after a call that runs alone. -/
def Call.after (c : Call) (s : FundState) : FundState := (c.prog.run s).store

def runCalls (calls : List Call) (s : FundState) : FundState :=
  calls.foldl (fun s c => Call.after c s) s

/-- Every single-update operation of a call has `P`. -/
def Call.Acts (P : Act → Prop) : Call → Prop
  | .act a _ => P a
  | .applyChainCard .. => True

/-- A status that a chain card can write. -/
def IsChainTarget (status : Status) : Prop := ∃ text, chainStates text = some status

/-- `Inv` is preserved by the operations with `P` and by what a chain card writes. -/
structure Preserves (P : Act → Prop) (Inv : FundState → Prop) : Prop where
  bump : ∀ s stamp, Inv s → Inv (bump s stamp)
  reads : ∀ pid read, P (.setChainState pid read)
  act : ∀ a, P a → ∀ now s r s', Inv s → a.mutate now s = .ok (r, s') → Inv s'
  cardFund : ∀ card s r s', Inv s → ChainCard.cardFund card s = .ok (r, s') → Inv s'
  chainStatus : ∀ pid status now s i r reply s', Inv s → s.proposal pid = .ok (some (i, r)) →
    status ∈ transitions r.status → IsChainTarget status →
    Service.chainStatus pid status now s = .ok (reply, s') → Inv s'

namespace Preserves

variable {P : Act → Prop} {Inv : FundState → Prop} (h : Preserves P Inv)

include h

lemma next_of_mutate {u : Update} {clock : Clock} {s : FundState} (hs : Inv s)
    (hu : ∀ r s', u.mutate clock.now s = .ok (r, s') → Inv s') :
    Inv (fundStore.next ⟨u, clock⟩ s) := by
  refine Interface.next_preserves hs fun r s' hexec => ?_
  obtain ⟨mid, hm, rfl⟩ := Op.exec_ok hexec
  exact h.bump mid _ (hu r mid hm)

lemma keeps_runAct {a : Act} (ha : P a) (clock : Clock) : (runAct a clock).Keeps Inv := by
  refine Prog.keeps_bind (Prog.keeps_call fun s hs => ?_) fun reply => ?_
  · exact h.next_of_mutate hs fun r s' hm => h.act a ha clock.now s r s' hs hm
  · cases a.event? reply with
    | none => exact Prog.keeps_bind (Prog.keeps_pure ()) fun _ => Prog.keeps_pure reply
    | some ev => exact Prog.keeps_bind (Prog.keeps_tell ev) fun _ => Prog.keeps_pure reply

omit h in
lemma keeps_lift {α : Type} (x : Except Exc α) : (lift x).Keeps Inv := by
  cases x with
  | ok a => exact Prog.keeps_pure a
  | error e => exact Prog.keeps_raise e

/-- The status write of a row runs on the state it was checked on. -/
lemma runChainStatus_after {pid : String} {target : Status} {clock : Clock} {s : FundState}
    {i : ℕ} {r : ProposalRecord} (hs : Inv s) (hfind : s.proposal pid = .ok (some (i, r)))
    (hstep : target ∈ transitions r.status) (htarget : IsChainTarget target) :
    Inv ((runChainStatus pid target clock).run s).store := by
  have hnext : Inv (fundStore.next ⟨.chainStatus pid target, clock⟩ s) :=
    h.next_of_mutate hs fun reply s' hm =>
      h.chainStatus pid target clock.now s i r reply s' hs hfind hstep htarget hm
  rw [runChainStatus, Prog.run_bind_store, Prog.run_call_store]
  cases ((Prog.call _ : FundProg _).run s).result with
  | ok a => exact hnext
  | error e => exact hnext

lemma keeps_applyRow (record : ProposalRecord) (row : Fields) (tallyClock statusClock : Clock) :
    (applyRow record row tallyClock statusClock).Keeps Inv := by
  refine Prog.keeps_bind (keeps_lift _) fun read => ?_
  refine Prog.keeps_bind (h.keeps_runAct (h.reads record.id read) tallyClock) fun _ => ?_
  refine Prog.keeps_get_bind fun s hs => ?_
  cases hfind : s.proposal record.id with
  | error e => exact hs
  | ok current =>
    rw [lift, Prog.run_bind_store, Prog.run_pure]
    cases htarget : rowTarget row with
    | none => exact hs
    | some target =>
      rcases current with _ | ⟨i, current⟩
      · exact hs
      · simp only
        split_ifs with hgo
        · exact h.runChainStatus_after hs hfind (checkTransition_ok.1 hgo.2) ⟨_, htarget⟩
        · exact hs

lemma keeps_applyRows (state : FundState) (clock : ℕ → Clock) (k : ℕ) (seen : List ℤ)
    (rows : List Fields) : (applyRows state clock k seen rows).Keeps Inv := by
  induction rows generalizing k seen with
  | nil => exact Prog.keeps_pure 0
  | cons row rows ih =>
    rw [applyRows]
    cases rowId row with
    | none => exact ih _ _
    | some onchain =>
      by_cases hseen : onchain ∈ seen
      · simpa [hseen] using ih _ _
      · cases hrec : rowRecord state row with
        | none => simpa [hseen, hrec] using ih _ _
        | some record =>
          simp only [hseen, if_false]
          refine Prog.keeps_bind (h.keeps_applyRow record row _ _) fun _ => ?_
          exact Prog.keeps_bind (ih _ _) fun n => Prog.keeps_pure (n + 1)

lemma keeps_applyChainCard (card : PyJson.Json) (clock : ℕ → Clock) :
    (applyChainCard card clock).Keeps Inv := by
  have hrest : ∀ card : Card, (Prog.get >>= fun state =>
      applyRows state clock 0 [] card.rows : FundProg ℕ).Keeps Inv := fun card =>
    Prog.keeps_get_bind fun s hs => h.keeps_applyRows s clock 0 [] card.rows s hs
  refine Prog.keeps_bind (keeps_lift _) fun card => ?_
  by_cases hempty : card.fund.isEmpty = true
  · simpa [hempty] using hrest card
  · simp only [hempty]
    refine Prog.keeps_bind (Prog.keeps_call fun s hs => ?_) fun _ => hrest card
    exact h.next_of_mutate hs fun r s' hm => h.cardFund card.fund s r s' hs hm

/-- One call preserves the invariant. -/
theorem call {c : Call} (hc : Call.Acts P c) {s : FundState} (hs : Inv s) :
    Inv (Call.after c s) := by
  cases c with
  | act a clock =>
    exact Prog.keeps_bind (h.keeps_runAct hc clock) (fun _ => Prog.keeps_pure ()) s hs
  | applyChainCard card clock =>
    exact Prog.keeps_bind (h.keeps_applyChainCard card clock) (fun _ => Prog.keeps_pure ()) s hs

/-- So does every run of calls. -/
theorem calls {cs : List Call} (hcs : ∀ c ∈ cs, Call.Acts P c) {s : FundState} (hs : Inv s) :
    Inv (runCalls cs s) := by
  induction cs generalizing s with
  | nil => exact hs
  | cons c cs ih =>
    exact ih (fun d hd => hcs d (by simp [hd])) (h.call (hcs c (by simp)) hs)

end Preserves

/-- The host drafts a proposal and takes it to the vote under the on-chain id 12. -/
def votingCalls : List Call :=
  [.act (.claimTopic "Iris" "TSLA momentum") ⟨1010, 1010⟩,
    .act (.draftProposal "Iris" sampleDraft) ⟨1020, 1020⟩,
    .act (.setProposalStatus "Iris" "p-1" "proposed" { onchainId := some 12 }) ⟨1030, 1030⟩,
    .act (.setProposalStatus "Iris" "p-1" "voting" {}) ⟨1040, 1040⟩]

def votingState : FundState := runCalls votingCalls sampleState

end SherwoodMonitor.CallRuns
