import SherwoodMonitor.DisplayedIds

/-! Settled proposals, their receipts and the cooldown. `record_settle` writes the three together;
`set_proposal_status` can write the settled status alone. -/
namespace SherwoodMonitor.Settlement
open Models FundState Rules Service Calls CallRuns Effects AtomicStore StatusMoves ProposalIds
  FundWrites Cooldown DisplayedIds

variable {now : Time} {s s' : FundState} {p : ProposalRecord}

/-- An operation of the service to its end, or the update of `fund_setup`. -/
inductive Step
  | call (c : Call)
  | setup (args : Setup) (stamp : Time)

namespace Step

def after : Step → FundState → FundState
  | .call c, s => Call.after c s
  | .setup args stamp, s => writeStore.next (.setup args stamp) s

/-- When the step reads the clock. -/
def time : Step → Time
  | .call (.act _ clock) => clock.now
  | .call (.applyChainCard _ clock) => (clock 0).now
  | .setup _ stamp => stamp

end Step

def runSteps (steps : List Step) (s : FundState) : FundState :=
  steps.foldl (fun s step => step.after s) s

lemma runSteps_concat (steps : List Step) (step : Step) (s : FundState) :
    runSteps (steps ++ [step]) s = step.after (runSteps steps s) := by
  simp [runSteps]

def receiptIds (s : FundState) : List String := s.receipts.map (·.proposalId)

/-- A settled proposal has one receipt, and a receipt's proposal is settled. -/
structure ReceiptsAgree (s : FundState) : Prop where
  receipted : ∀ p ∈ s.proposals, p.status = .settled → (receiptIds s).count p.id = 1
  settled : ∀ receipt ∈ s.receipts,
    ∃ p ∈ s.proposals, p.id = receipt.proposalId ∧ p.status = .settled

/-- From `s` to `s'` a proposal enters the settled status. -/
def EntersSettled (s s' : FundState) : Prop :=
  ∃ i, statusAt s' i = some .settled ∧ statusAt s i ≠ some .settled

/-- A step that settles a proposal starts its fund's cooldown. -/
def CoolsDown (s : FundState) (step : Step) : Prop :=
  EntersSettled s (step.after s) →
    RunsUntil (step.time + (s.fund.cooldownPeriod : ℤ)) (step.after s).fund

/-- What the receipts are in every state that is reached without a bare settled status. -/
structure Ledger (s : FundState) : Prop where
  ids : IdsIssued s
  nodup : (receiptIds s).Nodup
  settled_iff : ∀ p ∈ s.proposals, p.status = .settled ↔ p.id ∈ receiptIds s
  known : ∀ id ∈ receiptIds s, id ∈ s.proposals.map (·.id)

lemma Ledger.receiptsAgree (h : Ledger s) : ReceiptsAgree s where
  receipted p hp hsettled :=
    List.count_eq_one_of_mem h.nodup ((h.settled_iff p hp).1 hsettled)
  settled receipt hreceipt := by
    have hid : receipt.proposalId ∈ receiptIds s := List.mem_map_of_mem hreceipt
    obtain ⟨p, hp, heq⟩ := List.mem_map.1 (h.known _ hid)
    exact ⟨p, hp, heq, (h.settled_iff p hp).2 (heq ▸ hid)⟩

/-- The step neither settles a proposal nor writes a receipt. -/
structure KeepsSettled (s s' : FundState) : Prop where
  receipts : s'.receipts = s.receipts
  ids : KeepsIds s s' ∨ Drafts s s'
  status : ∀ i, statusAt s' i = some .settled ↔ statusAt s i = some .settled

/-- A record of the later state is a record of the earlier one, or the new draft. -/
lemma record_of_keepsSettled (h : KeepsSettled s s') (hp : p ∈ s'.proposals) :
    (∃ q ∈ s.proposals, q.id = p.id ∧ (p.status = .settled ↔ q.status = .settled)) ∨
      (p.status = .draft ∧ p.id = "p-" ++ toString s.nextProposalSeq) := by
  obtain ⟨i, hi⟩ := List.mem_iff_getElem?.1 hp
  have hof : ∀ q, s.proposals[i]? = some q → q.id = p.id →
      ∃ q ∈ s.proposals, q.id = p.id ∧ (p.status = .settled ↔ q.status = .settled) := by
    intro q hq hid
    have hstatus := h.status i
    simp only [statusAt, hi, hq, Option.map_some, Option.some.injEq] at hstatus
    exact ⟨q, List.mem_of_getElem? hq, hid, hstatus⟩
  rcases h.ids with ⟨-, hids⟩ | ⟨-, r, hdraft, hid, hps⟩
  · have hget := congrArg (fun ids => ids[i]?) hids
    simp only [List.getElem?_map, hi, Option.map_some] at hget
    obtain ⟨q, hq, hid⟩ := Option.map_eq_some_iff.1 hget.symm
    exact Or.inl (hof q hq hid)
  · rw [hps] at hi
    by_cases hlt : i < s.proposals.length
    · rw [List.getElem?_append_left hlt] at hi
      exact Or.inl (hof p hi rfl)
    · rw [List.getElem?_append_right (not_lt.1 hlt)] at hi
      obtain rfl : p = r := List.mem_singleton.1 (List.mem_of_getElem? hi)
      exact Or.inr ⟨hdraft, hid⟩

/-- An id that is still to be issued is on no receipt. -/
lemma Ledger.fresh (h : Ledger s) : "p-" ++ toString s.nextProposalSeq ∉ receiptIds s := by
  intro hmem
  obtain ⟨n, hn, hid⟩ := h.ids.issued _ (h.known _ hmem)
  obtain ⟨k, hk⟩ := Int.eq_ofNat_of_zero_le h.ids.seq
  rw [hk] at hid
  obtain rfl := issued_inj hid
  omega

lemma Ledger.of_keepsSettled (h : Ledger s) (hs : KeepsSettled s s') : Ledger s' := by
  have hreceipts : receiptIds s' = receiptIds s := by rw [receiptIds, hs.receipts, receiptIds]
  refine ⟨hs.ids.elim h.ids.of_keepsIds h.ids.of_drafts, hreceipts ▸ h.nodup, fun p hp => ?_, ?_⟩
  · rw [hreceipts]
    rcases record_of_keepsSettled hs hp with ⟨q, hq, hid, hstatus⟩ | ⟨hdraft, hid⟩
    · rw [hstatus, ← hid]
      exact h.settled_iff q hq
    · rw [hdraft, hid]
      exact iff_of_false (by decide) h.fresh
  · intro id hid
    rw [hreceipts] at hid
    have hmem := h.known id hid
    rcases hs.ids with ⟨-, hids⟩ | ⟨-, r, -, -, hps⟩
    · rw [hids]
      exact hmem
    · rw [hps, List.map_append]
      exact List.mem_append_left _ hmem

--- steps that settle nothing

/-- The operations that can write the settled status. -/
def Settles : Act → Prop
  | .recordSettle .. => True
  | .setProposalStatus _ _ status _ => Status.ofText status = .settled
  | _ => False

lemma not_settled_of_mem {old new : Status} (h : new ∈ transitions old) : old ≠ .settled := by
  rintro rfl
  simp [transitions] at h

lemma keepsSettled_of_moves {u : Update} {reply : u.Reply}
    (h : u.mutate now s = .ok (reply, s')) (hreceipts : s'.receipts = s.receipts)
    (hmoves : ∀ i old status, StatusMove s i old u status →
      (status = .settled ↔ old.status = .settled)) : KeepsSettled s s' where
  receipts := hreceipts
  ids := proposals_mutate h
  status i := by
    cases hold : s.proposals[i]? with
    | some old =>
      obtain ⟨new, hnew, -, hmove⟩ := movedBy_mutate h hold
      simpa only [statusAt, hold, hnew, Option.map_some, Option.some.injEq] using
        hmoves i old _ hmove
    | none =>
      cases hnew : s'.proposals[i]? with
      | none => simp [statusAt, hold, hnew]
      | some new => simp [statusAt, hold, hnew, status_of_new h hold hnew]

lemma keepsSettled_act {a : Act} {reply : a.Reply} (ha : ¬Settles a)
    (h : a.mutate now s = .ok (reply, s')) : KeepsSettled s s' := by
  have hreceipts : s'.receipts = s.receipts := by
    rcases (actFrame h).receipts with ⟨actor, pid, d, rfl⟩ | hsame
    · exact absurd trivial ha
    · exact hsame
  refine keepsSettled_of_moves (u := .act a) h hreceipts fun i old status hmove => ?_
  cases hmove with
  | kept => exact Iff.rfl
  | set actor pid status note hfind htrans =>
    exact iff_of_false ha (not_settled_of_mem htrans)
  | settled actor pid d => exact absurd trivial ha
  | cancelled actor name caller hdraft => simp [hdraft]

lemma keepsSettled_cardFund {card : ChainCard.CardFund} {reply : Unit}
    (h : ChainCard.cardFund card s = .ok (reply, s')) : KeepsSettled s s' := by
  have hreceipts : s'.receipts = s.receipts := by
    obtain ⟨period, veto, till, -, -, -, rfl⟩ := cardFund_ok h
    rfl
  refine @keepsSettled_of_moves 0 _ _ (.cardFund card) _ h hreceipts
    fun i old status hmove => ?_
  cases hmove with
  | kept => exact Iff.rfl

lemma ne_settled_of_chainTarget {status : Status} (h : IsChainTarget status) :
    status ≠ .settled := by
  obtain ⟨text, htext⟩ := h
  rintro rfl
  rw [ChainCard.chainStates.eq_def] at htext
  split at htext <;> simp at htext

lemma keepsSettled_chainStatus {pid : String} {status : Status} {i : ℕ} {r : ProposalRecord}
    {reply : ProposalRecord × Status} (hfind : s.proposal pid = .ok (some (i, r)))
    (hstep : status ∈ transitions r.status) (htarget : IsChainTarget status)
    (h : chainStatus pid status now s = .ok (reply, s')) : KeepsSettled s s' := by
  have hreceipts : s'.receipts = s.receipts := by
    obtain ⟨j, old, -, -, rfl⟩ := chainStatus_ok h
    rfl
  refine keepsSettled_of_moves (u := .chainStatus pid status) h hreceipts
    fun j old new hmove => ?_
  cases hmove with
  | kept => exact Iff.rfl
  | chain pid status hfind' =>
    rw [hfind, Except.ok.injEq, Option.some.injEq] at hfind'
    obtain ⟨rfl, rfl⟩ := Prod.mk.inj hfind'
    exact iff_of_false (ne_settled_of_chainTarget htarget) (not_settled_of_mem hstep)

/-- Of the statuses, the later state has settled only what the earlier one had. -/
def NoneSettled (s s' : FundState) : Prop :=
  ∀ i, statusAt s' i = some .settled → statusAt s i = some .settled

lemma preserves_ledger (s₀ : FundState) :
    Preserves (fun a => ¬Settles a) (fun s => Ledger s ∧ NoneSettled s₀ s) := by
  have hkeeps : ∀ {s s'}, Ledger s ∧ NoneSettled s₀ s → KeepsSettled s s' →
      Ledger s' ∧ NoneSettled s₀ s' := fun hs hkeep =>
    ⟨hs.1.of_keepsSettled hkeep, fun i hi => hs.2 i ((hkeep.status i).1 hi)⟩
  exact
    { bump := fun s stamp hs => hkeeps hs ⟨rfl, Or.inl ⟨rfl, rfl⟩, fun _ => Iff.rfl⟩
      reads := fun pid read => id
      act := fun a ha now s r s' hs h => hkeeps hs (keepsSettled_act ha h)
      cardFund := fun card s r s' hs h => hkeeps hs (keepsSettled_cardFund h)
      chainStatus := fun pid status now s i r reply s' hs hfind hstep htarget h =>
        hkeeps hs (keepsSettled_chainStatus hfind hstep htarget h) }

--- the steps that settle

/-- A `set_proposal_status` that passes its checks with the settled status. -/
def SettlesByStatus (s : FundState) (step : Step) : Prop :=
  ∃ actor pid status note clock i r,
    step = .call (.act (.setProposalStatus actor pid status note) clock) ∧
      Status.ofText status = .settled ∧ MovesRecord s actor pid status clock.now i r

lemma after_act (a : Act) (clock : Clock) (s : FundState) :
    (Step.call (.act a clock)).after s = fundStore.next ⟨.act a, clock⟩ s := by
  have hrun : ((runAct a clock).run s).store = fundStore.next ⟨.act a, clock⟩ s := by
    rw [runAct, Prog.run_bind_store, Prog.run_call_store]
    cases ((Prog.call _ : FundProg _).run s).result with
    | error e => rfl
    | ok reply =>
      dsimp only
      split <;> rfl
  rw [← hrun]
  exact (Prog.run_bind_pure (runAct a clock) (fun _ => ()) s).1

/-- `record_settle` writes one receipt, of the proposal that it settles. -/
lemma ledger_recordSettle {actor pid : String} {d : Settle} {r : SettleReceipt × ProposalRecord}
    (hs : Ledger s) (h : recordSettle actor pid d now s = .ok (r, s')) : Ledger s' := by
  have hids : IdsIssued s' := hs.ids.mutate (u := .act (.recordSettle actor pid d)) h
  obtain ⟨i, old, hfind, -, htrans, hr, hreceipt, rfl⟩ := recordSettle_ok h
  have hold : s.proposals[i]? = some old := proposal_getElem? hfind
  have hnew : old.id ∉ receiptIds s := fun hmem =>
    not_settled_of_mem htrans ((hs.settled_iff old (List.mem_of_getElem? hold)).2 hmem)
  have hreceipts : receiptIds { setProposal s i r.2 with
      fund := startCooldown s.fund now, receipts := s.receipts ++ [r.1] } =
        receiptIds s ++ [old.id] := by
    simp [receiptIds, hreceipt, settleReceipt, hr]
  have hsame : (s.proposals.set i r.2).map (·.id) = s.proposals.map (·.id) :=
    Lookup.map_set_of_eq hold (by rw [hr])
  refine ⟨hids, ?_, fun p hp => ?_, fun id hid => ?_⟩
  · rw [hreceipts]
    exact hs.nodup.append (List.nodup_singleton _) (by simpa using hnew)
  · rw [hreceipts, List.mem_append, List.mem_singleton]
    obtain ⟨j, hj⟩ := List.mem_iff_getElem?.1 hp
    by_cases hij : i = j
    · subst hij
      rw [setProposal, List.getElem?_set_self (List.getElem?_eq_some_iff.1 hold).1] at hj
      obtain rfl := Option.some.inj hj
      simp [hr]
    · rw [setProposal, List.getElem?_set_ne hij] at hj
      have hne : p.id ≠ old.id := fun heq => hij (hs.ids.index_eq hold hj heq.symm)
      simpa [hne] using hs.settled_iff p (List.mem_of_getElem? hj)
  · rw [hreceipts, List.mem_append, List.mem_singleton] at hid
    change id ∈ (s.proposals.set i r.2).map (·.id)
    rw [hsame]
    rcases hid with hid | rfl
    · exact hs.known id hid
    · exact List.mem_map_of_mem (List.mem_of_getElem? hold)

lemma le_cooldownEnd (fund : Fund) (now : Time) :
    now + (fund.cooldownPeriod : ℤ) ≤ cooldownEnd fund now := by
  have hmax : (fund.cooldownPeriod : ℚ) ≤ (max 0 fund.cooldownPeriod : ℤ) :=
    Int.cast_le.2 (le_max_right _ _)
  rw [cooldownEnd]
  linarith

/-- What one step does when it is not a bare settled status. -/
lemma step_ok {step : Step} (hs : Ledger s) (hgood : ¬SettlesByStatus s step) :
    Ledger (step.after s) ∧ CoolsDown s step := by
  have hquiet : ∀ s', Ledger s' ∧ NoneSettled s s' →
      Ledger s' ∧ (EntersSettled s s' →
        RunsUntil (step.time + (s.fund.cooldownPeriod : ℤ)) s'.fund) :=
    fun _ h => ⟨h.1, fun ⟨i, hi, hnot⟩ => absurd (h.2 i hi) hnot⟩
  have hself : Ledger s ∧ NoneSettled s s := ⟨hs, fun _ => id⟩
  cases step with
  | setup args stamp =>
    refine hquiet (writeStore.next (.setup args stamp) s) ?_
    refine @Interface.next_preserves _ _ writeStore (fun s' => Ledger s' ∧ NoneSettled s s') _ _
      hself fun r s' h => ?_
    obtain ⟨o, ho⟩ | ⟨hps, hseq, hreceipts, -⟩ :=
      frame_of_exec (w := .setup args stamp) h
    · cases ho
    · have hkeep : KeepsSettled s s' :=
        ⟨hreceipts, Or.inl ⟨hseq, by rw [hps]⟩, fun i => by rw [statusAt, statusAt, hps]⟩
      exact ⟨hs.of_keepsSettled hkeep, fun i hi => (hkeep.status i).1 hi⟩
  | call c =>
    cases c with
    | applyChainCard card clock =>
      exact hquiet _ ((preserves_ledger s).call (c := .applyChainCard card clock) trivial hself)
    | act a clock =>
      by_cases ha : Settles a
      · rw [CoolsDown, after_act]
        rcases fundStore.next_cases ⟨.act a, clock⟩ s with hfail | ⟨r, hexec⟩
        · rw [hfail]
          exact hquiet _ hself
        · obtain ⟨mid, hm, hnext⟩ := Op.exec_ok hexec
          rw [hnext]
          cases a with
          | recordSettle actor pid d =>
            have hmid : Ledger mid := ledger_recordSettle hs hm
            obtain ⟨i, old, -, -, -, -, -, rfl⟩ := recordSettle_ok hm
            refine ⟨hmid.of_keepsSettled ⟨rfl, Or.inl ⟨rfl, rfl⟩, fun _ => Iff.rfl⟩, fun _ => ?_⟩
            obtain ⟨till, htill, hle⟩ := runsUntil_startCooldown s.fund clock.now
            exact ⟨till, htill, (le_cooldownEnd s.fund clock.now).trans hle⟩
          | setProposalStatus actor pid status note =>
            obtain ⟨i, old, hfind, hauth, htrans, hcool, -⟩ := setProposalStatus_ok hm
            exact absurd ⟨actor, pid, status, note, clock, i, old, rfl, ha,
              hfind, hauth, htrans, hcool⟩ hgood
          | _ => exact absurd ha id
      · exact hquiet _ ((preserves_ledger s).call (c := .act a clock) ha hself)

/-- A bare settled status leaves a settled proposal with no receipt. -/
lemma not_receiptsAgree_of_settles {step : Step} (hids : IdsIssued s) (hs : ReceiptsAgree s)
    (hbad : SettlesByStatus s step) : ¬ReceiptsAgree (step.after s) := by
  obtain ⟨actor, pid, status, note, clock, i, old, rfl, hstatus, hmoves⟩ := hbad
  have hold : s.proposals[i]? = some old := proposal_getElem? hmoves.found
  have hnew : old.id ∉ receiptIds s := fun hmem => by
    obtain ⟨receipt, hreceipt, hid⟩ := List.mem_map.1 hmem
    obtain ⟨p, hp, hpid, hsettled⟩ := hs.settled receipt hreceipt
    obtain rfl : p = old := hids.eq_of_id hp (List.mem_of_getElem? hold) (hpid.trans hid)
    exact not_settled_of_mem hmoves.transition hsettled
  obtain ⟨reply, mid, hm⟩ := hmoves.succeeds note
  have hexec : fundStore.exec ⟨.act (.setProposalStatus actor pid status note), clock⟩ s =
      .ok (reply, bump mid clock.stamp) :=
    Op.exec_of_ok ⟨.act (.setProposalStatus actor pid status note), clock⟩ hm
  have hafter := after_act (.setProposalStatus actor pid status note) clock s
  rw [Interface.next_of_ok hexec] at hafter
  obtain ⟨j, r, hfind, -, -, -, rfl, rfl⟩ := setProposalStatus_ok hm
  obtain ⟨rfl, rfl⟩ : i = j ∧ old = r := by simpa [hmoves.found] using hfind
  intro hagree
  rw [hafter] at hagree
  have hmem : movedRecord s.fund old (Status.ofText status) note clock.now ∈
      s.proposals.set i (movedRecord s.fund old (Status.ofText status) note clock.now) :=
    List.mem_iff_getElem?.2 ⟨i, List.getElem?_set_self (List.getElem?_eq_some_iff.1 hold).1⟩
  have hone := hagree.receipted _ hmem (by rw [status_movedRecord, hstatus])
  have hcount : (receiptIds s).count old.id = 1 := by
    rw [id_movedRecord] at hone
    exact hone
  exact hnew (List.count_pos_iff.1 (by omega))

--- runs

lemma idsIssued_after (hs : IdsIssued s) (step : Step) : IdsIssued (step.after s) := by
  cases step with
  | call c => exact preserves_idsIssued.call (c := c) (by cases c <;> trivial) hs
  | setup args stamp => exact idsIssued_next hs

lemma idsIssued_runSteps (hs : IdsIssued s) (steps : List Step) : IdsIssued (runSteps steps s) := by
  induction steps using List.reverseRecOn with
  | nil => exact hs
  | append_singleton steps step ih =>
    rw [runSteps_concat]
    exact idsIssued_after ih step

lemma ledger_runSteps (hs : Ledger s) {steps : List Step}
    (hgood : ∀ pre step post, steps = pre ++ step :: post →
      ¬SettlesByStatus (runSteps pre s) step) : Ledger (runSteps steps s) := by
  induction steps using List.reverseRecOn with
  | nil => exact hs
  | append_singleton steps step ih =>
    have hbefore : Ledger (runSteps steps s) := ih fun pre st post heq =>
      hgood pre st (post ++ [step]) (by simp [heq])
    rw [runSteps_concat]
    exact (step_ok hbefore (hgood steps step [] rfl)).1

lemma ledger_createFund {fund : Fund} {host : Agent} {stamp : Time}
    (h : createFund fund host now stamp = .ok s) : Ledger s := by
  have hids := idsIssued_createFund h
  simp only [createFund, bind_eq_ok, pure_eq_ok] at h
  obtain ⟨-, -, name, -, rfl⟩ := h
  exact ⟨hids, List.nodup_nil, by simp, by simp [receiptIds]⟩

/-- A proposal goes through the vote and is executed. -/
def executedSteps : List Step :=
  (votingCalls ++
    [Call.act (.setProposalStatus "Iris" "p-1" "passed" {}) ⟨1050, 1050⟩,
      Call.act (.setProposalStatus "Iris" "p-1" "executed" {}) ⟨1060, 1060⟩]).map Step.call

def settledSteps : List Step :=
  executedSteps ++ [.call (.act (.recordSettle "Iris" "p-1" { pnl := 5000000 }) ⟨1070, 1070⟩)]

def bareSteps : List Step :=
  executedSteps ++ [.call (.act (.setProposalStatus "Iris" "p-1" "settled" {}) ⟨1070, 1070⟩)]

end SherwoodMonitor.Settlement
