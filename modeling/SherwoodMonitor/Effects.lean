import SherwoodMonitor.Calls

/-! What each operation does when it succeeds: the checks that passed, what it found and the state
it wrote. The proofs about runs use these and never unfold an operation. -/
namespace SherwoodMonitor.Effects
open PyText Lookup Models FundState Rules Service ChainCard Calls

variable {now : Time} {s s' : FundState} {caller : Option String}

lemma pure_eq_ok {α : Type} {a b : α} : (pure a : Except Exc α) = .ok b ↔ a = b := by
  simp [pure, Except.pure]

lemma throw_ne_ok {α : Type} {e : Exc} {b : α} : (throw e : Except Exc α) ≠ .ok b := by
  simp [throw, throwThe, MonadExceptOf.throw]

lemma requestMembership_ok {tid address username : String} {r : Member}
    (h : requestMembership tid address username now s = .ok (r, s')) :
    ∃ i m members, slotFor s (memberFor s tid address) { telegramId := tid, joinedAt := now } =
        (i, m, members) ∧
      r = withUsername (withAddress m address) username ∧
      s' = { s with members := members.set i r } := by
  rcases hslot : slotFor s (memberFor s tid address) { telegramId := tid, joinedAt := now } with
    ⟨i, m, members⟩
  simp only [requestMembership, hslot, bind_eq_ok, pure_eq_ok, Prod.mk.injEq] at h
  obtain ⟨-, -, rfl, rfl⟩ := h
  exact ⟨i, m, members, rfl, rfl, rfl⟩

lemma approveMember_ok {actor who address tx : String} {r : Member × DepositorBody}
    (h : approveMember actor who address tx caller now s = .ok (r, s')) :
    (checkCallerIsHost s caller).ok = true ∧ (checkHostAction s actor).ok = true ∧
      ∃ members no, s' = { s with members := members, nextMemberNo := no } := by
  simp only [approveMember, bind_eq_ok, require_eq_ok] at h
  obtain ⟨-, hcaller, -, happrove, h⟩ := h
  refine ⟨hcaller, (checkApproveMember_ok.1 happrove).1, ?_⟩
  cases hslot : approvalSlot s who address now with
  | none =>
    rw [hslot] at h
    exact absurd h throw_ne_ok
  | some t =>
    simp only [hslot, Option.map_some, pure_eq_ok, Prod.mk.injEq] at h
    exact ⟨_, _, h.2.symm⟩

lemma requestAgent_ok {agent r : Agent} (h : requestAgent agent now s = .ok (r, s')) :
    agent.identityId ≠ "" ∧ isAddress agent.address = true ∧
      ((∃ i old, s.agent agent.name = some (i, old) ∧ old.removed = true ∧
          r = joinedAgent agent now ∧ s' = { s with agents := s.agents.erase old ++ [r] }) ∨
        (∃ i old, s.agent agent.name = some (i, old) ∧ old.removed = false ∧
          old.registered = false ∧ r = rejoinedAgent old agent ∧
          s' = { s with agents := s.agents.set i r }) ∨
        (s.agent agent.name = none ∧ r = joinedAgent agent now ∧
          s' = { s with agents := s.agents ++ [r] })) := by
  simp only [requestAgent, bind_eq_ok, refuseIf_eq_ok, not_or, Bool.not_eq_true'] at h
  obtain ⟨-, ⟨hid, haddr⟩, -, -, h⟩ := h
  refine ⟨hid, by simpa using haddr, ?_⟩
  rcases hold : s.agent agent.name with _ | ⟨i, old⟩
  · simp only [hold, pure_eq_ok, Prod.mk.injEq] at h
    obtain ⟨rfl, rfl⟩ := h
    exact Or.inr (Or.inr ⟨rfl, rfl, rfl⟩)
  · cases hrem : old.removed with
    | true =>
      simp only [hold, hrem, if_true, pure_eq_ok, Prod.mk.injEq] at h
      obtain ⟨rfl, rfl⟩ := h
      exact Or.inl ⟨i, old, rfl, hrem, rfl, rfl⟩
    | false =>
      simp only [hold, hrem, Bool.false_eq_true, if_false, bind_eq_ok, refuseIf_eq_ok,
        pure_eq_ok, Prod.mk.injEq, Bool.not_eq_true] at h
      obtain ⟨-, hreg, rfl, rfl⟩ := h
      exact Or.inr (Or.inl ⟨i, old, rfl, hrem, hreg, rfl, rfl⟩)

lemma approveAgent_ok {actor name tx : String} {r : Agent × RegisterBody}
    (h : approveAgent actor name tx caller now s = .ok (r, s')) :
    (checkCallerIsHost s caller).ok = true ∧ (checkHostAction s actor).ok = true ∧
      ∃ i target, targetAgent s name = some (i, target) ∧ target.removed = false ∧
        target.registered = false ∧ r.1 = approvedAgent target tx now ∧
        r.2 = registerBody s.fund r.1 ∧ s' = { s with agents := s.agents.set i r.1 } := by
  simp only [approveAgent, bind_eq_ok, require_eq_ok] at h
  obtain ⟨-, hcaller, -, happrove, h⟩ := h
  obtain ⟨hhost, t, ht, hrem, -⟩ := checkApproveAgent_ok.1 happrove
  refine ⟨hcaller, hhost, ?_⟩
  rcases htarget : targetAgent s name with _ | ⟨i, target⟩
  · simp [htarget] at ht
  · obtain rfl : target = t := by simpa [htarget] using ht
    simp only [htarget, bind_eq_ok, refuseIf_eq_ok, pure_eq_ok, Prod.mk.injEq,
      Bool.not_eq_true] at h
    obtain ⟨-, hreg, rfl, rfl⟩ := h
    exact ⟨i, target, rfl, hrem, hreg, rfl, rfl, rfl⟩

lemma removeAgent_ok {actor name : String} {r : Agent}
    (h : removeAgent actor name caller now s = .ok (r, s')) :
    (checkCallerIsHost s caller).ok = true ∧ (checkHostAction s actor).ok = true ∧
      ∃ i target, targetAgent s name = some (i, target) ∧ target.removed = false ∧
        target.role ≠ "host" ∧ r = { target with removed := true, removedAt := some now } ∧
        s' = { s with
          agents := s.agents.set i r
          claims := s.claims.filter fun c => lower c.agent ≠ lower target.name
          proposals := s.proposals.map (cancelDraftOf (lower target.name) now) } := by
  simp only [removeAgent, bind_eq_ok, require_eq_ok] at h
  obtain ⟨-, hcaller, -, hremove, h⟩ := h
  obtain ⟨hhost, t, ht, hrem, hrole⟩ := checkRemoveAgent_ok.1 hremove
  refine ⟨hcaller, hhost, ?_⟩
  rcases htarget : targetAgent s name with _ | ⟨i, target⟩
  · simp [htarget] at ht
  · obtain rfl : target = t := by simpa [htarget] using ht
    simp only [htarget, pure_eq_ok, Prod.mk.injEq] at h
    obtain ⟨rfl, rfl⟩ := h
    exact ⟨i, target, rfl, hrem, hrole, rfl, rfl⟩

lemma agentNamed_ok {agent : String} {a : Agent} :
    agentNamed s agent = .ok a ↔ ∃ i, s.agent agent = some (i, a) := by
  rw [agentNamed]
  rcases s.agent agent with _ | ⟨i, b⟩ <;> simp

lemma claimTopic_ok {agent topic : String} {r : Claim}
    (h : claimTopic agent topic now s = .ok (r, s')) :
    (checkClaim (prune s now) agent topic now).ok = true ∧
      ((∃ i mine, claimOf (prune s now) agent now = some (i, mine) ∧
          r = { mine with expiresAt := claimExpiresAt now } ∧
          s' = { prune s now with claims := (activeClaims s now).set i r }) ∨
        (∃ i a, claimOf (prune s now) agent now = none ∧ s.agent agent = some (i, a) ∧
          r.agent = a.name ∧ r.topic = strip topic ∧
          s' = { prune s now with claims := activeClaims s now ++ [r] })) := by
  simp only [claimTopic, bind_eq_ok, require_eq_ok] at h
  obtain ⟨-, hcheck, h⟩ := h
  refine ⟨hcheck, ?_⟩
  rcases hmine : claimOf (prune s now) agent now with _ | ⟨i, mine⟩
  · simp only [hmine, bind_eq_ok, agentNamed_ok, pure_eq_ok, Prod.mk.injEq] at h
    obtain ⟨a, ⟨i, ha⟩, rfl, rfl⟩ := h
    exact Or.inr ⟨i, a, rfl, ha, rfl, rfl, rfl⟩
  · simp only [hmine, pure_eq_ok, Prod.mk.injEq] at h
    obtain ⟨rfl, rfl⟩ := h
    exact Or.inl ⟨i, mine, rfl, rfl, rfl⟩

lemma releaseClaim_ok {agent : String} {topic : Option String} {r : ℕ}
    (h : releaseClaim agent topic now s = .ok (r, s')) :
    ∃ keep, s' = { s with claims := (activeClaims s now).filter keep } := by
  simp only [releaseClaim, Except.ok.injEq, Prod.mk.injEq] at h
  exact ⟨_, h.2.symm⟩

lemma requestDraft_ok {agent topic : String} {from_ : Pitch} {r : Claim}
    (h : requestDraft agent topic from_ now s = .ok (r, s')) :
    (checkClaim (prune s now) agent (strip topic) now).ok = true ∧
      ∃ i a, s.agent agent = some (i, a) ∧ r.agent = a.name ∧ r.topic = strip topic ∧
        s' = { prune s now with
          claims :=
            (activeClaims s now).filter (fun c => lower c.agent ≠ lower a.name) ++ [r] } := by
  simp only [requestDraft, bind_eq_ok, require_eq_ok, agentNamed_ok, pure_eq_ok,
    Prod.mk.injEq] at h
  obtain ⟨-, hcheck, a, ⟨i, ha⟩, rfl, rfl⟩ := h
  exact ⟨hcheck, i, a, ha, rfl, rfl, rfl⟩

lemma draftProposal_ok {agent : String} {d : Draft} {r : DraftResult}
    (h : draftProposal agent d now s = .ok (r, s')) :
    ∃ v, checkDraft (prune s now) agent d.topic d.maxCapital d.maxDrawdownBps d.legs now = .ok v ∧
      v.ok = true ∧ ∃ i a claim, s.agent agent = some (i, a) ∧
        r.proposal = draftRecord (prune s now) a claim d now ∧
        s' = { prune s now with
          nextProposalSeq := s.nextProposalSeq + 1
          proposals := s.proposals ++ [r.proposal]
          claims := (activeClaims s now).filter fun c => lower c.agent ≠ lower a.name } := by
  simp only [draftProposal, bind_eq_ok, require_eq_ok, refuseIf_eq_ok, agentNamed_ok, pure_eq_ok,
    Prod.mk.injEq] at h
  obtain ⟨-, -, v, hv, -, hok, a, ⟨i, ha⟩, rfl, rfl⟩ := h
  exact ⟨v, hv, hok, i, a, _, ha, rfl, rfl⟩

lemma shipDraft_ok {pid : String} {r : ProposalRecord}
    (h : shipDraft pid caller now s = .ok (r, s')) :
    (checkCallerIsHost s caller).ok = true ∧ (checkCooldown s now).ok = true ∧
      ∃ i old, s.proposal pid = .ok (some (i, old)) ∧ old.status = .draft ∧
        r = shippedRecord old caller now ∧ s' = setProposal s i r := by
  simp only [shipDraft, bind_eq_ok, require_eq_ok, refuseIf_eq_ok, findProposal_ok, pure_eq_ok,
    Prod.mk.injEq, not_not] at h
  obtain ⟨-, hcaller, ⟨i, old⟩, hfind, -, hdraft, c, -, -, -, -, hcool, rfl, rfl⟩ := h
  exact ⟨hcaller, hcool, i, old, hfind, hdraft, rfl, rfl⟩

lemma setProposalStatus_ok {actor pid status : String} {note : StatusNote}
    {r : ProposalRecord × Status}
    (h : setProposalStatus actor pid status note now s = .ok (r, s')) :
    ∃ i old, s.proposal pid = .ok (some (i, old)) ∧
      requireProposerOrHost s actor old = .ok () ∧
      Status.ofText status ∈ transitions old.status ∧
      (old.status = .draft → Status.ofText status = .proposed → (checkCooldown s now).ok = true) ∧
      r = (movedRecord s.fund old (Status.ofText status) note now, old.status) ∧
      s' = { setProposal s i r.1 with
        fund := if Status.ofText status = .vetoed then startCooldown s.fund now else s.fund } := by
  simp only [setProposalStatus, bind_eq_ok, require_eq_ok, findProposal_ok, pure_eq_ok,
    checkTransition_ok, Prod.mk.injEq] at h
  obtain ⟨⟨i, old⟩, hfind, ⟨⟩, hauth, -, htrans, -, hcool, rfl, rfl⟩ := h
  refine ⟨i, old, hfind, hauth, htrans, fun hd hp => ?_, rfl, rfl⟩
  simpa [hd, hp] using hcool

lemma setChainState_ok {pid : String} {read : ChainRead} {r : ProposalRecord × Bool}
    (h : setChainState pid read now s = .ok (r, s')) :
    ∃ i old, s.proposal pid = .ok (some (i, old)) ∧
      r.1 = { readRecord old read with chainSyncedAt := some now } ∧ s' = setProposal s i r.1 := by
  simp only [setChainState, bind_eq_ok, findProposal_ok, pure_eq_ok, Prod.mk.injEq] at h
  obtain ⟨⟨i, old⟩, hfind, rfl, rfl⟩ := h
  exact ⟨i, old, hfind, rfl, rfl⟩

lemma chainStatus_ok {pid : String} {status : Status} {r : ProposalRecord × Status}
    (h : chainStatus pid status now s = .ok (r, s')) :
    ∃ i old, s.proposal pid = .ok (some (i, old)) ∧
      r = ({ old with status, updatedAt := now }, old.status) ∧
      s' = { setProposal s i r.1 with
        fund := if status = .vetoed then startCooldown s.fund now else s.fund } := by
  simp only [chainStatus, bind_eq_ok] at h
  obtain ⟨found, hfind, h⟩ := h
  rcases found with _ | ⟨i, old⟩
  · exact absurd h throw_ne_ok
  · simp only [pure_eq_ok, Prod.mk.injEq] at h
    obtain ⟨rfl, rfl⟩ := h
    exact ⟨i, old, hfind, rfl, rfl⟩

lemma chainStatus_of_found {pid : String} {i : ℕ} {old : ProposalRecord} (status : Status)
    (now : Time) (h : s.proposal pid = .ok (some (i, old))) :
    chainStatus pid status now s = .ok (({ old with status, updatedAt := now }, old.status),
      { setProposal s i { old with status, updatedAt := now } with
        fund := if status = .vetoed then startCooldown s.fund now else s.fund }) := by
  simp only [chainStatus, bind_eq_ok]
  exact ⟨_, h, rfl⟩

lemma setCardMessage_ok {pid message : String} {r : ProposalRecord}
    (h : setCardMessage pid message s = .ok (r, s')) :
    ∃ i old, s.proposal pid = .ok (some (i, old)) ∧
      r = { old with cardMessageId := message } ∧ s' = setProposal s i r := by
  simp only [setCardMessage, bind_eq_ok, findProposal_ok, pure_eq_ok, Prod.mk.injEq] at h
  obtain ⟨⟨i, old⟩, hfind, rfl, rfl⟩ := h
  exact ⟨i, old, hfind, rfl, rfl⟩

lemma recordVote_ok {pid voter side kind note : String} {r : ProposalRecord}
    (h : recordVote pid voter side kind note now s = .ok (r, s')) :
    ∃ i old, s.proposal pid = .ok (some (i, old)) ∧ s' = setProposal s i r ∧
      ((kind = "agent" ∧ (checkReview s voter (some old)).ok = true ∧
          ∃ name, name = ((s.agent voter).map (·.2.name)).getD voter ∧
            r = reviewedRecord old name (lower (strip side)) note now) ∨
        (kind ≠ "agent" ∧ ∃ j m, s.member voter = some (j, m) ∧
          (checkMemberVote (some m) (some old) now).ok = true ∧
          r = markedRecord old (if m.telegramId = "" then m.address else m.telegramId)
            (lower (strip side)) now)) := by
  simp only [recordVote, bind_eq_ok, refuseIf_eq_ok] at h
  obtain ⟨-, -, -, -, found, hfind, h⟩ := h
  by_cases hkind : kind = "agent"
  · simp only [hkind, if_true, bind_eq_ok, require_eq_ok] at h
    obtain ⟨-, hreview, h⟩ := h
    rcases found with _ | ⟨i, old⟩
    · exact absurd h throw_ne_ok
    · simp only [pure_eq_ok, Prod.mk.injEq] at h
      obtain ⟨rfl, rfl⟩ := h
      exact ⟨i, old, hfind, rfl, Or.inl ⟨hkind, hreview, _, rfl, rfl⟩⟩
  · simp only [hkind, if_false, bind_eq_ok, require_eq_ok] at h
    obtain ⟨-, hvote, h⟩ := h
    rcases found with _ | ⟨i, old⟩
    · exact absurd h throw_ne_ok
    · rcases hm : s.member voter with _ | ⟨j, m⟩
      · simp [hm, checkMemberVote_ok] at hvote
      · simp only [hm, Option.map_some, pure_eq_ok, Prod.mk.injEq] at h hvote
        obtain ⟨rfl, rfl⟩ := h
        exact ⟨i, old, hfind, rfl, Or.inr ⟨hkind, j, m, rfl, hvote, rfl⟩⟩

lemma recordSettle_ok {actor pid : String} {d : Settle} {r : SettleReceipt × ProposalRecord}
    (h : recordSettle actor pid d now s = .ok (r, s')) :
    ∃ i old, s.proposal pid = .ok (some (i, old)) ∧
      requireProposerOrHost s actor old = .ok () ∧ .settled ∈ transitions old.status ∧
      r.2 = { old with status := .settled, updatedAt := now } ∧
      r.1 = settleReceipt s.fund r.2 d now ∧
      s' = { setProposal s i r.2 with
        fund := startCooldown s.fund now
        receipts := s.receipts ++ [r.1] } := by
  simp only [recordSettle, bind_eq_ok, require_eq_ok, findProposal_ok, pure_eq_ok,
    checkTransition_ok, Prod.mk.injEq] at h
  obtain ⟨⟨i, old⟩, hfind, ⟨⟩, hauth, -, htrans, rfl, rfl⟩ := h
  exact ⟨i, old, hfind, hauth, htrans, rfl, rfl, rfl⟩

lemma cardFund_ok {card : CardFund} {r : Unit} (h : ChainCard.cardFund card s = .ok (r, s')) :
    ∃ period veto till, govParam card.gov "cooldownPeriod" s.fund.cooldownPeriod = .ok period ∧
      govParam card.gov "vetoThresholdBps" s.fund.vetoThresholdBps = .ok veto ∧
      gateCooldown card.gate s.fund.cooldownUntil = .ok till ∧
      s' = { s with
        fund := { s.fund with
          cooldownPeriod := period
          vetoThresholdBps := veto
          cooldownUntil := till
          agentFeeBps := card.fee.or s.fund.agentFeeBps }
        members := s.members.map (depositedMember card.depositOrder) } := by
  simp only [ChainCard.cardFund, bind_eq_ok, pure_eq_ok, Prod.mk.injEq] at h
  obtain ⟨period, hperiod, veto, hveto, till, htill, -, rfl⟩ := h
  exact ⟨period, veto, till, hperiod, hveto, htill, rfl⟩

/-- The operations that write agent records. -/
def WritesAgents (a : Act) : Prop :=
  (∃ agent, a = .requestAgent agent) ∨
    (∃ actor name tx caller, a = .approveAgent actor name tx caller) ∨
      ∃ actor name caller, a = .removeAgent actor name caller

/-- The operations that add a claim. -/
def AddsClaim (a : Act) : Prop :=
  (∃ agent topic, a = .claimTopic agent topic) ∨
    ∃ agent topic from_, a = .requestDraft agent topic from_

/-- The state gains one proposal, a draft under the next id. -/
def Drafts (s s' : FundState) : Prop :=
  s'.nextProposalSeq = s.nextProposalSeq + 1 ∧ ∃ r : ProposalRecord, r.status = .draft ∧
    r.id = "p-" ++ toString s.nextProposalSeq ∧ s'.proposals = s.proposals ++ [r]

/-- The state has the same proposals, by id. -/
def KeepsIds (s s' : FundState) : Prop :=
  s'.nextProposalSeq = s.nextProposalSeq ∧ s'.proposals.map (·.id) = s.proposals.map (·.id)

/-- The parts of the state that an operation leaves alone, or the only way it changes them. -/
structure ActFrame (now : Time) (a : Act) (s s' : FundState) : Prop where
  fund : s'.fund = s.fund ∨ s'.fund = startCooldown s.fund now
  agents : WritesAgents a ∨ s'.agents = s.agents
  claims : AddsClaim a ∨ s'.claims.Sublist s.claims
  proposals : KeepsIds s s' ∨ Drafts s s'
  receipts : (∃ actor pid d, a = .recordSettle actor pid d) ∨ s'.receipts = s.receipts

/-- An operation that touches no more than members and their numbers. -/
lemma actFrame_of_eq {a : Act} (hfund : s'.fund = s.fund) (hagents : s'.agents = s.agents)
    (hclaims : s'.claims = s.claims) (hproposals : s'.proposals = s.proposals)
    (hreceipts : s'.receipts = s.receipts) (hseq : s'.nextProposalSeq = s.nextProposalSeq) :
    ActFrame now a s s' where
  fund := Or.inl hfund
  agents := Or.inr hagents
  claims := Or.inr (hclaims ▸ List.Sublist.refl _)
  proposals := Or.inl ⟨hseq, by rw [hproposals]⟩
  receipts := Or.inr hreceipts

lemma keepsIds_of_set {pid : String} {i : ℕ} {old r : ProposalRecord}
    (hfind : s.proposal pid = .ok (some (i, old))) (hid : r.id = old.id)
    (hs : s'.proposals = s.proposals.set i r) (hseq : s'.nextProposalSeq = s.nextProposalSeq) :
    KeepsIds s s' :=
  ⟨hseq, by rw [hs, map_set_of_eq (proposal_getElem? hfind) hid]⟩

lemma id_movedRecord (fund : Fund) (old : ProposalRecord) (status : Status) (note : StatusNote) :
    (movedRecord fund old status note now).id = old.id := by
  rw [movedRecord]
  split_ifs <;> rfl

lemma id_markedRecord (old : ProposalRecord) (tid side : String) :
    (markedRecord old tid side now).id = old.id := rfl

/-- Writing back one record. -/
lemma actFrame_of_set {a : Act} {pid : String} {i : ℕ} {old r : ProposalRecord}
    (hfind : s.proposal pid = .ok (some (i, old))) (hid : r.id = old.id) :
    ActFrame now a s (setProposal s i r) where
  fund := Or.inl rfl
  agents := Or.inr rfl
  claims := Or.inr (List.Sublist.refl _)
  proposals := Or.inl (keepsIds_of_set hfind hid rfl rfl)
  receipts := Or.inr rfl

lemma actFrame_of_claims {a : Act} {claims : List Claim}
    (hclaims : AddsClaim a ∨ claims.Sublist s.claims) : ActFrame now a s { s with claims } where
  fund := Or.inl rfl
  agents := Or.inr rfl
  claims := hclaims
  proposals := Or.inl ⟨rfl, rfl⟩
  receipts := Or.inr rfl

lemma actFrame_of_agents {a : Act} {agents : List Agent} (ha : WritesAgents a) :
    ActFrame now a s { s with agents } where
  fund := Or.inl rfl
  agents := Or.inl ha
  claims := Or.inr (List.Sublist.refl _)
  proposals := Or.inl ⟨rfl, rfl⟩
  receipts := Or.inr rfl

lemma id_cancelDraftOf (key : String) (p : ProposalRecord) : (cancelDraftOf key now p).id = p.id := by
  rw [cancelDraftOf]
  split_ifs <;> rfl

lemma actFrame_draftProposal {agent : String} {d : Draft} {r : DraftResult}
    (h : draftProposal agent d now s = .ok (r, s')) :
    ActFrame now (.draftProposal agent d) s s' := by
  obtain ⟨v, -, -, i, a, claim, -, hr, rfl⟩ := draftProposal_ok h
  have hstatus : r.proposal.status = .draft := by rw [hr]; rfl
  have hid : r.proposal.id = "p-" ++ toString s.nextProposalSeq := by rw [hr]; rfl
  exact
    { fund := Or.inl rfl
      agents := Or.inr rfl
      claims := Or.inr (List.filter_sublist.trans List.filter_sublist)
      proposals := Or.inr ⟨rfl, r.proposal, hstatus, hid, rfl⟩
      receipts := Or.inr rfl }

lemma actFrame_removeAgent {actor name : String} {r : Agent}
    (h : removeAgent actor name caller now s = .ok (r, s')) :
    ActFrame now (.removeAgent actor name caller) s s' := by
  obtain ⟨-, -, i, target, -, -, -, -, rfl⟩ := removeAgent_ok h
  have hids : (s.proposals.map (cancelDraftOf (lower target.name) now)).map (·.id) =
      s.proposals.map (·.id) := by
    simp only [List.map_map, Function.comp_def, id_cancelDraftOf]
  exact
    { fund := Or.inl rfl
      agents := Or.inl (Or.inr (Or.inr ⟨actor, name, caller, rfl⟩))
      claims := Or.inr List.filter_sublist
      proposals := Or.inl ⟨rfl, hids⟩
      receipts := Or.inr rfl }

lemma actFrame_setProposalStatus {actor pid status : String} {note : StatusNote}
    {r : ProposalRecord × Status}
    (h : setProposalStatus actor pid status note now s = .ok (r, s')) :
    ActFrame now (.setProposalStatus actor pid status note) s s' := by
  obtain ⟨i, old, hfind, -, -, -, rfl, rfl⟩ := setProposalStatus_ok h
  have hfund : (if Status.ofText status = .vetoed then startCooldown s.fund now else s.fund) =
      s.fund ∨ (if Status.ofText status = .vetoed then startCooldown s.fund now else s.fund) =
        startCooldown s.fund now := by
    split_ifs
    · exact Or.inr rfl
    · exact Or.inl rfl
  exact
    { fund := hfund
      agents := Or.inr rfl
      claims := Or.inr (List.Sublist.refl _)
      proposals := Or.inl (keepsIds_of_set hfind (id_movedRecord _ _ _ _) rfl rfl)
      receipts := Or.inr rfl }

lemma actFrame_recordSettle {actor pid : String} {d : Settle} {r : SettleReceipt × ProposalRecord}
    (h : recordSettle actor pid d now s = .ok (r, s')) :
    ActFrame now (.recordSettle actor pid d) s s' := by
  obtain ⟨i, old, hfind, -, -, hr, -, rfl⟩ := recordSettle_ok h
  have hid : r.2.id = old.id := by rw [hr]
  exact
    { fund := Or.inr rfl
      agents := Or.inr rfl
      claims := Or.inr (List.Sublist.refl _)
      proposals := Or.inl (keepsIds_of_set hfind hid rfl rfl)
      receipts := Or.inl ⟨actor, pid, d, rfl⟩ }

theorem actFrame {a : Act} {r : a.Reply} (h : a.mutate now s = .ok (r, s')) :
    ActFrame now a s s' := by
  cases a <;> dsimp only [Act.mutate] at h
  case requestMembership tid address username =>
    obtain ⟨i, m, members, -, -, rfl⟩ := requestMembership_ok h
    exact actFrame_of_eq rfl rfl rfl rfl rfl rfl
  case approveMember actor who address tx caller =>
    obtain ⟨-, -, members, no, rfl⟩ := approveMember_ok h
    exact actFrame_of_eq rfl rfl rfl rfl rfl rfl
  case requestAgent agent =>
    have ha : WritesAgents (.requestAgent agent) := Or.inl ⟨agent, rfl⟩
    obtain ⟨-, -, ⟨i, old, -, -, -, rfl⟩ | ⟨i, old, -, -, -, -, rfl⟩ | ⟨-, -, rfl⟩⟩ :=
      requestAgent_ok h
    · exact actFrame_of_agents ha
    · exact actFrame_of_agents ha
    · exact actFrame_of_agents ha
  case approveAgent actor name tx caller =>
    obtain ⟨-, -, i, target, -, -, -, -, -, rfl⟩ := approveAgent_ok h
    exact actFrame_of_agents (Or.inr (Or.inl ⟨actor, name, tx, caller, rfl⟩))
  case removeAgent actor name caller => exact actFrame_removeAgent h
  case claimTopic agent topic =>
    have hadds : AddsClaim (.claimTopic agent topic) := Or.inl ⟨agent, topic, rfl⟩
    obtain ⟨-, ⟨j, mine, -, -, rfl⟩ | ⟨j, a, -, -, -, -, rfl⟩⟩ := claimTopic_ok h
    · exact actFrame_of_claims (Or.inl hadds)
    · exact actFrame_of_claims (Or.inl hadds)
  case releaseClaim agent topic =>
    obtain ⟨keep, rfl⟩ := releaseClaim_ok h
    exact actFrame_of_claims (Or.inr (List.filter_sublist.trans List.filter_sublist))
  case requestDraft agent topic from_ =>
    obtain ⟨-, j, a, -, -, -, rfl⟩ := requestDraft_ok h
    exact actFrame_of_claims (Or.inl (Or.inr ⟨agent, topic, from_, rfl⟩))
  case draftProposal agent d => exact actFrame_draftProposal h
  case shipDraft pid caller =>
    obtain ⟨-, -, j, old, hfind, -, rfl, rfl⟩ := shipDraft_ok h
    exact actFrame_of_set hfind rfl
  case setProposalStatus actor pid status note => exact actFrame_setProposalStatus h
  case setChainState pid read =>
    obtain ⟨j, old, hfind, hr, rfl⟩ := setChainState_ok h
    exact actFrame_of_set hfind (by rw [hr]; rfl)
  case setCardMessage pid message =>
    obtain ⟨j, old, hfind, rfl, rfl⟩ := setCardMessage_ok h
    exact actFrame_of_set hfind rfl
  case recordVote pid voter side kind note =>
    obtain ⟨j, old, hfind, rfl, ⟨-, -, name, -, rfl⟩ | ⟨-, k, m, -, -, rfl⟩⟩ := recordVote_ok h
    · exact actFrame_of_set hfind rfl
    · exact actFrame_of_set hfind (id_markedRecord old _ _)
  case recordSettle actor pid d => exact actFrame_recordSettle h

end SherwoodMonitor.Effects
