import SherwoodMonitor.CallRuns

/-! The statuses that each proposal takes. An update checks the step that it writes, on the state
that it writes to; only the chain's status write does not, and between the check that a card's
row made and this write other processes may have moved the proposal. -/
namespace SherwoodMonitor.StatusMoves
open Lookup Models FundState Rules Service Calls Effects AtomicStore

variable {now : Time} {s s' : FundState} {i : ℕ} {r r' : ProposalRecord} {u : Update}

def statusAt (s : FundState) (i : ℕ) : Option Status := s.proposals[i]?.map (·.status)

lemma statusAt_eq_some {status : Status} :
    statusAt s i = some status ↔ ∃ r, s.proposals[i]? = some r ∧ r.status = status := by
  simp [statusAt]

/-- How an update `u` on `s` may move the record `old` at position `i`. -/
inductive StatusMove (s : FundState) (i : ℕ) (old : ProposalRecord) : Update → Status → Prop
  | kept (u : Update) : StatusMove s i old u old.status
  | set (actor pid status : String) (note : StatusNote) :
      s.proposal pid = .ok (some (i, old)) → Status.ofText status ∈ transitions old.status →
      StatusMove s i old (.act (.setProposalStatus actor pid status note)) (Status.ofText status)
  | settled (actor pid : String) (d : Settle) :
      s.proposal pid = .ok (some (i, old)) → .settled ∈ transitions old.status →
      StatusMove s i old (.act (.recordSettle actor pid d)) .settled
  | cancelled (actor name : String) (caller : Option String) : old.status = .draft →
      StatusMove s i old (.act (.removeAgent actor name caller)) .cancelled
  | chain (pid : String) (status : Status) : s.proposal pid = .ok (some (i, old)) →
      StatusMove s i old (.chainStatus pid status) status

/-- The position that a proposal asks for, and how it is argued. -/
structure Terms where
  topic : String
  thesis : String
  legs : List Leg
  maxCapital : String
  maxDrawdownBps : ℤ
  strategyDuration : ℤ
  quoteUsdPerWood : String

def termsOf (r : ProposalRecord) : Terms :=
  ⟨r.topic, r.thesis, r.legs, r.maxCapital, r.maxDrawdownBps, r.strategyDuration,
    r.quoteUsdPerWood⟩

/-- What stays of a record whatever is written to it. -/
structure SameProposal (r r' : ProposalRecord) : Prop where
  id : r'.id = r.id
  proposerAgent : r'.proposerAgent = r.proposerAgent
  terms : termsOf r' = termsOf r

lemma SameProposal.rfl : SameProposal r r := ⟨Eq.refl _, Eq.refl _, Eq.refl _⟩

lemma SameProposal.trans {r'' : ProposalRecord} (h : SameProposal r r')
    (h' : SameProposal r' r'') : SameProposal r r'' :=
  ⟨h'.id.trans h.id, h'.proposerAgent.trans h.proposerAgent, h'.terms.trans h.terms⟩

/-- The record at `i` after the update is the one before it, moved. -/
def MovedBy (u : Update) (s s' : FundState) (i : ℕ) (r : ProposalRecord) : Prop :=
  ∃ r', s'.proposals[i]? = some r' ∧ SameProposal r r' ∧ StatusMove s i r u r'.status

lemma movedBy_of_eq (hr : s.proposals[i]? = some r) (hs : s'.proposals = s.proposals) :
    MovedBy u s s' i r :=
  ⟨r, by rw [hs, hr], SameProposal.rfl, StatusMove.kept u⟩

/-- A record written back moves as its own status does; the others stay. -/
lemma movedBy_of_set {pid : String} {j : ℕ} {old new : ProposalRecord}
    (hr : s.proposals[i]? = some r) (hfind : s.proposal pid = .ok (some (j, old)))
    (hs : s'.proposals = s.proposals.set j new) (hsame : SameProposal old new)
    (hmove : StatusMove s j old u new.status) : MovedBy u s s' i r := by
  by_cases hij : j = i
  · subst hij
    have hold : r = old := by
      have hget := proposal_getElem? hfind
      rw [hr] at hget
      exact Option.some.inj hget
    have hlt : j < s.proposals.length := (List.getElem?_eq_some_iff.1 hr).1
    subst hold
    exact ⟨new, by rw [hs, List.getElem?_set_self hlt], hsame, hmove⟩
  · have hget : s'.proposals[i]? = some r := by rw [hs, List.getElem?_set_ne hij, hr]
    exact ⟨r, hget, SameProposal.rfl, StatusMove.kept u⟩

lemma sameProposal_movedRecord (fund : Fund) (old : ProposalRecord) (status : Status)
    (note : StatusNote) : SameProposal old (movedRecord fund old status note now) := by
  constructor
  · rw [movedRecord]
    split_ifs <;> rfl
  · rw [movedRecord]
    split_ifs <;> rfl
  · rw [movedRecord]
    split_ifs <;> rfl

lemma sameProposal_markedRecord (old : ProposalRecord) (tid side : String) :
    SameProposal old (markedRecord old tid side now) := ⟨rfl, rfl, rfl⟩

lemma status_movedRecord (fund : Fund) (old : ProposalRecord) (status : Status)
    (note : StatusNote) : (movedRecord fund old status note now).status = status := by
  rw [movedRecord]
  split_ifs <;> rfl

lemma movedBy_act {a : Act} {reply : a.Reply} (h : a.mutate now s = .ok (reply, s'))
    (hr : s.proposals[i]? = some r) : MovedBy (.act a) s s' i r := by
  cases a <;> dsimp only [Act.mutate] at h
  case requestMembership tid address username =>
    obtain ⟨i, m, members, -, -, rfl⟩ := requestMembership_ok h
    exact movedBy_of_eq hr rfl
  case approveMember actor who address tx caller =>
    obtain ⟨-, -, members, no, rfl⟩ := approveMember_ok h
    exact movedBy_of_eq hr rfl
  case requestAgent agent =>
    obtain ⟨-, -, ⟨i, old, -, -, -, rfl⟩ | ⟨i, old, -, -, -, -, rfl⟩ | ⟨-, -, rfl⟩⟩ :=
      requestAgent_ok h
    · exact movedBy_of_eq hr rfl
    · exact movedBy_of_eq hr rfl
    · exact movedBy_of_eq hr rfl
  case approveAgent actor name tx caller =>
    obtain ⟨-, -, i, target, -, -, -, -, -, rfl⟩ := approveAgent_ok h
    exact movedBy_of_eq hr rfl
  case removeAgent actor name caller =>
    obtain ⟨-, -, j, target, -, -, -, -, rfl⟩ := removeAgent_ok h
    refine ⟨cancelDraftOf (PyText.lower target.name) now r, by simp [hr], ?_⟩
    rw [cancelDraftOf]
    split_ifs with hdraft
    · exact ⟨⟨rfl, rfl, rfl⟩, StatusMove.cancelled actor name caller hdraft.2⟩
    · exact ⟨SameProposal.rfl, StatusMove.kept _⟩
  case claimTopic agent topic =>
    obtain ⟨-, ⟨j, mine, -, -, rfl⟩ | ⟨j, a, -, -, -, -, rfl⟩⟩ := claimTopic_ok h
    · exact movedBy_of_eq hr rfl
    · exact movedBy_of_eq hr rfl
  case releaseClaim agent topic =>
    obtain ⟨keep, rfl⟩ := releaseClaim_ok h
    exact movedBy_of_eq hr rfl
  case requestDraft agent topic from_ =>
    obtain ⟨-, j, a, -, -, -, rfl⟩ := requestDraft_ok h
    exact movedBy_of_eq hr rfl
  case draftProposal agent d =>
    obtain ⟨v, -, -, j, a, claim, -, -, rfl⟩ := draftProposal_ok h
    have hlt : i < s.proposals.length := (List.getElem?_eq_some_iff.1 hr).1
    have hget : (s.proposals ++ [reply.proposal])[i]? = some r := by
      rw [List.getElem?_append_left hlt, hr]
    exact ⟨r, hget, SameProposal.rfl, StatusMove.kept _⟩
  case shipDraft pid caller =>
    obtain ⟨-, -, j, old, hfind, -, rfl, rfl⟩ := shipDraft_ok h
    exact movedBy_of_set hr hfind rfl ⟨rfl, rfl, rfl⟩ (StatusMove.kept _)
  case setProposalStatus actor pid status note =>
    obtain ⟨j, old, hfind, -, htrans, -, rfl, rfl⟩ := setProposalStatus_ok h
    refine movedBy_of_set hr hfind rfl (sameProposal_movedRecord _ _ _ _) ?_
    rw [status_movedRecord]
    exact StatusMove.set actor pid status note hfind htrans
  case setChainState pid read =>
    obtain ⟨j, old, hfind, hreply, rfl⟩ := setChainState_ok h
    rw [hreply]
    exact movedBy_of_set hr hfind rfl ⟨rfl, rfl, rfl⟩ (StatusMove.kept _)
  case setCardMessage pid message =>
    obtain ⟨j, old, hfind, rfl, rfl⟩ := setCardMessage_ok h
    exact movedBy_of_set hr hfind rfl ⟨rfl, rfl, rfl⟩ (StatusMove.kept _)
  case recordVote pid voter side kind note =>
    obtain ⟨j, old, hfind, rfl, ⟨-, -, name, -, rfl⟩ | ⟨-, k, m, -, -, rfl⟩⟩ := recordVote_ok h
    · exact movedBy_of_set hr hfind rfl ⟨rfl, rfl, rfl⟩ (StatusMove.kept _)
    · refine movedBy_of_set hr hfind rfl (sameProposal_markedRecord old _ _) ?_
      rw [markedRecord_status]
      exact StatusMove.kept _
  case recordSettle actor pid d =>
    obtain ⟨j, old, hfind, -, htrans, hreply, -, rfl⟩ := recordSettle_ok h
    rw [hreply]
    exact movedBy_of_set hr hfind rfl ⟨rfl, rfl, rfl⟩ (StatusMove.settled actor pid d hfind htrans)

/-- What one update does to the record at a position. -/
theorem movedBy_mutate {reply : u.Reply} (h : u.mutate now s = .ok (reply, s'))
    (hr : s.proposals[i]? = some r) : MovedBy u s s' i r := by
  cases u with
  | act a => exact movedBy_act h hr
  | cardFund card =>
    obtain ⟨period, veto, till, -, -, -, rfl⟩ := cardFund_ok h
    exact movedBy_of_eq hr rfl
  | chainStatus pid status =>
    obtain ⟨j, old, hfind, rfl, rfl⟩ := chainStatus_ok h
    exact movedBy_of_set hr hfind rfl ⟨rfl, rfl, rfl⟩ (StatusMove.chain pid status hfind)

/-- Only a draft adds a proposal. -/
lemma proposals_mutate {reply : u.Reply} (h : u.mutate now s = .ok (reply, s')) :
    KeepsIds s s' ∨ Drafts s s' := by
  cases u with
  | act a => exact (actFrame h).proposals
  | cardFund card =>
    obtain ⟨period, veto, till, -, -, -, rfl⟩ := cardFund_ok h
    exact Or.inl ⟨rfl, rfl⟩
  | chainStatus pid status =>
    obtain ⟨j, old, hfind, hr, rfl⟩ := chainStatus_ok h
    have hid : reply.1.id = old.id := by rw [hr]
    exact Or.inl (keepsIds_of_set hfind hid rfl rfl)

/-- A new proposal is a draft. -/
lemma status_of_new {reply : u.Reply} (h : u.mutate now s = .ok (reply, s'))
    (hnone : s.proposals[i]? = none) (hr : s'.proposals[i]? = some r) : r.status = .draft := by
  have hlt : i < s'.proposals.length := (List.getElem?_eq_some_iff.1 hr).1
  have hge : s.proposals.length ≤ i := List.getElem?_eq_none_iff.1 hnone
  rcases proposals_mutate h with ⟨-, hids⟩ | ⟨-, new, hdraft, -, hs⟩
  · have hlen := congrArg List.length hids
    simp only [List.length_map] at hlen
    omega
  · rw [hs, List.getElem?_append_right hge] at hr
    have hmem : r ∈ [new] := List.mem_of_getElem? hr
    rw [List.mem_singleton.1 hmem, hdraft]

lemma movedBy_exec {op : Op} {reply : op.update.Reply} (h : op.exec s = .ok (reply, s'))
    (hr : s.proposals[i]? = some r) : MovedBy op.update s s' i r := by
  obtain ⟨mid, hm, rfl⟩ := Op.exec_ok h
  obtain ⟨r', hr', hmoved⟩ := movedBy_mutate hm hr
  exact ⟨r', hr', hmoved⟩

end SherwoodMonitor.StatusMoves
