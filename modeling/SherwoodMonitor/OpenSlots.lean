import SherwoodMonitor.CallRuns
import SherwoodMonitor.Library.Slots

/-! The slots of a fund: claims and open proposals share two, and no agent holds more than one.
A claim takes a slot, a draft takes over the slot of its proposer's claim, and a status change
frees one. -/
namespace SherwoodMonitor.OpenSlots
open List PyText Lookup Models FundState Rules Service Calls CallRuns Effects Slots

/-- Who holds a claim, expired or not, by compared name. -/
def claimHolders (s : FundState) : List String := s.claims.map fun c => lower c.agent

def openHolders (s : FundState) : List String := s.openProposals.map fun p => lower p.proposerAgent

/-- Every stored claim and every open proposal has a slot of the fund. -/
def SlotsFit (s : FundState) : Prop := Fits maxOpenPerFund (claimHolders s ++ openHolders s)

variable {s s' : FundState} {now : Time} {agent : String}

lemma SlotsFit.of_sublists (h : SlotsFit s) (hc : claimHolders s' <+ claimHolders s)
    (ho : openHolders s' <+ openHolders s) : SlotsFit s' :=
  Fits.of_subperm h (hc.append ho).subperm

lemma claimHolders_filter (p : Claim → Bool) :
    claimHolders { s with claims := s.claims.filter p } <+ claimHolders s :=
  filter_sublist.map _

lemma SlotsFit.prune (h : SlotsFit s) : SlotsFit (prune s now) :=
  h.of_sublists (claimHolders_filter _) (Sublist.refl _)

/-- A record written back takes no slot that it did not have. -/
lemma openHolders_setProposal {i : ℕ} {old r : ProposalRecord} (hold : s.proposals[i]? = some old)
    (hopen : r.isOpen = true → old.isOpen = true) (hwho : r.proposerAgent = old.proposerAgent) :
    openHolders (setProposal s i r) <+ openHolders s :=
  filter_map_set_sublist hold hopen (by rw [hwho])

lemma SlotsFit.setProposal {i : ℕ} {pid : String} {old r : ProposalRecord} (h : SlotsFit s)
    (hfind : s.proposal pid = .ok (some (i, old)))
    (hopen : r.isOpen = true → old.isOpen = true) (hwho : r.proposerAgent = old.proposerAgent) :
    SlotsFit (setProposal s i r) :=
  h.of_sublists (Sublist.refl _) (openHolders_setProposal (proposal_getElem? hfind) hopen hwho)

/-- Only an open proposal has somewhere to go. -/
lemma isOpen_of_transition {r : ProposalRecord} {status : Status}
    (h : status ∈ transitions r.status) : r.isOpen = true := by
  rw [ProposalRecord.isOpen]
  cases hs : r.status <;> simp [hs, transitions] at h <;> decide

@[simp] lemma activeClaims_prune : activeClaims (Service.prune s now) now = activeClaims s now := by
  simp [activeClaims, Service.prune, filter_filter]

lemma claimOf_prune_none :
    claimOf (Service.prune s now) agent now = none ↔
      ∀ c ∈ activeClaims s now, lower c.agent ≠ lower agent := by
  simp only [claimOf, Service.prune, locate_eq_none, activeClaims, mem_filter]
  constructor
  · intro h c hc heq
    simpa [heq, of_decide_eq_true hc.2] using h c hc
  · intro h c hc
    simp [h c hc]

lemma mem_claimHolders_of_claimOf {i : ℕ} {c : Claim} (h : claimOf s agent now = some (i, c)) :
    lower agent ∈ claimHolders s := by
  have hc := locate_holds h
  simp only [Bool.and_eq_true, decide_eq_true_eq] at hc
  exact mem_map.2 ⟨c, locate_mem h, hc.2⟩

lemma notMem_openHolders (h : (openProposalsOf s agent).length < maxOpenPerAgent) :
    lower agent ∉ openHolders s := by
  intro hmem
  obtain ⟨p, hp, heq⟩ := mem_map.1 hmem
  have hnil : openProposalsOf s agent = [] := length_eq_zero_iff.1 (Nat.lt_one_iff.1 h)
  have hin : p ∈ openProposalsOf s agent := by
    simp only [openProposals, mem_filter] at hp
    simp [openProposalsOf, hp, heq]
  simp [hnil] at hin

lemma notMem_claimHolders (h : ∀ c ∈ activeClaims s now, lower c.agent ≠ lower agent) :
    lower agent ∉ claimHolders (Service.prune s now) := by
  intro hmem
  obtain ⟨c, hc, heq⟩ := mem_map.1 hmem
  exact h c hc heq

/-- For an agent without a claim, all live claims are other agents'. -/
lemma otherClaims_prune (h : ∀ c ∈ activeClaims s now, lower c.agent ≠ lower agent) :
    otherClaims (Service.prune s now) agent now = (Service.prune s now).claims := by
  rw [otherClaims, activeClaims_prune]
  exact filter_eq_self.2 fun c hc => by simpa using h c hc

/-- The stored name of an agent named without outer blanks is spelled like the name given. -/
lemma lower_name_of_trimmed {i : ℕ} {a : Agent} (hagent : strip agent = agent)
    (h : s.agent agent = some (i, a)) : lower a.name = lower agent := by
  rw [agent_name h, lookupKey, hagent]

/-- A new claim of an agent that holds nothing takes a free slot. -/
lemma SlotsFit.newClaim {c : Claim} (h : SlotsFit s) (hc : lower c.agent = lower agent)
    (hmine : lower agent ∉ claimHolders s) (hopen : lower agent ∉ openHolders s)
    (hfree : s.openProposals.length + s.claims.length < maxOpenPerFund) :
    SlotsFit { s with claims := s.claims ++ [c] } := by
  have hk : lower agent ∉ claimHolders s ++ openHolders s := by simp [hmine, hopen]
  have hlen : (claimHolders s ++ openHolders s).length < maxOpenPerFund := by
    simp only [length_append, claimHolders, openHolders, length_map]
    omega
  have hperm : (claimHolders { s with claims := s.claims ++ [c] } ++
      openHolders { s with claims := s.claims ++ [c] }) ~
        lower agent :: (claimHolders s ++ openHolders s) := by
    have heq : claimHolders { s with claims := s.claims ++ [c] } =
        claimHolders s ++ [lower agent] := by simp [claimHolders, hc]
    rw [heq, append_assoc]
    exact perm_middle
  exact (Fits.take h hk hlen).of_subperm hperm.subperm

/-- An agent that gives up its claims for one new claim keeps its slot. -/
lemma SlotsFit.replaceClaim {c : Claim} {key : String} (h : SlotsFit s)
    (hc : lower c.agent = key) (hmine : key ∈ claimHolders s) :
    SlotsFit { s with claims := s.claims.filter (fun c => lower c.agent ≠ key) ++ [c] } := by
  have heq : claimHolders { s with
      claims := s.claims.filter (fun c => lower c.agent ≠ key) ++ [c] } =
        (claimHolders s).filter (· ≠ key) ++ [key] := by
    simp [claimHolders, hc, filter_map, Function.comp_def]
  have hsub : (claimHolders s).filter (· ≠ key) ++ [key] <+~ claimHolders s :=
    (perm_append_singleton _ _).subperm.trans (cons_filter_ne_subperm hmine)
  rw [SlotsFit, heq]
  exact Fits.of_subperm h (hsub.append (Subperm.refl _))

/-- A draft takes over the slot of its proposer's claim. -/
lemma SlotsFit.draft {r : ProposalRecord} {key : String} {seq : ℤ} (h : SlotsFit s)
    (hwho : lower r.proposerAgent = key) (hmine : key ∈ claimHolders s) :
    SlotsFit { s with
      nextProposalSeq := seq
      proposals := s.proposals ++ [r]
      claims := s.claims.filter fun c => lower c.agent ≠ key } := by
  have hclaims : claimHolders { s with
      nextProposalSeq := seq
      proposals := s.proposals ++ [r]
      claims := s.claims.filter fun c => lower c.agent ≠ key } =
        (claimHolders s).filter (· ≠ key) := by
    simp [claimHolders, filter_map, Function.comp_def]
  have hopen : openHolders { s with
      nextProposalSeq := seq
      proposals := s.proposals ++ [r]
      claims := s.claims.filter fun c => lower c.agent ≠ key } <+ openHolders s ++ [key] := by
    simp only [openHolders, openProposals, filter_append, map_append]
    refine (Sublist.refl _).append ?_
    by_cases hr : r.isOpen = true <;> simp [hr, hwho]
  have hmove : (claimHolders s).filter (· ≠ key) ++ (openHolders s ++ [key]) <+~
      claimHolders s ++ openHolders s := by
    rw [← append_assoc]
    exact ((perm_append_singleton _ _).subperm.trans (Subperm.refl _)).trans
      ((cons_filter_ne_subperm hmine).append (Subperm.refl _))
  rw [SlotsFit, hclaims]
  exact Fits.of_subperm h (((Sublist.refl _).append hopen).subperm.trans hmove)

/-- The agent names that the tools pass carry no outer blanks. -/
def TrimmedAgent : Act → Prop
  | .claimTopic agent _ | .requestDraft agent _ _ | .draftProposal agent _ => strip agent = agent
  | _ => True

lemma slotsFit_claimTopic {topic : String} {r : Claim} (hagent : strip agent = agent)
    (hs : SlotsFit s) (h : claimTopic agent topic now s = .ok (r, s')) : SlotsFit s' := by
  obtain ⟨hcheck, hcases⟩ := claimTopic_ok h
  obtain ⟨-, -, hopen, -, hslot⟩ := checkClaim_ok.1 hcheck
  have hs' : SlotsFit (prune s now) := hs.prune
  rcases hcases with ⟨i, mine, hmine, rfl, rfl⟩ | ⟨i, a, hmine, ha, hname, -, rfl⟩
  · -- a refreshed claim keeps its holder
    refine hs'.of_sublists ?_ (Sublist.refl _)
    have hkeep : claimHolders { prune s now with
        claims := (activeClaims s now).set i { mine with expiresAt := claimExpiresAt now } } =
          claimHolders (prune s now) := map_set_of_eq (locate_getElem? hmine) rfl
    rw [hkeep]
  · have hfree := (hslot.resolve_left (by simp [hmine])).2
    have hnone := claimOf_prune_none.1 hmine
    refine hs'.newClaim ?_ (notMem_claimHolders hnone) (notMem_openHolders hopen) ?_
    · rw [hname, lower_name_of_trimmed hagent ha]
    · rwa [otherClaims_prune hnone] at hfree

lemma slotsFit_requestDraft {topic : String} {from_ : Pitch} {r : Claim}
    (hagent : strip agent = agent) (hs : SlotsFit s)
    (h : requestDraft agent topic from_ now s = .ok (r, s')) : SlotsFit s' := by
  obtain ⟨hcheck, i, a, ha, hname, -, rfl⟩ := requestDraft_ok h
  obtain ⟨-, -, hopen, -, hslot⟩ := checkClaim_ok.1 hcheck
  have hs' : SlotsFit (prune s now) := hs.prune
  have hkey : lower a.name = lower agent := lower_name_of_trimmed hagent ha
  have hr : lower r.agent = lower a.name := by rw [hname]
  rcases hslot with ⟨j, mine, hmine, -⟩ | ⟨hmine, hfree⟩
  · exact hs'.replaceClaim hr (hkey ▸ mem_claimHolders_of_claimOf hmine)
  · have hnone := claimOf_prune_none.1 hmine
    have hkeep : (activeClaims s now).filter (fun c => lower c.agent ≠ lower a.name) =
        activeClaims s now := filter_eq_self.2 fun c hc => by simpa [hkey] using hnone c hc
    rw [hkeep]
    refine hs'.newClaim (hr.trans hkey) (notMem_claimHolders hnone) (notMem_openHolders hopen) ?_
    rwa [otherClaims_prune hnone] at hfree

lemma slotsFit_draftProposal {d : Draft} {r : DraftResult} (hagent : strip agent = agent)
    (hs : SlotsFit s) (h : draftProposal agent d now s = .ok (r, s')) : SlotsFit s' := by
  obtain ⟨v, hv, hok, i, a, claim, ha, hr, rfl⟩ := draftProposal_ok h
  obtain ⟨-, -, -, j, mine, hmine, -⟩ := checkDraft_ok hv hok
  have hs' : SlotsFit (prune s now) := hs.prune
  have hholds : lower a.name ∈ claimHolders (prune s now) := by
    rw [lower_name_of_trimmed hagent ha]
    exact mem_claimHolders_of_claimOf hmine
  have hwho : r.proposal.proposerAgent = a.name := by rw [hr]; rfl
  exact hs'.draft (congrArg lower hwho) hholds

lemma slotsFit_removeAgent {actor name : String} {caller : Option String} {r : Agent}
    (hs : SlotsFit s) (h : removeAgent actor name caller now s = .ok (r, s')) : SlotsFit s' := by
  obtain ⟨-, -, i, target, -, -, -, -, rfl⟩ := removeAgent_ok h
  refine hs.of_sublists (claimHolders_filter _) (filter_map_map_sublist _ (fun p => ?_) fun p => ?_)
  · rw [cancelDraftOf]
    split_ifs
    · simp [ProposalRecord.isOpen, openStatuses]
    · exact id
  · rw [cancelDraftOf]
    split_ifs <;> rfl

lemma proposerAgent_movedRecord (fund : Fund) (record : ProposalRecord) (status : Status)
    (note : StatusNote) :
    (movedRecord fund record status note now).proposerAgent = record.proposerAgent := by
  rw [movedRecord]
  split_ifs <;> rfl

lemma slotsFit_act {a : Act} {r : a.Reply} (ha : TrimmedAgent a) (hs : SlotsFit s)
    (h : a.mutate now s = .ok (r, s')) : SlotsFit s' := by
  cases a <;> dsimp only [Act.mutate] at h
  case requestMembership tid address username =>
    obtain ⟨i, m, members, -, -, rfl⟩ := requestMembership_ok h
    exact hs
  case approveMember actor who address tx caller =>
    obtain ⟨-, -, members, no, rfl⟩ := approveMember_ok h
    exact hs
  case requestAgent agent =>
    obtain ⟨-, -, ⟨i, old, -, -, -, rfl⟩ | ⟨i, old, -, -, -, -, rfl⟩ | ⟨-, -, rfl⟩⟩ :=
      requestAgent_ok h
    · exact hs
    · exact hs
    · exact hs
  case approveAgent actor name tx caller =>
    obtain ⟨-, -, i, target, -, -, -, -, -, rfl⟩ := approveAgent_ok h
    exact hs
  case removeAgent actor name caller => exact slotsFit_removeAgent hs h
  case claimTopic agent topic => exact slotsFit_claimTopic ha hs h
  case releaseClaim agent topic =>
    obtain ⟨keep, rfl⟩ := releaseClaim_ok h
    refine hs.of_sublists ?_ (Sublist.refl _)
    exact (filter_sublist.trans filter_sublist).map _
  case requestDraft agent topic from_ => exact slotsFit_requestDraft ha hs h
  case draftProposal agent d => exact slotsFit_draftProposal ha hs h
  case shipDraft pid caller =>
    obtain ⟨-, -, i, old, hfind, -, rfl, rfl⟩ := shipDraft_ok h
    exact hs.setProposal hfind id rfl
  case setProposalStatus actor pid status note =>
    obtain ⟨i, old, hfind, -, htrans, -, rfl, rfl⟩ := setProposalStatus_ok h
    exact hs.setProposal hfind (fun _ => isOpen_of_transition htrans)
      (proposerAgent_movedRecord _ _ _ _)
  case setChainState pid read =>
    obtain ⟨i, old, hfind, hr, rfl⟩ := setChainState_ok h
    exact hs.setProposal hfind (by rw [hr]; exact id) (by rw [hr]; rfl)
  case setCardMessage pid message =>
    obtain ⟨i, old, hfind, rfl, rfl⟩ := setCardMessage_ok h
    exact hs.setProposal hfind id rfl
  case recordVote pid voter side kind note =>
    obtain ⟨i, old, hfind, rfl, ⟨-, -, name, -, rfl⟩ | ⟨-, j, m, -, -, rfl⟩⟩ := recordVote_ok h
    · exact hs.setProposal hfind id rfl
    · have hopen := ProposalRecord.isOpen_congr (markedRecord_status old
        (if m.telegramId = "" then m.address else m.telegramId) (lower (strip side)) now)
      exact hs.setProposal hfind hopen.symm.trans (markedRecord_proposerAgent _ _ _ _)
  case recordSettle actor pid d =>
    obtain ⟨i, old, hfind, -, htrans, hr, -, rfl⟩ := recordSettle_ok h
    exact hs.setProposal hfind (fun _ => isOpen_of_transition htrans) (by rw [hr])

lemma preserves_slotsFit : Preserves TrimmedAgent SlotsFit where
  bump _ _ hs := hs
  reads _ _ := trivial
  act a ha now s r s' hs h := slotsFit_act ha hs h
  cardFund card s r s' hs h := by
    obtain ⟨period, veto, till, -, -, -, rfl⟩ := cardFund_ok h
    exact hs
  chainStatus pid status now s i r reply s' hs hfind htrans _ h := by
    obtain ⟨j, old, hfind', rfl, rfl⟩ := chainStatus_ok h
    obtain ⟨rfl, rfl⟩ : i = j ∧ r = old := by simpa [hfind] using hfind'
    exact hs.setProposal hfind (fun _ => isOpen_of_transition htrans) rfl

lemma slotsFit_createFund {fund : Fund} {host : Agent} {stamp : Time}
    (h : createFund fund host now stamp = .ok s) : SlotsFit s := by
  simp only [createFund, bind_eq_ok, pure_eq_ok] at h
  obtain ⟨-, -, name, -, rfl⟩ := h
  exact fits_nil

/-- What the slots come to at time `t`. -/
structure SlotRules (s : FundState) (t : Time) : Prop where
  open_le : s.openProposals.length ≤ 2
  /-- At most one open proposal per proposer. -/
  proposers : (s.openProposals.map fun p => lower p.proposerAgent).Nodup
  /-- At most one live claim per agent. -/
  claimants : ((activeClaims s t).map fun c => lower c.agent).Nodup
  claim_or_open : ∀ c ∈ activeClaims s t, ∀ p ∈ s.openProposals,
    lower c.agent ≠ lower p.proposerAgent
  total_le : s.openProposals.length + (activeClaims s t).length ≤ 2

lemma SlotsFit.slotRules (h : SlotsFit s) (t : Time) : SlotRules s t := by
  have hlive : Fits maxOpenPerFund
      (((activeClaims s t).map fun c => lower c.agent) ++ openHolders s) :=
    Fits.of_subperm h ((filter_sublist.map _).append (Sublist.refl _)).subperm
  obtain ⟨hclaims, hopen, hdisj⟩ := nodup_append.1 hlive.nodup
  have hlen : (activeClaims s t).length + s.openProposals.length ≤ 2 := by
    simpa [openHolders, maxOpenPerFund] using hlive.length_le
  exact
    { open_le := by omega
      proposers := hopen
      claimants := hclaims
      claim_or_open := fun c hc p hp =>
        hdisj _ (mem_map_of_mem hc) _ (mem_map_of_mem hp)
      total_le := by omega }

/-- Calls run to completion from a new fund, with agent names that carry no outer blanks, keep the
slots at every time. -/
theorem slotRules_of_run {fund : Fund} {host : Agent} {stamp : Time} {s₀ : FundState}
    (hcreate : createFund fund host now stamp = .ok s₀) {calls : List Call}
    (htrim : ∀ c ∈ calls, Call.Acts TrimmedAgent c) (t : Time) :
    SlotRules (runCalls calls s₀) t :=
  (preserves_slotsFit.calls htrim (slotsFit_createFund hcreate)).slotRules t


/-- The host claims a topic and drafts on it. -/
def sampleCalls : List Call :=
  [.act (.claimTopic "Iris" "TSLA momentum") ⟨1010, 1010⟩,
    .act (.draftProposal "iris" sampleDraft) ⟨1020, 1020⟩]

theorem slotRules_of_sample_run : SlotRules (runCalls sampleCalls sampleState) 1030 := by
  refine slotRules_of_run createFund_sample ?_ 1030
  simp only [sampleCalls, List.forall_mem_cons, Call.Acts, TrimmedAgent]
  exact ⟨by decide +kernel, by decide +kernel, by simp⟩

end SherwoodMonitor.OpenSlots
