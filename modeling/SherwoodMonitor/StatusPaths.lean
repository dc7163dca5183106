import SherwoodMonitor.StatusMoves

/-! Statuses under interleaving: any number of processes run operations of the service on one
fund, each update being one atomic step. -/
namespace SherwoodMonitor.StatusPaths
open Models FundState Rules Service Calls Effects AtomicStore StatusMoves

variable {s s' : FundState} {i : ℕ}

/-- Each proposal keeps its status or takes a step of `transitions`. -/
def LegalMove (s s' : FundState) : Prop :=
  ∀ i old, statusAt s i = some old →
    ∃ new, statusAt s' i = some new ∧ (new = old ∨ new ∈ transitions old)

lemma LegalMove.refl (s : FundState) : LegalMove s s := fun _ old h => ⟨old, h, Or.inl rfl⟩

/-- A vetoed, settled or cancelled proposal stays so. -/
def TerminalStays (s s' : FundState) : Prop :=
  ∀ i, ∀ status ∈ terminalStatuses, statusAt s i = some status → statusAt s' i = some status

instance : Trans TerminalStays TerminalStays TerminalStays where
  trans h h' i status hterm hs := h' i status hterm (h i status hterm hs)

lemma transitions_of_terminal {status : Status} (h : status ∈ terminalStatuses) :
    transitions status = [] := by
  simp only [terminalStatuses, List.mem_cons, List.not_mem_nil, or_false] at h
  rcases h with rfl | rfl | rfl <;> rfl

lemma LegalMove.terminalStays (h : LegalMove s s') : TerminalStays s s' := by
  intro i status hterm hs
  obtain ⟨new, hnew, hstep⟩ := h i status hs
  rw [transitions_of_terminal hterm] at hstep
  have hsame : new = status := hstep.resolve_right List.not_mem_nil
  rw [hnew, hsame]

/-- The statuses of the stored states of a run: each proposal's are a path of `transitions`, and
one that has ended never changes again. -/
structure LawfulHistory (history : List FundState) : Prop where
  path : history.IsChain LegalMove
  terminal : history.Pairwise TerminalStays

lemma lawfulHistory_iff {history : List FundState} :
    LawfulHistory history ↔ history.IsChain LegalMove := by
  refine ⟨LawfulHistory.path, fun h => ⟨h, ?_⟩⟩
  have hstays : history.IsChain TerminalStays := h.imp fun _ _ => LegalMove.terminalStays
  exact List.isChain_iff_pairwise.1 hstays

/-- A status write of a chain read finds the proposal where it may still move to that status. -/
def ChainStepLegal (s : FundState) (op : Op) : Prop :=
  ∀ pid status, op.update = .chainStatus pid status → ∀ i r,
    s.proposal pid = .ok (some (i, r)) → status = r.status ∨ status ∈ transitions r.status

lemma statusMove_legal {op : Op} {r : ProposalRecord} {new : Status} (hlegal : ChainStepLegal s op)
    (h : StatusMove s i r op.update new) : new = r.status ∨ new ∈ transitions r.status := by
  cases hu : op.update with
  | act a =>
    rw [hu] at h
    cases h with
    | kept => exact Or.inl rfl
    | set actor pid status note hfind htrans => exact Or.inr htrans
    | settled actor pid d hfind htrans => exact Or.inr htrans
    | cancelled actor name caller hdraft =>
      rw [hdraft]
      exact Or.inr (by decide)
  | cardFund card =>
    rw [hu] at h
    cases h with
    | kept => exact Or.inl rfl
  | chainStatus pid status =>
    rw [hu] at h
    cases h with
    | kept => exact Or.inl rfl
    | chain pid status hfind => exact hlegal _ _ hu i r hfind

/-- A status write of a chain read moves the proposal it finds, whatever its status. -/
lemma statusAt_next_chainStatus {pid : String} {status : Status} {clock : Clock}
    {r : ProposalRecord} (hfind : s.proposal pid = .ok (some (i, r))) :
    statusAt (fundStore.next ⟨.chainStatus pid status, clock⟩ s) i = some status := by
  have hlt : i < s.proposals.length :=
    (List.getElem?_eq_some_iff.1 (proposal_getElem? hfind)).1
  have hexec := chainStatus_of_found status clock.now hfind
  rw [Interface.next_of_ok (Op.exec_of_ok ⟨.chainStatus pid status, clock⟩ hexec)]
  simp [statusAt, bump, setProposal, hlt]

/-- An update moves every proposal legally just when its chain write does. -/
lemma legalMove_next_iff (s : FundState) (op : Op) :
    LegalMove s (fundStore.next op s) ↔ ChainStepLegal s op := by
  constructor
  · intro h pid status hu i r hfind
    have hr : statusAt s i = some r.status := statusAt_eq_some.2 ⟨r, proposal_getElem? hfind, rfl⟩
    obtain ⟨new, hnew, hstep⟩ := h i r.status hr
    obtain ⟨update, clock⟩ := op
    obtain rfl : update = .chainStatus pid status := hu
    rw [statusAt_next_chainStatus hfind] at hnew
    obtain rfl : status = new := Option.some.inj hnew
    exact hstep
  · intro hlegal i old hold
    obtain ⟨r, hr, rfl⟩ := statusAt_eq_some.1 hold
    rcases fundStore.next_cases op s with hnext | ⟨reply, hexec⟩
    · exact ⟨r.status, by rw [hnext, hold], Or.inl rfl⟩
    · obtain ⟨r', hr', -, hmove⟩ := movedBy_exec hexec hr
      exact ⟨r'.status, statusAt_eq_some.2 ⟨r', hr', rfl⟩, statusMove_legal hlegal hmove⟩

/-- In a run of any number of processes the statuses follow `transitions` exactly when every
status write of a chain read is still legal at the moment it is made. -/
theorem lawfulHistory_iff_chainStepLegal (s₀ : FundState) (moves : List (Move Call)) :
    LawfulHistory (Pool.history Call.prog ⟨s₀, []⟩ moves) ↔
      Pool.Upholds Call.prog ChainStepLegal ⟨s₀, []⟩ moves := by
  rw [lawfulHistory_iff, Pool.isChain_history Call.prog LegalMove.refl]
  exact Pool.Upholds.iff Call.prog legalMove_next_iff _ moves

-- a card's write after another process has cancelled the proposal

/-- The chain has rejected proposal 12. -/
def rejectedCard : PyJson.Json :=
  .obj [("proposals", .obj [("open", .arr [.obj [("id", .int 12), ("state", .str "Rejected")]])])]

/-- One process applies the card up to its check of the status, another cancels the proposal, and
the first one writes. -/
def lateWrite : List (Move Call) :=
  [.begin (.applyChainCard rejectedCard fun _ => ⟨1050, 1050⟩), .go 0, .go 0, .go 0,
    .begin (.act (.setProposalStatus "Iris" "p-1" "cancelled" {}) ⟨1050, 1050⟩), .go 1, .go 0]

/-- The cancelled proposal becomes vetoed. -/
theorem not_lawfulHistory_of_late_write :
    ¬LawfulHistory (Pool.history Call.prog ⟨CallRuns.votingState, []⟩ lateWrite) := by
  intro h
  have hstays := List.pairwise_iff_getElem.1 h.terminal 6 7 (by decide +kernel)
    (by decide +kernel) (by decide)
  have hkept := hstays 0 .cancelled (by decide) (by decide +kernel)
  exact absurd hkept (by decide +kernel)

end SherwoodMonitor.StatusPaths
