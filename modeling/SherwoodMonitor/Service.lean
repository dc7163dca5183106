import SherwoodMonitor.TxBuilder

/-! The fund operations (`fund/service.py`): what each `backend.update` does to the state it holds
under the lock. `now` is the reading of the service's clock before the lock is taken. An operation
that raises writes nothing. -/
namespace SherwoodMonitor.Service
open PyText Lookup Models FundState Rules TxBuilder PyJson

def violation {α : Type} (code reason : String) : Except Exc α := .error (.rule code reason)

/-- `if …: raise RuleViolation(…)`. -/
def refuseIf (refused : Prop) [Decidable refused] (code reason : String) : Except Exc Unit :=
  if refused then violation code reason else .ok ()

@[simp] lemma refuseIf_eq_ok {refused : Prop} [Decidable refused] {code reason : String}
    {u : Unit} : refuseIf refused code reason = .ok u ↔ ¬refused := by
  by_cases h : refused <;> simp [refuseIf, violation, h]

lemma bind_eq_ok {α β : Type} {x : Except Exc α} {f : α → Except Exc β} {b : β} :
    x >>= f = .ok b ↔ ∃ a, x = .ok a ∧ f a = .ok b := by
  cases x <;> simp [bind, Except.bind]

/-- `t or now`, where a time of 0 counts as unset. -/
def orNow (t : Option Time) (now : Time) : Option Time :=
  match t with
  | some t => if t = 0 then some now else some t
  | none => some now

/-- When a cooldown that starts now ends. -/
def cooldownEnd (fund : Fund) (now : Time) : Time := now + (max 0 fund.cooldownPeriod : ℤ)

/-- `_start_cooldown`: no proposal for the cooldown period after a veto or a settle. -/
def startCooldown (fund : Fund) (now : Time) : Fund :=
  let till := cooldownEnd fund now
  match fund.cooldownUntil with
  | none => { fund with cooldownUntil := some till }
  | some old => if old < till then { fund with cooldownUntil := some till } else fund

/-- `_require_proposer_or_host`. -/
def requireProposerOrHost (state : FundState) (actor : String) (record : ProposalRecord) :
    Except Exc Unit :=
  if lower actor = lower record.proposerAgent then require (checkAgentCanAct state actor)
  else require (checkHostAction state actor)

/-- The record that a proposal id names, or the refusal. -/
def findProposal (state : FundState) (proposalId : String) :
    Except Exc (ℕ × ProposalRecord) := do
  match ← state.proposal proposalId with
  | some r => return r
  | none => violation "unknown_proposal" ("no proposal " ++ proposalId)

lemma findProposal_ok {state : FundState} {pid : String} {r : ℕ × ProposalRecord} :
    findProposal state pid = .ok r ↔ state.proposal pid = .ok (some r) := by
  rw [findProposal, bind_eq_ok]
  constructor
  · rintro ⟨o, ho, h⟩
    cases o with
    | none => simp [violation] at h
    | some r' =>
      obtain rfl : r' = r := by simpa [pure, Except.pure] using h
      exact ho
  · exact fun h => ⟨some r, h, rfl⟩

-- members

/-- The first of two lookups that answers. -/
def memberFor (state : FundState) (who address : String) : Option (ℕ × Member) :=
  (state.member who).or (if address = "" then none else state.member address)

/-- The member found, or a new one at the end of the list. -/
def slotFor (state : FundState) (found : Option (ℕ × Member)) (fresh : Member) :
    ℕ × Member × List Member :=
  match found with
  | some (i, m) => (i, m, state.members)
  | none => (state.members.length, fresh, state.members ++ [fresh])

def withAddress (m : Member) (address : String) : Member :=
  if address ≠ "" ∧ m.address = "" then { m with address } else m

def withUsername (m : Member) (username : String) : Member :=
  if username ≠ "" then { m with username } else m

def requestMembership (telegramId address username : String) (now : Time) (state : FundState) :
    Except Exc (Member × FundState) := do
  let (i, member, members) :=
    slotFor state (memberFor state telegramId address) { telegramId, joinedAt := now }
  refuseIf (address ≠ "" ∧ member.address = "" ∧ !isAddress address)
    "missing_address" "that is not a 0x wallet address"
  let member := withUsername (withAddress member address) username
  return (member, { state with members := members.set i member })

/-- The body of prepare/approve-depositor. -/
structure DepositorBody where
  chainId : ℤ
  vault : String
  depositor : String
  deriving DecidableEq

/-- The member to approve: the one found, or a new one for a wallet or for an id with a wallet. -/
def approvalSlot (state : FundState) (who address : String) (now : Time) :
    Option (ℕ × Member × List Member) :=
  match memberFor state who address with
  | some (i, m) => some (i, m, state.members)
  | none =>
      if isAddress who then
        some (slotFor state none { telegramId := "", address := who, joinedAt := now })
      else if address ≠ "" then
        some (slotFor state none { telegramId := who, address, joinedAt := now })
      else none

def approvedMember (m : Member) (no : ℤ) (txHash : String) (now : Time) : Member :=
  { m with
    approved := true
    approvedAt := some now
    approveTx := if txHash = "" then m.approveTx else txHash
    memberNo := some no }

def approveMember (actor who address txHash : String) (callerTelegramId : Option String)
    (now : Time) (state : FundState) : Except Exc ((Member × DepositorBody) × FundState) := do
  require (checkCallerIsHost state callerTelegramId)
  let slot := (approvalSlot state who address now).map fun t =>
    (t.1, withAddress t.2.1 address, t.2.2)
  require (checkApproveMember state actor (slot.map (·.2.1)))
  match slot with
  | none => throw (.raised .assertion "")
  | some (i, m, members) =>
      let member := approvedMember m state.nextMemberNo txHash now
      return ((member, ⟨state.fund.chainId, state.fund.vault, member.address⟩),
        { state with
          members := members.set i member
          nextMemberNo := state.nextMemberNo + 1 })

-- agents

/-- The record of an agent that joins anew. -/
def joinedAgent (agent : Agent) (now : Time) : Agent :=
  { agent with
    role := "guest"
    approved := false
    registered := false
    removed := false
    requestedAt := now
    approvedAt := none
    registeredAt := none
    removedAt := none }

/-- A repeated request overwrites the identity and the wallet of the waiting record. -/
def rejoinedAgent (existing agent : Agent) : Agent :=
  { existing with
    identityId := agent.identityId
    address := agent.address
    ownerTelegramId :=
      if agent.ownerTelegramId = "" then existing.ownerTelegramId else agent.ownerTelegramId }

/-- The wallet of a join request belongs to no other active agent. -/
def requireFreeAddress (state : FundState) (agent : Agent) : Except Exc Unit :=
  match state.agentByAddress agent.address with
  | some (_, other) =>
      refuseIf (lower other.name ≠ lower agent.name ∧ !other.removed) "address_taken"
        ("wallet " ++ agent.address ++ " already belongs to " ++ other.name)
  | none => .ok ()

/-- A guest agent asks to co-manage. -/
def requestAgent (agent : Agent) (now : Time) (state : FundState) :
    Except Exc (Agent × FundState) := do
  refuseIf (agent.identityId = "" ∨ !isAddress agent.address) "missing_identity"
    "joining needs an ERC-8004 identity id and a 0x wallet address"
  requireFreeAddress state agent
  match state.agent agent.name with
  | some (i, existing) =>
      if existing.removed then
        -- removed agents may ask again
        return (joinedAgent agent now,
          { state with agents := state.agents.erase existing ++ [joinedAgent agent now] })
      else do
        refuseIf existing.registered "already_registered"
          (existing.name ++ " is already a co-manager")
        return (rejoinedAgent existing agent,
          { state with agents := state.agents.set i (rejoinedAgent existing agent) })
  | none =>
      return (joinedAgent agent now,
        { state with agents := state.agents ++ [joinedAgent agent now] })

/-- The body of prepare/register-agent. -/
structure RegisterBody where
  chainId : ℤ
  vault : String
  agentAddress : String
  agentId : String
  deriving DecidableEq

def registerBody (fund : Fund) (agent : Agent) : RegisterBody :=
  ⟨fund.chainId, fund.vault, agent.address, agent.identityId⟩

/-- An agent by name, else by wallet. -/
def targetAgent (state : FundState) (name : String) : Option (ℕ × Agent) :=
  (state.agent name).or (state.agentByAddress name)

/-- What an approval writes: with a `txHash` it marks the agent registered. -/
def approvedAgent (target : Agent) (txHash : String) (now : Time) : Agent :=
  let target := { target with approved := true, approvedAt := orNow target.approvedAt now }
  if txHash = "" then target
  else { target with registered := true, registeredAt := some now, registerTx := txHash }

/-- Without a `txHash` this returns the register-agent body to sign. -/
def approveAgent (actor name txHash : String) (callerTelegramId : Option String) (now : Time)
    (state : FundState) : Except Exc ((Agent × RegisterBody) × FundState) := do
  require (checkCallerIsHost state callerTelegramId)
  require (checkApproveAgent state actor ((targetAgent state name).map (·.2)))
  match targetAgent state name with
  | none => throw (.raised .assertion "")
  | some (i, target) =>
      refuseIf target.registered "already_registered"
        (target.name ++ " is already registered")
      let target := approvedAgent target txHash now
      return ((target, registerBody state.fund target),
        { state with agents := state.agents.set i target })

def cancelDraftOf (key : String) (now : Time) (p : ProposalRecord) : ProposalRecord :=
  if lower p.proposerAgent = key ∧ p.status = .draft then
    { p with status := .cancelled, updatedAt := now }
  else p

/-- Mark an agent removed, drop its claims and cancel its unproposed drafts. -/
def removeAgent (actor name : String) (callerTelegramId : Option String) (now : Time)
    (state : FundState) : Except Exc (Agent × FundState) := do
  require (checkCallerIsHost state callerTelegramId)
  require (checkRemoveAgent state actor ((targetAgent state name).map (·.2)))
  match targetAgent state name with
  | none => throw (.raised .assertion "")
  | some (i, target) =>
      let target := { target with removed := true, removedAt := some now }
      let key := lower target.name
      return (target, { state with
        agents := state.agents.set i target
        claims := state.claims.filter fun c => lower c.agent ≠ key
        proposals := state.proposals.map (cancelDraftOf key now) })

-- coordination

def prune (state : FundState) (now : Time) : FundState :=
  { state with claims := activeClaims state now }

/-- The stored spelling of an acting agent's name. -/
def agentNamed (state : FundState) (agent : String) : Except Exc Agent :=
  match state.agent agent with
  | some (_, a) => .ok a
  | none => .error (.raised .attribute "'NoneType' object has no attribute 'name'")

def claimTopic (agent topic : String) (now : Time) (state : FundState) :
    Except Exc (Claim × FundState) := do
  let state := prune state now
  require (checkClaim state agent topic now)
  match claimOf state agent now with
  | some (i, mine) =>
      -- same topic: refresh
      let mine := { mine with expiresAt := claimExpiresAt now }
      return (mine, { state with claims := state.claims.set i mine })
  | none => do
      let holder ← agentNamed state agent
      let claim : Claim :=
        { agent := holder.name, topic := strip topic, expiresAt := claimExpiresAt now,
          createdAt := now }
      return (claim, { state with claims := state.claims ++ [claim] })

def releaseClaim (agent : String) (topic : Option String) (now : Time) (state : FundState) :
    Except Exc (ℕ × FundState) :=
  let want := match topic with
    | some t => if t = "" then none else some (normalizeTopic t)
    | none => none
  let drops := fun c : Claim => decide (lower c.agent = lower agent) &&
    want.all fun w => normalizeTopic c.topic = w
  let live := activeClaims state now
  .ok ((live.filter drops).length, { state with claims := live.filter (!drops ·) })

/-- Who pitched, what, and where. -/
structure Pitch where
  ideaBy : String
  pitch : String
  chatId : String
  sourceMessageId : Option ℤ

/-- A chat pitch earned its draft: the pitch's topic is claimed for `agent`. `topic` is the one
the caller passed or, when that is empty, the one read off the pitch, stripped. -/
def requestDraft (agent topic : String) (from_ : Pitch) (now : Time) (state : FundState) :
    Except Exc (Claim × FundState) := do
  let topic := strip topic
  let state := prune state now
  require (checkClaim state agent topic now)
  let proposer ← agentNamed state agent
  let claim : Claim :=
    { agent := proposer.name, topic, expiresAt := claimExpiresAt now, createdAt := now,
      ideaBy := from_.ideaBy, pitch := take (strip from_.pitch) 1000, chatId := from_.chatId,
      sourceMessageId := from_.sourceMessageId }
  return (claim, { state with
    claims := state.claims.filter (fun c => lower c.agent ≠ lower proposer.name) ++ [claim] })

structure BondSection where
  bondValueAssetUnits : ℤ
  asset : String
  plan : Option BondPlan
  missing : Option String
  steps : List String

/-- `_bond_section`: the bond that a draft needs, and the steps to fund it. -/
def bondSection (state : FundState) (agent : Agent) (maxCapital : ℤ)
    (quote balance : Option ℤ) : BondSection :=
  let value := requiredBondValue maxCapital agent.bondPolicy
  match quote with
  | none => ⟨value, state.fund.asset, none,
      some "bond_quote_wood: quote the WOOD bond for this coverage, then draft again", []⟩
  | some quote =>
      let plan := planBond quote (balance.getD 0) agent.bondPolicy
      let fund := if balance.isNone then
          ["read your WOOD balance; if it is below approve_wood, swap the gap first"]
        else if plan.swapFirst then
          ["swap " ++ agent.bondPolicy.swapGapFrom ++ " -> WOOD for " ++ toString plan.gap ++
            " WOOD base units (first leg)"]
        else []
      let governor := if state.fund.governor = "" then "<governor>" else state.fund.governor
      ⟨value, state.fund.asset, some plan, none, fund ++
        ["approve exactly " ++ toString plan.approveAmount ++
          " WOOD base units to the bond escrow of governor " ++ governor ++
          " (governor.bondEscrow())",
        "propose (prepare/propose), then fund_set_proposal_status proposed with the on-chain id"]⟩

/-- The arguments of `draft_proposal`. -/
structure Draft where
  topic : String
  thesis : String
  legs : List Leg
  maxCapital : ℤ
  maxDrawdownBps : ℤ
  strategyDuration : ℤ
  bondQuoteWood : Option ℤ := none
  woodBalance : Option ℤ := none
  ideaBy : String := ""
  strategy : String := ""
  metadataUri : String := ""
  quoteUsdPerWood : String := ""
  bondBufferStatus : String := ""
  bondBufferNote : String := ""

structure DraftResult where
  proposal : ProposalRecord
  prepare : Prepare
  bond : BondSection

def draftRecord (state : FundState) (proposer : Agent) (claim : Option Claim) (d : Draft)
    (now : Time) : ProposalRecord :=
  { id := "p-" ++ toString state.nextProposalSeq
    proposerAgent := proposer.name
    thesis := strip d.thesis
    legs := d.legs
    maxCapital := toString d.maxCapital
    maxDrawdownBps := d.maxDrawdownBps
    bondWood := toString (d.bondQuoteWood.getD 0)
    governor := state.fund.governor
    topic := strip d.topic
    strategyDuration := d.strategyDuration
    ideaBy := if d.ideaBy = "" then (claim.map (·.ideaBy)).getD "" else d.ideaBy
    pitchMessageId := claim.bind (·.sourceMessageId)
    quoteUsdPerWood := d.quoteUsdPerWood
    bondBufferStatus := take d.bondBufferStatus 32
    bondBufferNote := take d.bondBufferNote 200
    createdAt := now
    updatedAt := now }

/-- Check every rule, record the draft, consume the claim and return the prepare payload. -/
def draftProposal (agent : String) (d : Draft) (now : Time) (state : FundState) :
    Except Exc (DraftResult × FundState) := do
  refuseIf (strip d.thesis = "") "no_thesis" "a proposal needs a thesis"
  let state := prune state now
  let v ← checkDraft state agent d.topic d.maxCapital d.maxDrawdownBps d.legs now
  require v
  let proposer ← agentNamed state agent
  let record := draftRecord state proposer ((claimOf state agent now).map (·.2)) d now
  let prepare := if isPortfolio record then
      portfolioPayload state.fund record proposer.address d.metadataUri
    else proposePayload state.fund record d.strategy d.metadataUri
  let bond := bondSection state proposer d.maxCapital d.bondQuoteWood d.woodBalance
  return (⟨record, prepare, bond⟩, { state with
    nextProposalSeq := state.nextProposalSeq + 1
    proposals := state.proposals ++ [record]
    claims := state.claims.filter fun c => lower c.agent ≠ lower proposer.name })

/-- Write back the record at position `i`. -/
def setProposal (state : FundState) (i : ℕ) (record : ProposalRecord) : FundState :=
  { state with proposals := state.proposals.set i record }

/-- The capital of a draft that has legs. -/
def draftCapital (record : ProposalRecord) : Except Exc ℤ :=
  if record.legs.isEmpty then .ok 0
  else pyInt (if record.maxCapital = "" then "0" else record.maxCapital)

def shippedRecord (record : ProposalRecord) (callerTelegramId : Option String) (now : Time) :
    ProposalRecord :=
  { record with
    shippedAt := some now, shippedBy := callerTelegramId.getD "", updatedAt := now }

/-- The host's go-ahead to propose a draft on-chain. -/
def shipDraft (proposalId : String) (callerTelegramId : Option String) (now : Time)
    (state : FundState) : Except Exc (ProposalRecord × FundState) := do
  require (checkCallerIsHost state callerTelegramId)
  let (i, record) ← findProposal state proposalId
  refuseIf (record.status ≠ .draft) "not_draft"
    ("proposal " ++ record.id ++ " is " ++ record.status.text ++ ", not a draft")
  let capital ← draftCapital record
  refuseIf (capital ≤ 0) "draft_not_ready"
    (record.proposerAgent ++ " is still building " ++ record.id)
  require (checkCooldown state now)
  let record := shippedRecord record callerTelegramId now
  return (record, setProposal state i record)

/-- The optional arguments of `set_proposal_status`. -/
structure StatusNote where
  onchainId : Option ℤ := none
  txHash : String := ""
  cardMessageId : String := ""

/-- The record that `set_proposal_status` writes. -/
def movedRecord (fund : Fund) (record : ProposalRecord) (status : Status) (note : StatusNote)
    (now : Time) : ProposalRecord :=
  let record := { record with
    status
    updatedAt := now
    onchainId := note.onchainId.or record.onchainId }
  let record := if status = .proposed then
      { record with
        proposeTx := if note.txHash = "" then record.proposeTx else note.txHash
        votingEndsAt := some (now + fund.votingPeriod) }
    else record
  let record := if status = .review ∧ record.reviewEndsAt = none then
      { record with reviewEndsAt := some (now + fund.votingPeriod) }
    else record
  if note.cardMessageId = "" then record else { record with cardMessageId := note.cardMessageId }

/-- Move a proposal along its lifecycle; proposer or host only. The reply is the record and the
status it had. -/
def setProposalStatus (actor proposalId status : String) (note : StatusNote) (now : Time)
    (state : FundState) : Except Exc ((ProposalRecord × Status) × FundState) := do
  let status := Status.ofText status
  let (i, record) ← findProposal state proposalId
  requireProposerOrHost state actor record
  require (checkTransition record.status status)
  require (if record.status = .draft ∧ status = .proposed then checkCooldown state now else allow)
  let moved := movedRecord state.fund record status note now
  let fund := if status = .vetoed then startCooldown state.fund now else state.fund
  return ((moved, record.status), { setProposal state i moved with fund })

/-- What a chain read says about one proposal; `none` where it does not say. -/
structure ChainRead where
  againstBps : Option ℤ := none
  votingEndsAt : Option Time := none
  reviewEndsAt : Option Time := none
  guardianCoverage : Option String := none

def readRecord (record : ProposalRecord) (read : ChainRead) : ProposalRecord :=
  { record with
    againstBps := (read.againstBps.map (max 0)).getD record.againstBps
    votingEndsAt := read.votingEndsAt.or record.votingEndsAt
    reviewEndsAt := read.reviewEndsAt.or record.reviewEndsAt
    guardianCoverage := read.guardianCoverage.getD record.guardianCoverage }

/-- Store what a chain read says. The reply tells whether it changed anything. -/
def setChainState (proposalId : String) (read : ChainRead) (now : Time) (state : FundState) :
    Except Exc ((ProposalRecord × Bool) × FundState) := do
  let (i, record) ← findProposal state proposalId
  let written := { readRecord record read with chainSyncedAt := some now }
  return ((written, readRecord record read ≠ record), setProposal state i written)

/-- `_chain_status`: move a proposal to what the chain says, with no check. -/
def chainStatus (proposalId : String) (status : Status) (now : Time) (state : FundState) :
    Except Exc ((ProposalRecord × Status) × FundState) := do
  match ← state.proposal proposalId with
  | none => throw (.raised .assertion "")
  | some (i, record) =>
      let moved := { record with status, updatedAt := now }
      let fund := if status = .vetoed then startCooldown state.fund now else state.fund
      return ((moved, record.status), { setProposal state i moved with fund })

def setCardMessage (proposalId cardMessageId : String) (state : FundState) :
    Except Exc (ProposalRecord × FundState) := do
  let (i, record) ← findProposal state proposalId
  let record := { record with cardMessageId }
  return (record, setProposal state i record)

/-- An agent's review replaces its earlier one. -/
def reviewedRecord (record : ProposalRecord) (name side note : String) (now : Time) :
    ProposalRecord :=
  { record with
    reviews := record.reviews.filter (fun r => lower r.agent ≠ lower name) ++
      [{ agent := name, verdict := side, note, at_ := now }]
    updatedAt := now }

/-- A member's back or object replaces that member's earlier mark. -/
def markedRecord (record : ProposalRecord) (tid side : String) (now : Time) : ProposalRecord :=
  let backers := record.backers.filter (· ≠ tid)
  let objectors := record.objectors.filter (· ≠ tid)
  { record with
    backers := if side = "back" then backers ++ [tid] else backers
    objectors := if side = "object" then objectors ++ [tid] else objectors
    updatedAt := now }

@[simp] lemma markedRecord_status (record : ProposalRecord) (tid side : String) (now : Time) :
    (markedRecord record tid side now).status = record.status := rfl

@[simp] lemma markedRecord_proposerAgent (record : ProposalRecord) (tid side : String)
    (now : Time) : (markedRecord record tid side now).proposerAgent = record.proposerAgent := rfl

/-- A member backs or objects, or an agent reviews another agent's proposal. -/
def recordVote (proposalId voter side voterKind note : String) (now : Time)
    (state : FundState) : Except Exc (ProposalRecord × FundState) := do
  let side := lower (strip side)
  refuseIf (side ∉ ["back", "object", "clear"]) "bad_side" "side must be back, object or clear"
  refuseIf (side = "clear" ∧ voterKind = "agent") "bad_side" "agents review with back or object"
  let found ← state.proposal proposalId
  if voterKind = "agent" then
    require (checkReview state voter (found.map (·.2)))
    match found with
    | none => throw (.raised .assertion "")
    | some (i, record) =>
        let name := ((state.agent voter).map (·.2.name)).getD voter
        let record := reviewedRecord record name side note now
        return (record, setProposal state i record)
  else
    let member := (state.member voter).map (·.2)
    require (checkMemberVote member (found.map (·.2)) now)
    match found, member with
    | some (i, record), some member =>
        let tid := if member.telegramId = "" then member.address else member.telegramId
        let record := markedRecord record tid side now
        return (record, setProposal state i record)
    | _, _ => throw (.raised .assertion "")

structure Settle where
  pnl : ℤ
  pnlBps : ℤ := 0
  txHash : String := ""

def settleReceipt (fund : Fund) (record : ProposalRecord) (s : Settle) (now : Time) :
    SettleReceipt :=
  { proposalId := record.id, agent := record.proposerAgent, asset := fund.asset,
    pnl := toString s.pnl, pnlBps := s.pnlBps, txHash := s.txHash,
    onchainId := record.onchainId, ideaBy := record.ideaBy, thesis := record.thesis,
    settledAt := now }

def recordSettle (actor proposalId : String) (s : Settle) (now : Time) (state : FundState) :
    Except Exc ((SettleReceipt × ProposalRecord) × FundState) := do
  let (i, record) ← findProposal state proposalId
  requireProposerOrHost state actor record
  require (checkTransition record.status .settled)
  let moved := { record with status := .settled, updatedAt := now }
  let receipt := settleReceipt state.fund moved s now
  return ((receipt, moved), { setProposal state i moved with
    fund := startCooldown state.fund now
    receipts := state.receipts ++ [receipt] })

-- host setup

def isFundNameChar (c : Char) : Bool :=
  (97 ≤ c.toNat && c.toNat ≤ 122) || (48 ≤ c.toNat && c.toNat ≤ 57)

/-- `validate_fund_name` of the store: `^[a-z0-9][a-z0-9-]{0,62}$`. -/
def validateFundName (name : String) : Except Exc String :=
  let clean := lower (strip name)
  match clean.toList with
  | c :: l =>
      if isFundNameChar c ∧ l.length ≤ 62 ∧ l.all (fun d => isFundNameChar d || d = '-') then
        .ok clean
      else .error (.raised .store ("invalid fund name " ++ reprText name ++
        ": use lowercase letters, digits and dashes (max 63)"))
  | [] => .error (.raised .store ("invalid fund name " ++ reprText name ++
      ": use lowercase letters, digits and dashes (max 63)"))

def orTime (t now : Time) : Time := if t = 0 then now else t

/-- The state that `create_fund` stores; `stamp` is the backend's own clock. -/
def createFund (fund : Fund) (hostAgent : Agent) (now stamp : Time) : Except Exc FundState := do
  require (checkAgentFee fund.agentFeeBps)
  let name ← validateFundName fund.name
  return {
    fund := { fund with name, createdAt := orTime fund.createdAt now }
    agents := [{ hostAgent with
      role := "host"
      approved := true
      registered := true
      requestedAt := orTime hostAgent.requestedAt now
      approvedAt := orNow hostAgent.approvedAt now
      registeredAt := orNow hostAgent.registeredAt now }]
    revision := 1
    updatedAt := stamp }

-- a fund to run the operations on

def sampleFund : Fund :=
  { name := "alpha", vault := "0x00000000000000000000000000000000000000f1",
    governor := "0x00000000000000000000000000000000000000f2", host := "Iris",
    hostTelegramId := "100", agentFeeBps := some 500 }

def sampleHost : Agent :=
  { name := "Iris", identityId := "7", address := "0x00000000000000000000000000000000000000a1" }

def sampleGuest : Agent :=
  { name := "Beta", identityId := "8", address := "0x00000000000000000000000000000000000000b2" }

/-- The sample fund just created, at time 1000. -/
def sampleState : FundState :=
  { fund := { sampleFund with createdAt := 1000 }
    agents := [{ sampleHost with
      role := "host", approved := true, registered := true, requestedAt := 1000,
      approvedAt := some 1000, registeredAt := some 1000 }]
    revision := 1
    updatedAt := 1000 }

def sampleDraft : Draft :=
  { topic := "TSLA momentum", thesis := "up", legs := [{ summary := "buy TSLA" }], maxCapital := 5,
    maxDrawdownBps := 100, strategyDuration := 3600 }

lemma createFund_sample : createFund sampleFund sampleHost 1000 1000 = .ok sampleState := by
  decide +kernel

end SherwoodMonitor.Service
