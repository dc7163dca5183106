import SherwoodMonitor.Library.Lookup
import SherwoodMonitor.Library.PyText

/-! The typed records of a group-chat fund (`fund/models.py`): what one state file holds.
Amounts are decimal strings of base units; a time is a finite number of seconds. -/
namespace SherwoodMonitor.Models
open PyText Lookup

abbrev Time := ℚ

def chainIdRobinhood : ℤ := 4663
def defaultVotingPeriodSeconds : ℤ := 1800
def defaultVetoThresholdBps : ℤ := 2000
def defaultCooldownSeconds : ℤ := 3600
def maxAgentFeeBps : ℤ := 1500
def proposableAssets : List String := ["USDG"]
def claimTtlSeconds : Time := 600
def maxOpenPerFund : ℕ := 2
def maxOpenPerAgent : ℕ := 1

/-- The texts of `PROPOSAL_STATUSES`. -/
def proposalStatuses : List String :=
  ["draft", "proposed", "voting", "passed", "review", "approved", "vetoed", "executed", "settled",
   "cancelled"]

/-- A proposal's lifecycle status. A record read from a file may hold any other text. -/
inductive Status
  | draft | proposed | voting | passed | review | approved | vetoed | executed | settled | cancelled
  | unknown (text : String) (h : text ∉ proposalStatuses)
  deriving DecidableEq

namespace Status

def ofText (text : String) : Status :=
  if h : text ∉ proposalStatuses then unknown text h
  else if text = "draft" then draft
  else if text = "proposed" then proposed
  else if text = "voting" then voting
  else if text = "passed" then passed
  else if text = "review" then review
  else if text = "approved" then approved
  else if text = "vetoed" then vetoed
  else if text = "executed" then executed
  else if text = "settled" then settled
  else cancelled

def text : Status → String
  | draft => "draft" | proposed => "proposed" | voting => "voting" | passed => "passed"
  | review => "review" | approved => "approved" | vetoed => "vetoed" | executed => "executed"
  | settled => "settled" | cancelled => "cancelled"
  | unknown text _ => text

lemma text_ofText (t : String) : (ofText t).text = t := by
  by_cases h : t ∈ proposalStatuses
  · simp only [proposalStatuses, List.mem_cons, List.not_mem_nil, or_false] at h
    rcases h with rfl | rfl | rfl | rfl | rfl | rfl | rfl | rfl | rfl | rfl <;> decide
  · simp [ofText, h, text]

lemma ofText_text (s : Status) : ofText s.text = s := by
  cases s with
  | unknown t h => simp [ofText, text, h]
  | _ => decide

end Status

/-- `OPEN_STATUSES`: a draft already holds its agent's slot and one of the fund's. -/
def openStatuses : List Status :=
  [.draft, .proposed, .voting, .passed, .review, .approved, .executed]

def terminalStatuses : List Status := [.vetoed, .settled, .cancelled]

structure Fund where
  name : String
  vault : String := ""
  governor : String := ""
  chainId : ℤ := chainIdRobinhood
  asset : String := "USDG"
  host : String := ""
  hostTelegramId : String := ""
  telegramChatId : String := ""
  votingPeriod : ℤ := defaultVotingPeriodSeconds
  vetoThresholdBps : ℤ := defaultVetoThresholdBps
  mode : String := "host"
  maxCapital : Option String := none
  maxDrawdownBps : Option ℤ := none
  agentFeeBps : Option ℤ := none
  cooldownPeriod : ℤ := defaultCooldownSeconds
  cooldownUntil : Option Time := none
  createdAt : Time := 0
  deriving DecidableEq

structure Member where
  telegramId : String
  address : String := ""
  approved : Bool := false
  joinedAt : Time := 0
  memberNo : Option ℤ := none
  depositNo : Option ℤ := none
  approvedAt : Option Time := none
  approveTx : String := ""
  username : String := ""
  deriving DecidableEq

structure BondPolicy where
  bondBps : ℤ := 100
  approveBufferBps : ℤ := 500
  requoteDriftBps : ℤ := 500
  swapGapFrom : String := "USDG"
  deriving DecidableEq

structure Agent where
  name : String
  identityId : String := ""
  address : String := ""
  role : String := "guest"
  approved : Bool := false
  registered : Bool := false
  bondPolicy : BondPolicy := {}
  ownerTelegramId : String := ""
  requestedAt : Time := 0
  approvedAt : Option Time := none
  registeredAt : Option Time := none
  registerTx : String := ""
  removed : Bool := false
  removedAt : Option Time := none
  deriving DecidableEq

def Agent.active (a : Agent) : Bool := a.registered && !a.removed

structure Claim where
  agent : String
  topic : String
  expiresAt : Time
  createdAt : Time := 0
  ideaBy : String := ""
  pitch : String := ""
  chatId : String := ""
  sourceMessageId : Option ℤ := none
  deriving DecidableEq

structure Leg where
  summary : String
  kind : String := "call"
  phase : String := "execute"
  target : String := ""
  data : String := ""
  value : String := "0"
  cap : String := "0"
  amount : String := ""
  symbol : String := ""
  weightBps : ℤ := 0
  deriving DecidableEq

def Leg.hasCall (leg : Leg) : Bool := leg.target ≠ "" && leg.data ≠ ""

structure Review where
  agent : String
  verdict : String
  note : String := ""
  at_ : Time := 0
  deriving DecidableEq

structure ProposalRecord where
  id : String
  proposerAgent : String
  thesis : String
  legs : List Leg := []
  maxCapital : String := "0"
  maxDrawdownBps : ℤ := 0
  bondWood : String := "0"
  status : Status := .draft
  governor : String := ""
  topic : String := ""
  onchainId : Option ℤ := none
  proposeTx : String := ""
  strategyDuration : ℤ := 0
  backers : List String := []
  objectors : List String := []
  reviews : List Review := []
  ideaBy : String := ""
  cardMessageId : String := ""
  votingEndsAt : Option Time := none
  againstBps : ℤ := 0
  reviewEndsAt : Option Time := none
  guardianCoverage : String := ""
  chainSyncedAt : Option Time := none
  pitchMessageId : Option ℤ := none
  quoteUsdPerWood : String := ""
  bondBufferStatus : String := ""
  bondBufferNote : String := ""
  shippedAt : Option Time := none
  shippedBy : String := ""
  createdAt : Time := 0
  updatedAt : Time := 0
  deriving DecidableEq

def ProposalRecord.isOpen (p : ProposalRecord) : Bool := p.status ∈ openStatuses

lemma ProposalRecord.isOpen_congr {p q : ProposalRecord} (h : p.status = q.status) :
    p.isOpen = q.isOpen := by
  simp only [isOpen, h]

structure SettleReceipt where
  proposalId : String
  agent : String
  asset : String
  pnl : String
  pnlBps : ℤ := 0
  txHash : String := ""
  onchainId : Option ℤ := none
  ideaBy : String := ""
  thesis : String := ""
  settledAt : Time := 0
  deriving DecidableEq

structure FundState where
  fund : Fund
  members : List Member := []
  agents : List Agent := []
  claims : List Claim := []
  proposals : List ProposalRecord := []
  receipts : List SettleReceipt := []
  schemaVersion : ℤ := 1
  revision : ℤ := 0
  nextProposalSeq : ℤ := 1
  nextMemberNo : ℤ := 1
  updatedAt : Time := 0
  deriving DecidableEq

/-- The Python exceptions that leave a fund operation other than by a rule. -/
inductive ErrKind
  | value | type | attribute | overflow | assertion | decimal
  | fundNotFound | fundExists | store | service | units | txBuilder
  deriving DecidableEq

/-- What a failed operation raises: a `RuleViolation`, or another exception with its text. -/
inductive Exc
  | rule (code reason : String)
  | raised (kind : ErrKind) (text : String)
  deriving DecidableEq

/-- `int(s)`. -/
def pyInt (s : String) : Except Exc ℤ :=
  match int? s with
  | some n => .ok n
  | none => .error (.raised .value ("invalid literal for int() with base 10: " ++ reprText s))

namespace FundState

/-- How a looked-up agent name or address is spelled before it is compared. -/
def lookupKey (s : String) : String := lower (strip s)

/-- What is compared equal to a key has that key. -/
lemma lookupKey_of_lower {s key : String} (h : lower s = lookupKey key) :
    lookupKey s = lookupKey key := by
  calc lookupKey s = strip (lower s) := (strip_lower _).symm
    _ = strip (lower (strip key)) := by rw [h, lookupKey]
    _ = lookupKey key := by rw [strip_lower, strip_strip, lookupKey]

def agent (state : FundState) (name : String) : Option (ℕ × Agent) :=
  locate (fun a => lower a.name = lookupKey name) state.agents

def agentByAddress (state : FundState) (address : String) : Option (ℕ × Agent) :=
  if lookupKey address = "" then none
  else locate (fun a => lower a.address = lookupKey address) state.agents

def hostAgent (state : FundState) : Option (ℕ × Agent) :=
  locate (fun a => a.role = "host" && !a.removed) state.agents

/-- Find a member by telegram id or wallet address. -/
def member (state : FundState) (who : String) : Option (ℕ × Member) :=
  if lookupKey who = "" then none
  else locate (fun m => lower m.telegramId = lookupKey who ||
    (m.address ≠ "" && lower m.address = lookupKey who)) state.members

/-- `key.lstrip("#")`. -/
def bareId (key : String) : String := String.ofList (key.toList.dropWhile (· = '#'))

/-- Find a proposal by its local id, else by its on-chain id ("12" or "#12"). -/
def proposal (state : FundState) (proposalId : String) :
    Except Exc (Option (ℕ × ProposalRecord)) :=
  match locate (fun p => p.id = strip proposalId) state.proposals with
  | some r => .ok (some r)
  | none =>
      -- `int(bare)` runs only for a record that has an on-chain id
      if isDigitText (bareId (strip proposalId)) ∧
          state.proposals.any (·.onchainId.isSome) = true then do
        let n ← pyInt (bareId (strip proposalId))
        return locate (fun p => p.onchainId = some n) state.proposals
      else .ok none

def openProposals (state : FundState) : List ProposalRecord :=
  state.proposals.filter (·.isOpen)

variable {state : FundState} {i : ℕ}

lemma agent_getElem? {name : String} {a : Agent} (h : state.agent name = some (i, a)) :
    state.agents[i]? = some a := locate_getElem? h

lemma agent_name {name : String} {a : Agent} (h : state.agent name = some (i, a)) :
    lower a.name = lookupKey name := by simpa using locate_holds h

lemma agentByAddress_getElem? {address : String} {a : Agent}
    (h : state.agentByAddress address = some (i, a)) : state.agents[i]? = some a := by
  rw [agentByAddress] at h
  split_ifs at h
  exact locate_getElem? h

lemma agentByAddress_address {address : String} {a : Agent}
    (h : state.agentByAddress address = some (i, a)) : lower a.address = lookupKey address := by
  rw [agentByAddress] at h
  split_ifs at h
  simpa using locate_holds h

lemma proposal_getElem? {pid : String} {r : ProposalRecord}
    (h : state.proposal pid = .ok (some (i, r))) : state.proposals[i]? = some r := by
  rw [proposal] at h
  split at h
  · next r' hr =>
      obtain rfl : r' = (i, r) := by simpa using h
      exact locate_getElem? hr
  · split_ifs at h
    · cases hn : pyInt (bareId (strip pid)) with
      | error e => simp [hn, bind, Except.bind] at h
      | ok n => exact locate_getElem? (by simpa [hn, bind, Except.bind, pure, Except.pure] using h)
    · simp at h

end FundState

end SherwoodMonitor.Models
