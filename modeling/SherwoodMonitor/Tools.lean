import SherwoodMonitor.Authz
import SherwoodMonitor.StateCodec

/-! The fund tools that a model calls (`fund/tools.py`), on the raw JSON of their arguments. What a
handler reads before its write is of one stored state; the writes of other processes in between
are not followed here. -/
namespace SherwoodMonitor.Tools
open PyText PyJson Models FundState Rules Service ChainCard Calls Effects AtomicStore FundWrites
  FundDisk Authz SherwoodMonitor.Units

abbrev Args := Fields

variable (rt : Runtime) (caller : Caller) (args : Args) (clock : ℕ → Clock)

--- reading the arguments

/-- `str(args.get(key) or "")`. -/
def argText (key : String) : String := (Json.lookup key args).orEmpty

/-- `args[key]` when it is not in `(None, "")`. -/
def given (key : String) : Option Json :=
  let v := Json.lookup key args
  if v.isBlank then none else some v

def givenText (key : String) : Option String := (given args key).map Json.toStr

/-- `int(args[key])` when one is given. -/
def givenInt (key : String) : Except Exc (Option ℤ) :=
  match given args key with
  | none => .ok none
  | some v => do
      let n ← pyIntOf v
      return some n

/-- `int(args.get(key) or 0)`. -/
def intOrZero (key : String) : Except Exc ℤ :=
  let v := Json.lookup key args
  if v.truthy then pyIntOf v else .ok 0

/-- `str(args.get(key, ""))`. -/
def presentText (key : String) : String :=
  match JsonRecords.entry key args with
  | none => ""
  | some v => v.toStr

/-- `to_base_units(str(v), WOOD_DECIMALS)` when one is given. -/
def givenWood (key : String) : Except Exc (Option ℤ) :=
  match givenText args key with
  | none => .ok none
  | some text => do
      let n ← toBaseUnits text 18
      return some n

--- drafts

/-- What is read of an entry of a leg: `null` for an amount reads as none, and so does a target,
calldata or symbol that is false. A weight of none is 0 here; comparing it raises a `TypeError`. -/
def legEntry : String × Json → Option (String × Json)
  | (key, v) =>
      if key ∈ ["value", "cap", "amount", "weight_bps"] ∧ v.isBlank then none
      else if key ∈ ["target", "data", "symbol"] ∧ !v.truthy then none
      else if key ∈ ["kind", "summary", "symbol"] then some (key, .str v.toStr)
      else some (key, v)

/-- The legs' decoder, with its errors as the handlers see them. -/
def decodeLeg (item : Json) : Except Exc Leg :=
  let item := match item with
    | .obj fields => .obj (fields.filterMap legEntry)
    | v => v
  match StateCodec.legFromDict item with
  | .ok leg => .ok leg
  | .error (.raised e) => .error e
  | .error (.untyped key) => .error (.raised .type (key ++ " is not of its declared type"))
  | .error (.missing key) => .error (.raised .type ("missing " ++ key))

/-- `parse_base_units` on text. -/
def parseBaseUnits (value : String) : Except Exc ℤ :=
  let text := strip value
  let l := beforeDollar text
  let digits := if l.head? = some '-' then l.tail else l
  if digits ≠ [] ∧ digits.all (fun c => (PyUnicode.decimalValue? c).isSome) then do
    let n ← pyInt text
    raiseIf (n < 0) .units ("amount must not be negative: " ++ reprText value)
    return n
  else .error (.raised .units ("not an integer base-unit amount: " ++ reprText value))

def parseLeg (decimals : ℕ) (item : Json) : Except Exc Leg := do
  let leg ← decodeLeg item
  let cap ← toBaseUnits (if leg.cap = "" then "0" else leg.cap) decimals
  let value ← parseBaseUnits (if leg.value = "" then "0" else leg.value)
  return { leg with cap := toString cap, value := toString value }

def parseLegs (raw : Json) (decimals : ℕ) : Except Exc (List Leg) :=
  match raw with
  | .arr items => items.mapM (parseLeg decimals)
  | _ => .error (.raised .units "legs must be a list")

/-- `int(v)` for the drawdown: what is no integer is a `UnitsError`. -/
def parseDrawdown (v : Json) : Except Exc ℤ :=
  match pyIntOf v with
  | .ok n => .ok n
  | .error _ => .error (.raised .units "max_drawdown_bps must be an integer")

/-- `parse_draft_args`, with the three texts that only the handler reads. -/
def parseDraftArgs (state : FundState) : Except Exc Draft := do
  let decimals := assetDecimals state.fund.asset
  let maxDrawdownBps ← parseDrawdown (Json.lookup "max_drawdown_bps" args)
  let rawLegs := Json.lookup "legs" args
  let legs ← parseLegs (if rawLegs.truthy then rawLegs else .arr []) decimals
  let maxCapital ← toBaseUnits (presentText args "max_capital") decimals
  let strategyDuration ← intOrZero args "strategy_duration_seconds"
  let bondQuoteWood ← givenWood args "bond_quote_wood"
  let woodBalance ← givenWood args "wood_balance"
  return {
    topic := argText args "topic", thesis := argText args "thesis", legs, maxCapital,
    maxDrawdownBps, strategyDuration, bondQuoteWood, woodBalance,
    ideaBy := argText args "idea_by", strategy := argText args "strategy",
    metadataUri := argText args "metadata_uri",
    quoteUsdPerWood := argText args "quote_usd_per_wood",
    bondBufferStatus := argText args "bond_buffer_status",
    bondBufferNote := argText args "bond_buffer_note" }

--- handlers

/-- What a tool answers with; the texts made of it are left out. -/
inductive ToolReply
  | setup (created : Bool) (fund : Fund)
  | claim (claim : Claim)
  | released (n : ℕ)
  | draft (result : DraftResult)
  | proposal (record : ProposalRecord)
  | receipt (receipt : SettleReceipt)
  | member (member : Member) (body : DepositorBody)
  | agent (agent : Agent) (body : Option RegisterBody)

/-- Refuse unless this turn's sender may use the host's authority. -/
def hostGate (name : String) (disk : Disk) : Except Exc (Option String) := do
  require (checkCaller (disk.find name) caller rt.settings.ownerTelegramId)
  return caller.telegramUser

def checkSetupAddress (key : String) (value : Option String) : Except Exc Unit :=
  raiseIf (value.any (fun v => !isAddress v)) .units (key ++ " must be a 0x address")

/-- The arguments of `fund_setup`, checked as far as they can be without the fund. -/
def setupArgs (agent : String) : Except Exc Setup := do
  let asset := upper (argText args "asset")
  raiseIf (asset ∉ ["", "USDG", "WETH"]) .units "asset must be USDG or WETH"
  let maxDrawdownBps ← givenInt args "max_drawdown_bps"
  let votingPeriod ← givenInt args "voting_period"
  let agentFeeBps ← givenInt args "agent_fee_bps"
  require (checkAgentFee agentFeeBps)
  let hostAddress := argText args "host_address"
  checkSetupAddress "vault" (givenText args "vault")
  checkSetupAddress "governor" (givenText args "governor")
  return {
    agent, vault := givenText args "vault", governor := givenText args "governor",
    telegramChatId := givenText args "telegram_chat_id",
    hostTelegramId := givenText args "host_telegram_id", asset,
    maxCapital := givenText args "max_capital", maxDrawdownBps, votingPeriod, agentFeeBps,
    hostAddress := if hostAddress ≠ "" then hostAddress else rt.settings.agentAddress }

/-- The fund that `fund_setup` creates. -/
def newFund (name : String) (setup : Setup) (maxCapital : Option String) : Fund :=
  withSetup { name, asset := if setup.asset = "" then "USDG" else setup.asset,
              host := setup.hostAddress } setup maxCapital

def hostAgentOf (agent : String) : Agent :=
  { name := agent, identityId := rt.settings.agentIdentityId,
    address := rt.settings.agentAddress, ownerTelegramId := rt.settings.ownerTelegramId }

/-- All that `fund_setup` does before it writes. -/
def setupPlan (disk : Disk) : Except Exc (String × Setup × Fund) := do
  let name ← rt.fundFor (Json.lookup "fund" args) disk
  let _ ← hostGate rt caller name disk
  let agent ← rt.agentName
  let setup ← setupArgs rt args agent
  let maxCapital ← limitsFor setup (if setup.asset = "" then "USDG" else setup.asset)
  return (name, setup, newFund name setup maxCapital)

def fundSetup : DiskProg ToolReply := do
  let disk ← Prog.get
  let (name, setup, fund) ← check (setupPlan rt caller args disk)
  Prog.update (.create fund (hostAgentOf rt setup.agent) (clock 0)) fun
    | .ok state => pure (.setup true (state : FundState).fund)
    | .error (.raised .fundExists _) => do
        let fund ← Prog.call (I := diskStore) (.write name (.setup setup (clock 1).stamp))
        return .setup false (fund : Fund)
    | .error e => Prog.raise e

def fundClaimTopic : DiskProg ToolReply := do
  let disk ← Prog.get
  let name ← check (rt.fundFor (Json.lookup "fund" args) disk)
  let agent ← check rt.agentName
  let claim ← runFundAct name (.claimTopic agent (argText args "topic")) (clock 0)
  return .claim (claim : Claim)

/-- The topic to release; one that is no text has no `lower`. -/
def releaseTopic : Except Exc (Option String) :=
  match Json.lookup "topic" args with
  | .str topic => .ok (if topic = "" then none else some topic)
  | v =>
      if v.truthy then
        .error (.raised .attribute ("'" ++ pyTypeName v ++ "' object has no attribute 'lower'"))
      else .ok none

def fundReleaseClaim : DiskProg ToolReply := do
  let disk ← Prog.get
  let name ← check (rt.fundFor (Json.lookup "fund" args) disk)
  let agent ← check rt.agentName
  let _ ← check (disk.load name)
  let topic ← check (releaseTopic args)
  let n ← runFundAct name (.releaseClaim agent topic) (clock 0)
  return .released (n : ℕ)

/-- All that `fund_draft_proposal` does before it calls the service. -/
def draftPlan (disk : Disk) : Except Exc (String × String × Draft) := do
  let name ← rt.fundFor (Json.lookup "fund" args) disk
  let state ← disk.load name
  let d ← parseDraftArgs args state
  let agent ← rt.agentName
  return (name, agent, d)

def fundDraftProposal : DiskProg ToolReply := do
  let disk ← Prog.get
  let (name, agent, d) ← check (draftPlan rt args disk)
  let result ← runFundAct name (.draftProposal agent d) (clock 0)
  return .draft (result : DraftResult)

/-- The status note that the tool's arguments give. -/
def statusNote : Except Exc StatusNote := do
  let onchainId ← givenInt args "onchain_id"
  return { onchainId, txHash := argText args "tx_hash",
           cardMessageId := argText args "card_message_id" }

def statusPlan (disk : Disk) : Except Exc (String × String × StatusNote) := do
  let name ← rt.fundFor (Json.lookup "fund" args) disk
  let _ ← hostGate rt caller name disk
  let agent ← rt.agentName
  let note ← statusNote args
  return (name, agent, note)

def fundSetProposalStatus : DiskProg ToolReply := do
  let disk ← Prog.get
  let (name, agent, note) ← check (statusPlan rt caller args disk)
  let reply ← runFundAct name
    (.setProposalStatus agent (argText args "proposal_id") (argText args "status") note) (clock 0)
  return .proposal (reply : ProposalRecord × Status).1

/-- `voter_kind`, or what the presence of a voter says. -/
def voterKind : String :=
  let kind := Json.lookup "voter_kind" args
  if kind.truthy then kind.toStr
  else if (Json.lookup "voter" args).truthy then "member" else "agent"

/-- The fund and the voter of a vote; only a member vote is checked against the sender. -/
def votePlan (disk : Disk) : Except Exc (String × String) := do
  let voter ← if voterKind args = "member" then .ok (argText args "voter") else rt.agentName
  let name ← rt.fundFor (Json.lookup "fund" args) disk
  if voterKind args = "member" then
    let state ← disk.load name
    require (checkMemberVoteCaller (some state) caller voter rt.settings.ownerTelegramId)
  return (name, voter)

def fundRecordVote : DiskProg ToolReply := do
  let disk ← Prog.get
  let (name, voter) ← check (votePlan rt caller args disk)
  let record ← runFundAct name
    (.recordVote (argText args "proposal_id") voter (argText args "side") (voterKind args)
      (argText args "note")) (clock 0)
  return .proposal (record : ProposalRecord)

def settlePlan (disk : Disk) : Except Exc (String × String × Settle) := do
  let name ← rt.fundFor (Json.lookup "fund" args) disk
  let _ ← hostGate rt caller name disk
  let state ← disk.load name
  let pnl ← toBaseUnits (presentText args "pnl") (assetDecimals state.fund.asset) true
  let agent ← rt.agentName
  let pnlBps ← intOrZero args "pnl_bps"
  return (name, agent, { pnl, pnlBps, txHash := argText args "tx_hash" })

def fundRecordSettle : DiskProg ToolReply := do
  let disk ← Prog.get
  let (name, agent, settle) ← check (settlePlan rt caller args disk)
  let reply ← runFundAct name
    (.recordSettle agent (argText args "proposal_id") settle) (clock 0)
  return .receipt (reply : SettleReceipt × ProposalRecord).1

/-- `ensure_member_address`: a member's wallet from the app, where the state has none. -/
def ensureMemberAddress (name who : String) (c : Clock) : DiskProg Unit := do
  let disk ← Prog.get
  let state ← check (disk.load name)
  let known := (state.member who).any fun m => m.2.address ≠ ""
  let bare := String.ofList (who.toList.dropWhile (· = '-'))
  if known ∨ !isDigitText bare then pure ()
  else
    match rt.applink with
    | none => pure ()
    | some linkedAddress => do
        Prog.tell (.lookup state.fund.vault who)
        match linkedAddress state.fund.vault who with
        | none => pure ()
        | some address =>
            let _ ← runFundAct name (.requestMembership who address "") c
            pure ()

/-- The checks of `fund_approve_member` before any lookup. -/
def approveMemberPlan (disk : Disk) : Except Exc (String × String × Option String) := do
  let name ← rt.fundFor (Json.lookup "fund" args) disk
  let callerTg ← hostGate rt caller name disk
  let state ← disk.load name
  require (checkCallerIsHost state callerTg)
  let agent ← rt.agentName
  require (checkHostAction state agent)
  return (name, agent, callerTg)

def fundApproveMember : DiskProg ToolReply := do
  let disk ← Prog.get
  let (name, agent, callerTg) ← check (approveMemberPlan rt caller args disk)
  if !(Json.lookup "address" args).truthy then
    ensureMemberAddress rt name (argText args "member") (clock 0)
  let reply ← runFundAct name
    (.approveMember agent (argText args "member") (argText args "address") (argText args "tx_hash")
      callerTg) (clock 1)
  return .member (reply : Member × DepositorBody).1 (reply : Member × DepositorBody).2

/-- The fund, the actor and the caller of `fund_approve_agent` and `fund_remove_agent`. -/
def agentPlan (disk : Disk) : Except Exc (String × String × Option String) := do
  let name ← rt.fundFor (Json.lookup "fund" args) disk
  let callerTg ← hostGate rt caller name disk
  let agent ← rt.agentName
  return (name, agent, callerTg)

def fundApproveAgent : DiskProg ToolReply := do
  let disk ← Prog.get
  let (name, agent, callerTg) ← check (agentPlan rt caller args disk)
  let reply ← runFundAct name
    (.approveAgent agent (argText args "agent") (argText args "tx_hash") callerTg) (clock 0)
  let (approved, body) := (reply : Agent × RegisterBody)
  return .agent approved (if approved.registered then none else some body)

def fundRemoveAgent : DiskProg ToolReply := do
  let disk ← Prog.get
  let (name, agent, callerTg) ← check (agentPlan rt caller args disk)
  let removed ← runFundAct name (.removeAgent agent (argText args "agent") callerTg) (clock 0)
  return .agent (removed : Agent) none

/-- The handlers of `HOST_TOOLS`. -/
def runHostTool : HostTool → DiskProg ToolReply
  | .fundSetup => fundSetup rt caller args clock
  | .fundApproveMember => fundApproveMember rt caller args clock
  | .fundApproveAgent => fundApproveAgent rt caller args clock
  | .fundRemoveAgent => fundRemoveAgent rt caller args clock
  | .fundRecordSettle => fundRecordSettle rt caller args clock
  | .fundSetProposalStatus => fundSetProposalStatus rt caller args clock

end SherwoodMonitor.Tools
