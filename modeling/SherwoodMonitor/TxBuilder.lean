import SherwoodMonitor.Library.PyJson
import SherwoodMonitor.Rules

/-! Request bodies of the prepare API (`fund/txbuilder.py`), as far as a draft needs them. A body
that the API would reject is refused with the message of the `TxBuilderError`. -/
namespace SherwoodMonitor.TxBuilder
open PyUnicode PyText PyJson Models Rules

abbrev Refused (α : Type) := Except String α

def addr (name value : String) : Refused String :=
  if isAddress value then .ok value
  else .error ("`" ++ name ++ "` must be a 0x-prefixed 40-hex address")

def isUintText (positive : Bool) (text : String) : Bool :=
  match beforeDollar text with
  | [] => false
  | c :: l =>
      (if positive then 49 ≤ c.toNat && c.toNat ≤ 57 else (decimalValue? c).isSome) &&
        l.all fun d => (decimalValue? d).isSome

def uint (name text : String) (positive : Bool := false) : Refused String :=
  if isUintText positive text then .ok text
  else .error ("`" ++ name ++ "` must be a " ++ (if positive then "positive " else "") ++
    "integer (base units, as a string)")

def ipfs (value : String) : Refused String :=
  if startsWith value "ipfs://" ∧ 7 < value.length then .ok value
  else .error "`metadataURI` must be an ipfs://<CID> URI (pin the JSON first)"

def callItem (name : String) (i : ℕ) (leg : Leg) : Refused Json := do
  let item := name ++ "[" ++ toString i ++ "]"
  let target ← addr (item ++ ".target") leg.target
  if !isHexData leg.data then throw ("`" ++ item ++ ".data` must be 0x hex")
  let value ← uint (item ++ ".value") (if leg.value = "" then "0" else leg.value)
  return .obj [("target", .str target), ("data", .str leg.data), ("value", .str value)]

def calls (name : String) (legs : List Leg) : Refused Json := do
  let items ← legs.zipIdx.mapM fun leg => callItem name leg.2 leg.1
  return .arr items

def caps (name : String) (legs : List Leg) : Refused Json := do
  let items ← legs.mapM fun leg => uint name leg.cap
  return .arr (items.map .str)

/-- `build_propose_body`. Calls and caps come from the same legs, so their numbers agree. -/
def buildProposeBody (vault strategy metadataUri : String) (strategyDuration : ℤ)
    (maxCapital : String) (maxDrawdownBps : ℤ) (execute settlement : List Leg) (chainId : ℤ) :
    Refused Json := do
  if ¬(0 ≤ maxDrawdownBps ∧ maxDrawdownBps ≤ 10000) then
    throw "`envelope.maxDrawdownBps` must be an integer in [0, 10000]"
  let vault ← addr "vault" vault
  let strategy ← addr "strategy" strategy
  let metadataUri ← ipfs metadataUri
  let duration ← uint "strategyDuration" (toString strategyDuration) true
  let maxCapital ← uint "envelope.maxCapital" maxCapital true
  let executeCalls ← calls "executeCalls" execute
  let executeCallCaps ← caps "executeCallCaps" execute
  let settlementCalls ← calls "settlementCalls" settlement
  let settlementCallCaps ← caps "settlementCallCaps" settlement
  return .obj [("chainId", .int chainId), ("vault", .str vault), ("strategy", .str strategy),
    ("metadataURI", .str metadataUri), ("strategyDuration", .str duration),
    ("envelope", .obj [("maxCapital", .str maxCapital), ("maxDrawdownBps", .int maxDrawdownBps)]),
    ("executeCalls", executeCalls), ("executeCallCaps", executeCallCaps),
    ("settlementCalls", settlementCalls), ("settlementCallCaps", settlementCallCaps)]

/-- `^\d+(\.\d+)?$`. -/
def isDecimalText (text : String) : Bool :=
  let isDec := fun c => (decimalValue? c).isSome
  match splitAtFirst (· = '.') (beforeDollar text) with
  | (ip, none) => ip ≠ [] && ip.all isDec
  | (ip, some fp) => ip ≠ [] && ip.all isDec && fp ≠ [] && fp.all isDec

def portfolioLeg (i : ℕ) (leg : Leg) : Refused Json := do
  if leg.weightBps ≤ 0 then
    throw ("legs[" ++ toString i ++ "].weightBps must be a positive integer")
  return .obj [("weightBps", .int leg.weightBps), ("symbol", .str (upper leg.symbol))]

/-- `build_propose_portfolio_body`, for legs that name a symbol; `metadataUri`, when it is not
blank, stands in for the name and the description. -/
def buildProposePortfolioBody (vault proposer : String) (legs : List Leg) (maxCapital : String)
    (strategyDuration metadataUri name description : String) (maxDrawdownBps chainId : ℤ)
    (quoteUsdPerWood : String) : Refused Json := do
  if ¬(1 ≤ legs.length ∧ legs.length ≤ 20) then throw "1..20 legs"
  let items ← legs.zipIdx.mapM fun leg => portfolioLeg leg.2 leg.1
  let total := (legs.map (·.weightBps)).sum
  if total ≠ 10000 then
    throw ("leg weights must sum to 10000 bps (got " ++ toString total ++ ")")
  let vault ← addr "vault" vault
  let proposer ← addr "proposer" proposer
  let maxCapital ← uint "maxCapital" maxCapital true
  let metadata ←
    if metadataUri ≠ "" then do
      let uri ← ipfs metadataUri
      pure [("metadataURI", Json.str uri)]
    else pure (("name", Json.str name) ::
      if description ≠ "" then [("description", .str description)] else [])
  if ¬(0 ≤ maxDrawdownBps ∧ maxDrawdownBps ≤ 10000) then
    throw "`maxDrawdownBps` must be an integer in [0, 10000]"
  if quoteUsdPerWood ≠ "" ∧ !isDecimalText quoteUsdPerWood then
    throw "`quoteUsdPerWood` must be the decimal string a previous response returned"
  return .obj ([("chainId", .int chainId), ("vault", .str vault), ("proposer", .str proposer),
    ("legs", .arr items), ("strategyDuration", .str strategyDuration),
    ("maxCapital", .str maxCapital)] ++ metadata ++ [("maxDrawdownBps", .int maxDrawdownBps),
    ("bondSwapMaxPremiumBps", .int 300), ("bondSwapDeadlineSeconds", .int 600)] ++
    if quoteUsdPerWood ≠ "" then
      [("maxDriftBps", .int 500), ("quoteUsdPerWood", .str quoteUsdPerWood)] else [])

/-- What a draft maps to: `{"route", "url", "ready", "missing", "body"}`; the url is the route
under the configured base. -/
structure Prepare where
  route : String
  missing : List String
  body : Json

def Prepare.ready (p : Prepare) : Bool := p.missing.isEmpty

/-- Every execute leg names a symbol and a weight, and the weights make 100%. -/
def isPortfolio (record : ProposalRecord) : Bool :=
  let execute := record.legs.filter (·.phase = "execute")
  !execute.isEmpty && execute.all (fun leg => leg.symbol ≠ "" && 0 < leg.weightBps) &&
    (execute.map (·.weightBps)).sum = 10000

def missingDuration (record : ProposalRecord) : List String :=
  if record.strategyDuration ≤ 0 then
    ["strategyDuration: seconds the position stays open"] else []

/-- `portfolio_payload`. -/
def portfolioPayload (fund : Fund) (record : ProposalRecord) (proposer metadataUri : String) :
    Prepare :=
  let legs := record.legs.filter fun leg => leg.phase = "execute" && leg.symbol ≠ ""
  let duration := if record.strategyDuration = 0 then "" else toString record.strategyDuration
  let label := if record.topic ≠ "" then record.topic else take record.thesis 40
  match buildProposePortfolioBody fund.vault proposer legs record.maxCapital duration metadataUri
      (fund.name ++ ": " ++ label) record.thesis record.maxDrawdownBps fund.chainId
      record.quoteUsdPerWood with
  | .ok body => ⟨"propose-portfolio", missingDuration record, body⟩
  | .error message => ⟨"propose-portfolio", message :: missingDuration record, .obj []⟩

def rawCall (leg : Leg) : Json :=
  .obj [("target", .str leg.target), ("data", .str leg.data),
    ("value", .str (if leg.value = "" then "0" else leg.value))]

/-- `propose_payload`. -/
def proposePayload (fund : Fund) (record : ProposalRecord) (strategy metadataUri : String) :
    Prepare :=
  let execute := record.legs.filter fun leg => leg.phase = "execute" && leg.hasCall
  let settle := record.legs.filter fun leg => leg.phase = "settle" && leg.hasCall
  let missing :=
    (if fund.vault = "" then ["vault: the fund has no vault address yet"] else []) ++
    (if strategy = "" then
      ["strategy: a PortfolioStrategy clone address (deploy one through the factory)"] else []) ++
    (if metadataUri = "" then
      ["metadataURI: pin the proposal metadata JSON and pass its ipfs:// URI"] else []) ++
    missingDuration record ++
    (record.legs.zipIdx.filter (!·.1.hasCall)).map fun leg => "leg " ++ toString leg.2 ++ " (" ++
      reprText leg.1.summary ++ ") has no calldata: build it with the CLI's --calldata-only"
  let body := Json.obj [("chainId", .int fund.chainId), ("vault", .str fund.vault),
    ("strategy", .str strategy), ("metadataURI", .str metadataUri),
    ("strategyDuration", .str (toString record.strategyDuration)),
    ("envelope", .obj [("maxCapital", .str record.maxCapital),
      ("maxDrawdownBps", .int record.maxDrawdownBps)]),
    ("executeCalls", .arr (execute.map rawCall)),
    ("executeCallCaps", .arr (execute.map fun leg => .str leg.cap)),
    ("settlementCalls", .arr (settle.map rawCall)),
    ("settlementCallCaps", .arr (settle.map fun leg => .str leg.cap))]
  if missing.isEmpty then
    match buildProposeBody fund.vault strategy metadataUri record.strategyDuration
        record.maxCapital record.maxDrawdownBps execute settle fund.chainId with
    | .ok body => ⟨"propose", [], body⟩
    | .error message => ⟨"propose", [message], body⟩
  else ⟨"propose", missing, body⟩

end SherwoodMonitor.TxBuilder
