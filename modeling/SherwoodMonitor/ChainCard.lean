import SherwoodMonitor.Library.PyJson
import SherwoodMonitor.Service

/-! The tx-builder's tg-card read (`apply_chain_card` of `fund/service.py`): reading the card,
and what its fund section writes. -/
namespace SherwoodMonitor.ChainCard
open PyText PyJson Models Service

abbrev Fields := List (String × Json)

def pyTypeName : Json → String
  | .null => "NoneType"
  | .bool _ => "bool"
  | .int _ => "int"
  | .float _ _ => "float"
  | .str _ => "str"
  | .arr _ => "list"
  | .obj _ => "dict"

/-- `v.get`, which only a dict has. -/
def asDict : Json → Except Exc Fields
  | .obj fields => .ok fields
  | v => .error (.raised .attribute ("'" ++ pyTypeName v ++ "' object has no attribute 'get'"))

/-- The dicts among the items of `v or []`; a string or a dict iterates over strings. -/
def rowsOf (v : Json) : Except Exc (List Fields) :=
  if !v.truthy then .ok []
  else
    match v with
    | .arr items => .ok (items.filterMap Json.fieldsOf)
    | .str _ | .obj _ => .ok []
    | v => .error (.raised .type ("'" ++ pyTypeName v ++ "' object is not iterable"))

/-- `int(q)`. -/
def truncate (q : ℚ) : ℤ := if 0 ≤ q then q.floor else q.ceil

/-- `_opt_int`; a float that is none of the numbers has one of these texts, and an infinity
raises. -/
def optInt : Json → Except Exc (Option ℤ)
  | .bool b => .ok (some (if b then 1 else 0))
  | .int n => .ok (some n)
  | .float q text =>
      if text = "inf" ∨ text = "-inf" then
        .error (.raised .overflow "cannot convert float infinity to integer")
      else .ok (if text = "nan" then none else some (truncate q))
  | .str s => .ok (if s = "" then none else int? s)
  | _ => .ok none

/-- From here on `float(n)` overflows. -/
def floatLimit : ℤ := 2 ^ 1024 - 2 ^ 970

/-- `_opt_float`; an integer too large for a float raises. -/
def optFloat (v : Json) : Except Exc (Option ℚ) :=
  if !v.truthy then .ok none
  else
    match v with
    | .bool _ => .ok (some 1)
    | .int n =>
        if floatLimit ≤ |n| then .error (.raised .overflow "int too large to convert to float")
        else .ok (some n)
    | .float q _ => .ok (some q)
    | .str s => .ok (if s = "0" then none else float? s)
    | _ => .ok none

/-- `int(v)`. -/
def pyIntOf : Json → Except Exc ℤ
  | .bool b => .ok (if b then 1 else 0)
  | .int n => .ok n
  | .float q _ => .ok (truncate q)
  | .str s => pyInt s
  | v => .error (.raised .type ("int() argument must be a string, a bytes-like object or a real " ++
      "number, not '" ++ pyTypeName v ++ "'"))

def setDefault (d : List (String × ℤ)) (key : String) (n : ℤ) : List (String × ℤ) :=
  if d.any (·.1 = key) then d else d ++ [(key, n)]

def setItem (d : List (String × ℤ)) (key : String) (n : ℤ) : List (String × ℤ) :=
  if d.any (·.1 = key) then d.map fun e => if e.1 = key then (key, n) else e else d ++ [(key, n)]

/-- The first of some values that reads as a number other than zero. -/
def firstNumber : List Json → Except Exc (Option ℤ)
  | [] => .ok none
  | v :: vs => do
      let n ← optInt v
      if n.getD 0 ≠ 0 then return n else firstNumber vs

/-- What a row of approved members adds to the deposit order. -/
def depositRow (d : List (String × ℤ)) (row : Fields) : Except Exc (List (String × ℤ)) :=
  match Json.lookup "address" row with
  | .str address => do
      let n ← firstNumber (["depositIndex", "memberNumber", "number"].map (Json.lookup · row))
      return match n with
        | some n => setItem d (lower address) n
        | none => d
  | _ => .ok d

/-- `_deposit_order`: address to Member #N, when the read exposes it. -/
def depositOrder : Json → Except Exc (List (String × ℤ))
  | .obj members => do
      let ordered := match Json.lookup "depositOrder" members with
        | .arr items => items.zipIdx.foldl (fun d e =>
            match e.1 with
            | .str address => setDefault d (lower address) (e.2 + 1)
            | _ => d) []
        | _ => []
      let rows ← rowsOf (Json.lookup "approved" members)
      rows.foldlM depositRow ordered
  | _ => .ok []

/-- `_coverage_kind`. -/
def coverageKind (row : Fields) : Option String :=
  let review := (Json.lookup "review" row).dictOrEmpty
  let blocked := if (Json.lookup "blocked" review).truthy then some "blocked" else none
  match Json.lookup "coverage" review with
  | .obj coverage =>
      let kind := Json.lookup "kind" coverage
      if kind.truthy then some kind.toStr else blocked
  | .str s => if s ≠ "" then some s else blocked
  | _ => blocked

/-- `CHAIN_STATES`: where a chain state may move a proposal. -/
def chainStates : String → Option Status
  | "GuardianReview" => some .review
  | "Approved" => some .approved
  | "Executed" => some .executed
  | "Rejected" => some .vetoed
  | _ => none

/-- The sections of a card that the fund record takes up. -/
structure CardFund where
  gov : Fields
  gate : Fields
  fee : Option ℤ
  depositOrder : List (String × ℤ)

def CardFund.isEmpty (card : CardFund) : Bool :=
  card.gov.isEmpty && card.gate.isEmpty && card.fee.isNone && card.depositOrder.isEmpty

structure Card where
  fund : CardFund
  rows : List Fields

/-- Reading a card, before anything is written. -/
def parseCard (card : Json) : Except Exc Card := do
  let data ← asDict (match card with
    | .obj fields => if Json.hasKey "data" fields then Json.lookup "data" fields else card
    | _ => .obj [])
  let proposals := Json.lookup "proposals" data
  let props ← if proposals.truthy then asDict proposals else .ok []
  let open_ ← rowsOf (Json.lookup "open" props)
  let recent ← rowsOf (Json.lookup "recent" props)
  let active := (Json.lookup "activeProposal" data).fieldsOf.toList
  let fundInfo := (Json.lookup "fund" data).dictOrEmpty
  let fee ← optInt (Json.lookup "agentFeeBps" fundInfo)
  let deposits ← depositOrder (Json.lookup "members" data)
  return {
    fund := {
      gov := (Json.lookup "governor" data).dictOrEmpty
      gate := (Json.lookup "proposeGate" data).dictOrEmpty
      fee
      depositOrder := deposits }
    rows := open_ ++ recent ++ active }

/-- A governor parameter that reads as digits, else the value at hand. -/
def govParam (gov : Fields) (key : String) (current : ℤ) : Except Exc ℤ :=
  let v := Json.lookup key gov
  if isDigitText v.orEmpty then pyIntOf v else .ok current

/-- The cooldown a card leaves: the one it carries, else the one at hand. -/
def gateCooldown (gate : Fields) (current : Option Time) : Except Exc (Option Time) :=
  if Json.hasKey "cooldownUntil" gate then optFloat (Json.lookup "cooldownUntil" gate)
  else .ok current

def depositedMember (deposits : List (String × ℤ)) (m : Member) : Member :=
  if m.address = "" then m
  else
    match deposits.find? (·.1 = lower m.address) with
    | some e => { m with depositNo := some e.2 }
    | none => m

/-- `fund_mutate`: the chain's values replace the local ones. -/
def cardFund (card : CardFund) (state : FundState) : Except Exc (Unit × FundState) := do
  let cooldownPeriod ← govParam card.gov "cooldownPeriod" state.fund.cooldownPeriod
  let vetoThresholdBps ← govParam card.gov "vetoThresholdBps" state.fund.vetoThresholdBps
  let cooldownUntil ← gateCooldown card.gate state.fund.cooldownUntil
  return ((), { state with
    fund := { state.fund with
      cooldownPeriod, vetoThresholdBps, cooldownUntil
      agentFeeBps := card.fee.or state.fund.agentFeeBps }
    members := state.members.map (depositedMember card.depositOrder) })

/-- What one row of a card says about its proposal. -/
def rowRead (row : Fields) : Except Exc ChainRead := do
  let againstBps ← optInt (Json.lookup "againstBps" row)
  let votingEndsAt ← optFloat (Json.lookup "voteEnd" row)
  let reviewEndsAt ← optFloat (Json.lookup "reviewEnd" row)
  return { againstBps, votingEndsAt, reviewEndsAt, guardianCoverage := coverageKind row }

/-- The on-chain id of a row; a row without one is skipped. -/
def rowId (row : Fields) : Option ℤ := int? (Json.lookup "id" row).toStr

def rowTarget (row : Fields) : Option Status := chainStates (Json.lookup "state" row).orEmpty

end SherwoodMonitor.ChainCard
