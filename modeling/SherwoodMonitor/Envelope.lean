import SherwoodMonitor.Library.Grouping
import SherwoodMonitor.Library.PyNumber
import SherwoodMonitor.Records

/-! The replies of the prepare API (`fund/txbuilder.py`): the envelope that a reply is parsed as, the
request that it answers, and the batches in which its transactions are sent to a wallet. -/
namespace SherwoodMonitor.Envelope
open PyText PyNumber PyJson PyConvert JsonRecords Records

structure UnsignedTx where
  to_ : String
  data : String
  value : String
  chainId : ℤ

structure Call where
  to_ : String
  data : String
  value : String
  deriving DecidableEq

def UnsignedTx.asCall (tx : UnsignedTx) : Call := ⟨tx.to_, tx.data, tx.value⟩

structure PreparedAction where
  command : String
  txs : List UnsignedTx
  preconditions : List Json := []
  description : String := ""
  note : String := ""
  chainId : Json := .null
  extra : List (String × Json) := []

/-! ### Batches -/

structure Batch where
  version : String
  chainId : String
  from_ : String
  atomicRequired : Bool
  calls : List Call
  deriving DecidableEq

def batches (txs : List UnsignedTx) : List (ℤ × List UnsignedTx) :=
  Grouping.collect (·.chainId) txs

/-- EIP-5792 `wallet_sendCalls` params, one batch per chain. -/
def PreparedAction.walletSendCalls (action : PreparedAction) (fromAddress : String) : List Batch :=
  (batches action.txs).map fun row =>
    { version := "2.0.0", chainId := hex row.1, from_ := fromAddress, atomicRequired := false,
      calls := row.2.map UnsignedTx.asCall }

/-- Together the batches have every call as often as the list, each under its own chain; no two
batches are of one chain, and within a chain the order of the list is kept. -/
theorem walletSendCalls_partition (action : PreparedAction) (fromAddress : String) :
    let sent := action.walletSendCalls fromAddress
    (sent.flatMap fun batch => batch.calls.map fun call => (batch.chainId, call)).Perm
        (action.txs.map fun tx => (hex tx.chainId, tx.asCall)) ∧
      (sent.map (·.chainId)).Nodup ∧
      ∀ batch ∈ sent, ∃ chain, batch.chainId = hex chain ∧
        batch.calls = (action.txs.filter fun tx => tx.chainId = chain).map UnsignedTx.asCall := by
  refine ⟨?_, ?_, ?_⟩
  · have hown : ∀ row ∈ batches action.txs,
        row.2.map (fun tx => (hex row.1, tx.asCall)) =
          row.2.map fun tx => (hex tx.chainId, tx.asCall) := by
      rintro ⟨chain, row⟩ hrow
      obtain ⟨-, rfl⟩ := Grouping.mem_collect.1 hrow
      refine List.map_congr_left fun tx htx => ?_
      rw [← of_decide_eq_true (List.mem_filter.1 htx).2]
    have hall : ((action.walletSendCalls fromAddress).flatMap fun batch =>
        batch.calls.map fun call => (batch.chainId, call)) =
          ((batches action.txs).flatMap (·.2)).map fun tx => (hex tx.chainId, tx.asCall) := by
      rw [PreparedAction.walletSendCalls, List.flatMap_map, List.map_flatMap]
      refine List.flatMap_congr fun row hrow => ?_
      rw [← hown row hrow, List.map_map]
      rfl
    rw [hall]
    exact Grouping.flatMap_collect_perm.map _
  · rw [PreparedAction.walletSendCalls, List.map_map]
    have hkeys : ((batches action.txs).map (·.1)).Nodup := Grouping.nodup_collect
    have hchains := hkeys.map fun _ _ => hex_inj
    rwa [List.map_map] at hchains
  · intro batch hbatch
    obtain ⟨⟨chain, row⟩, hrow, rfl⟩ := List.mem_map.1 hbatch
    obtain ⟨-, rfl⟩ := Grouping.mem_collect.1 hrow
    exact ⟨chain, rfl, rfl⟩

/-! ### Errors -/

/-- The exceptions besides the client's own. -/
inductive Kind
  | key
  | type
  | value
  | attribute
  | overflow
  deriving DecidableEq

structure TxBuilderError where
  route : String
  message : String
  status : Option ℤ := none
  data : List (String × Json) := []

/-- `str(exc)`. -/
def TxBuilderError.text (e : TxBuilderError) : String :=
  "prepare/" ++ e.route ++ ": " ++ e.message ++
    match e.status with
    | none => ""
    | some status => if status = 0 then "" else " (HTTP " ++ toString status ++ ")"

inductive Failure
  | txBuilder (e : TxBuilderError)
  | raised (kind : Kind) (text : String)

def typeName : Json → String
  | .null => "NoneType"
  | .bool _ => "bool"
  | .int _ => "int"
  | .float _ _ => "float"
  | .str _ => "str"
  | .arr _ => "list"
  | .obj _ => "dict"

/-- `v[key]`. -/
def subscript (key : String) : Json → Except Failure Json
  | .obj fields =>
      match entry key fields with
      | some v => .ok v
      | none => .error (.raised .key (reprText key))
  | .arr _ => .error (.raised .type "list indices must be integers or slices, not str")
  | .str _ => .error (.raised .type "string indices must be integers, not 'str'")
  | v => .error (.raised .type ("'" ++ typeName v ++ "' object is not subscriptable"))

/-- The entries of the dict whose `get` or `items` is called. -/
def dictAt (method : String) : Json → Except Failure (List (String × Json))
  | .obj fields => .ok fields
  | v => .error (.raised .attribute
      ("'" ++ typeName v ++ "' object has no attribute '" ++ method ++ "'"))

def itemsOf (v : Json) : Except Failure (List Json) :=
  match iterate v with
  | some items => .ok items
  | none => .error (.raised .type ("'" ++ typeName v ++ "' object is not iterable"))

/-- `int(v)`. -/
def intAt (v : Json) : Except Failure ℤ :=
  match intOf v, v with
  | .ok n, _ => .ok n
  | .error .overflowError, _ =>
      .error (.raised .overflow "cannot convert float infinity to integer")
  | .error .valueError, .str s =>
      .error (.raised .value ("invalid literal for int() with base 10: " ++ reprText s))
  | .error .valueError, _ => .error (.raised .value "cannot convert float NaN to integer")
  | .error .typeError, _ => .error (.raised .type
      ("int() argument must be a string, a bytes-like object or a real number, not '" ++
        typeName v ++ "'"))

/-! ### The envelope -/

def newRoutes : List String :=
  ["approve-depositors", "propose-portfolio", "set-agent-fee", "owner-stake", "tg-card"]

def notDeployed (route : String) : String :=
  if route ∈ newRoutes then
    "route not deployed on this API yet (HTTP 404); it ships with sherwood PR #739 (SHE-515)"
  else "route not found (HTTP 404)"

def envelopeKeys : List String := ["txs", "preconditions", "description", "note"]

/-- `payload.get("success")`, on what is a dict. -/
def succeeded (payload : Json) : Bool := (Json.lookup "success" payload.dictOrEmpty).truthy

/-- `v or {}`. -/
def orDict (v : Json) : Json := if v.truthy then v else .obj []

def parseTx (t : Json) : Except Failure UnsignedTx := do
  let to_ ← subscript "to" t
  let data ← subscript "data" t
  let fields ← dictAt "get" t
  let chain ← subscript "chainId" t
  let chainId ← intAt chain
  return ⟨to_.toStr, data.toStr, (getOr "value" (.str "0x0") fields).toStr, chainId⟩

def parseTxs (data : Json) : Except Failure (List UnsignedTx) := do
  let fields ← dictAt "get" data
  let items ← itemsOf (getOr "txs" (.arr []) fields)
  items.mapM parseTx

/-- `except (KeyError, TypeError, ValueError)`. -/
def caught (kind : Kind) : Bool := kind ∈ [.key, .type, .value]

def malformed (route : String) (status : ℤ) (failure : Failure) : Failure :=
  match failure with
  | .raised kind text =>
      if caught kind then
        .txBuilder ⟨route, "malformed tx in response: " ++ text, some status, []⟩
      else .raised kind text
  | e => e

/-- What follows once the transactions are parsed. -/
def assemble (route : String) (data meta_ : Json) (txs : List UnsignedTx) :
    Except Failure PreparedAction := do
  let info ← dictAt "get" meta_
  let fields ← dictAt "get" data
  let preconditions ← itemsOf (getOr "preconditions" (.arr []) fields)
  return {
    command := (getOr "command" (.str ("prepare." ++ route)) info).toStr
    txs := txs
    preconditions := preconditions
    description := (getOr "description" (.str "") fields).toStr
    note := (getOr "note" (.str "") fields).orEmpty
    chainId := Json.lookup "chainId" info
    extra := fields.filter fun f => f.1 ∉ envelopeKeys }

def parseEnvelope (route : String) (status : ℤ) (payload : Json) :
    Except Failure PreparedAction :=
  if status = 404 ∧ succeeded payload = false then
    .error (.txBuilder ⟨route, notDeployed route, some 404, []⟩)
  else
    match payload with
    | .obj reply =>
        if succeeded payload = false then
          let error := Json.lookup "error" reply
          .error (.txBuilder ⟨route, if error.truthy then error.toStr else "request failed",
            some status, (Json.lookup "data" reply).dictOrEmpty⟩)
        else
          let data := orDict (Json.lookup "data" reply)
          let meta_ := orDict (Json.lookup "meta" reply)
          match parseTxs data with
          | .error failure => .error (malformed route status failure)
          | .ok txs => assemble route data meta_ txs
    | _ => .error (.txBuilder ⟨route, "response is not a JSON object", some status, []⟩)

/-! ### The client -/

def routes : List String :=
  ["create-fund", "approve-depositor", "approve-depositors", "register-agent", "deposit", "propose",
    "propose-portfolio", "vote", "execute", "settle", "redeem", "identity-mint", "governor-set",
    "set-agent-fee", "owner-stake"]

/-- What the post of a body to a url comes back with: an error of the request, or a status and a JSON
body. -/
structure Client where
  baseUrl : String
  chainId : ℤ
  postJson : String → Json → Except String (ℤ × Json)

def Client.urlFor (client : Client) (route : String) : String :=
  client.baseUrl ++ "/prepare/" ++ route

/-- `{"chainId": self.chain_id, **body}`. -/
def Client.payload (client : Client) (body : List (String × Json)) : Json :=
  .obj (("chainId", getOr "chainId" (.int client.chainId) body) ::
    body.filter fun f => f.1 ≠ "chainId")

def Client.prepare (client : Client) (route : String) (body : List (String × Json)) :
    Except Failure PreparedAction :=
  if route ∈ routes then
    match client.postJson (client.urlFor route) (client.payload body) with
    | .error text => .error (.txBuilder { route := route, message := "request failed: " ++ text })
    | .ok (status, reply) => parseEnvelope route status reply
  else
    .error (.txBuilder
      { route := route
        message := "unknown route (known: " ++ String.intercalate ", " routes ++ ")" })

end SherwoodMonitor.Envelope
