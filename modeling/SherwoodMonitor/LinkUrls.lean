import SherwoodMonitor.Library.UrlText
import SherwoodMonitor.Links

/-! The URLs of signed links (`telegram/links.py`), and what the page that receives one reads off
it: the decoded path and query, the text that the signature is over and the request body. -/
namespace SherwoodMonitor.LinkUrls
open PyText PyJson JsonText UrlText Models ChainCard FundWrites Links

--- request bodies

/-- Compact JSON under base64, without padding. -/
def encodeSignBody (body : Json) : String :=
  String.ofList (b64url (utf8 (dumps body).toList))

/-- `none` where it raises. -/
def decodeSignBody (floatOf : List Char → ℚ × String) (encoded : String) : Option Json := do
  let bytes ← urlsafeB64decode (padded encoded.toList)
  let text ← utf8? bytes
  loads floatOf (String.ofList text)

--- URLs

def defaultAppBaseUrl : String := "https://app.sherwood.sh"

def base (baseUrl : String) : String :=
  String.ofList ((if baseUrl = "" then defaultAppBaseUrl else baseUrl).toList.rdropWhile (· = '/'))

/-- `{base}{path}?{name}={value}&…`, with the values as they are. -/
def linkUrl (baseUrl path : String) (items : List (String × String)) : String :=
  base baseUrl ++ path ++ "?" ++
    String.ofList (query (items.map fun f => (f.1.toList, f.2.toList)))

/-- A query whose empty fields are left out. -/
def imageUrl (path : String) (params : List (String × String)) (baseUrl : String) : String :=
  let items := (params.filter (·.2 ≠ "")).map fun f =>
    (quotePlus [':', ','] f.1.toList, quotePlus [':', ','] f.2.toList)
  base baseUrl ++ path ++ if items = [] then "" else "?" ++ String.ofList (query items)

def signUrlMax : ℕ := 2048

def valueError {α : Type} (text : String) : Except Exc α := .error (.raised .value text)

section builders

variable (keccak : String → ℕ → ℕ) (mac : Mac) (secret baseUrl : String)

/-- A link that opens the web app for one user. -/
def buildLink (kind : String) (tgUserId : Json) (fund governor : Option String)
    (proposalId : Json) (ts : ℤ) : Except Exc String := do
  let tg ← canonicalTg tgUserId
  if kind ∈ fundLinkKinds then
    match fund with
    | none => valueError (kind ++ " link needs fund")
    | some fund => do
        let vault ← canonicalAddress fund
        let message ← fundLinkMessage kind vault (.str tg) ts
        let sig ← signLink mac secret message
        return linkUrl baseUrl ("/tg/" ++ kind)
          [("fund", vault), ("tg", tg), ("ts", toString ts), ("sig", sig)]
  else if kind = "vote" then
    match governor, proposalId with
    | none, _ => valueError "vote link needs governor and proposal_id"
    | some _, .null => valueError "vote link needs governor and proposal_id"
    | some governor, proposalId => do
        let gov ← canonicalAddress governor
        let pid ← canonicalProposalId proposalId
        let message ← voteLinkMessage gov (.str pid) (.str tg) ts
        let sig ← signLink mac secret message
        let proposal := String.ofList (quote [':'] (gov ++ ":" ++ pid).toList)
        return linkUrl baseUrl "/tg/vote"
          [("proposal", proposal), ("tg", tg), ("ts", toString ts), ("sig", sig)]
  else valueError ("unknown link kind: " ++ reprText kind)

/-- The link of a signing page, however long. -/
def signUrl (vault action : String) (body tgUserId : Json) (ts : ℤ) : Except Exc String := do
  let v ← canonicalAddress vault
  let tg ← canonicalTg tgUserId
  let encoded := encodeSignBody body
  let message ← signLinkMessage v action encoded (.str tg) ts
  let sig ← signLink mac secret message
  return linkUrl baseUrl "/tg/sign" [("fund", v), ("action", action), ("body", encoded),
    ("tg", tg), ("ts", toString ts), ("sig", sig)]

/-- `none` where the link would be too long for a button. -/
def buildSignLink (vault action : String) (body tgUserId : Json) (ts : ℤ) :
    Except Exc (Option String) := do
  let url ← signUrl mac secret baseUrl vault action body tgUserId ts
  return if url.length ≤ signUrlMax then some url else none

def receiptImageUrl (vault : String) (proposalId author backers : Json) : Except Exc String := do
  let v ← checksumAddress keccak vault
  let pid ← proposalRef proposalId
  let msg ← receiptImageMessage keccak v (.str pid) author backers
  match msg.toList.splitOn '|' with
  | [_, _, by_, backers] => do
      let sig ← signLink mac secret msg
      return imageUrl ("/tg/receipt/" ++ v ++ "/" ++ pid ++ ".png")
        [("by", String.ofList by_), ("backers", String.ofList backers), ("sig", sig)] baseUrl
  | _ => valueError "not four values to unpack"

def memberImageUrl (vault : String) (n handle : Json) (joined : String) : Except Exc String := do
  let v ← checksumAddress keccak vault
  let msg ← memberImageMessage keccak v n handle joined
  let sig ← signLink mac secret msg
  let n ← pyIntOf n
  return imageUrl ("/tg/member/" ++ v ++ "/" ++ toString n ++ ".png")
    [("handle", socialHandle handle), ("joined", joined), ("sig", sig)] baseUrl

def leaderboardImageUrl (vault attrib window : String) : Except Exc String := do
  let v ← checksumAddress keccak vault
  let msg ← attribImageMessage keccak v attrib
  let sig ← signLink mac secret msg
  return imageUrl ("/tg/leaderboard/" ++ v ++ ".png")
    [("window", window), ("attrib", attrib), ("sig", sig)] baseUrl

/-- A call of one of the builders of signed links. -/
inductive LinkCall
  | personal (kind : String) (tgUserId : Json) (fund governor : Option String)
      (proposalId : Json) (ts : ℤ)
  | sign (vault action : String) (body tgUserId : Json) (ts : ℤ)
  | receipt (vault : String) (proposalId author backers : Json)
  | member (vault : String) (n handle : Json) (joined : String)
  | leaderboard (vault attrib window : String)

def LinkCall.build : LinkCall → Except Exc (Option String)
  | .personal kind tgUserId fund governor proposalId ts => do
      let url ← buildLink mac secret baseUrl kind tgUserId fund governor proposalId ts
      return some url
  | .sign vault action body tgUserId ts =>
      buildSignLink mac secret baseUrl vault action body tgUserId ts
  | .receipt vault proposalId author backers => do
      let url ← receiptImageUrl keccak mac secret baseUrl vault proposalId author backers
      return some url
  | .member vault n handle joined => do
      let url ← memberImageUrl keccak mac secret baseUrl vault n handle joined
      return some url
  | .leaderboard vault attrib window => do
      let url ← leaderboardImageUrl keccak mac secret baseUrl vault attrib window
      return some url

end builders

/-- What the call asks to sign. -/
def LinkCall.request : LinkCall → Request
  | .personal kind tgUserId fund governor proposalId ts =>
      if kind = "vote" then .vote (governor.getD "") proposalId tgUserId ts
      else .fund kind (fund.getD "") tgUserId ts
  | .sign vault action body tgUserId ts => .sign vault action (encodeSignBody body) tgUserId ts
  | .receipt vault proposalId author backers => .receipt vault proposalId author backers
  | .member vault n handle joined => .member vault n handle joined
  | .leaderboard vault attrib _ => .attrib vault attrib

/-- The images have no time. -/
def LinkCall.ts? : LinkCall → Option ℤ
  | .personal _ _ _ _ _ ts => some ts
  | .sign _ _ _ _ ts => some ts
  | _ => none

def LinkCall.body? : LinkCall → Option Json
  | .sign _ _ body _ _ => some body
  | _ => none

--- the receiving page

/-- The part of a path, counted from its end; one that is missing reads as empty. -/
def pathPart (url : String) (k : ℕ) : String :=
  String.ofList ((((segments (splitUrl url.toList).1)[k]?).bind id).getD [])

/-- A field of the query. -/
def param (url name : String) : String :=
  String.ofList (field name.toList (queryFields (splitUrl url.toList).2))

def dropPng (name : String) : String := String.ofList (name.toList.take (name.length - 4))

/-- The text that the page takes the signature to be over. -/
def signedText (url : String) : String :=
  if pathPart url 1 = "tg" then
    if pathPart url 0 = "vote" then
      "vote|" ++ param url "proposal" ++ "|" ++ param url "tg" ++ "|" ++ param url "ts"
    else if pathPart url 0 = "sign" then
      "sign|" ++ param url "fund" ++ "|" ++ param url "action" ++ "|" ++ param url "body" ++ "|" ++
        param url "tg" ++ "|" ++ param url "ts"
    else pathPart url 0 ++ "|" ++ param url "fund" ++ "|" ++ param url "tg" ++ "|" ++ param url "ts"
  else if pathPart url 1 = "leaderboard" then
    "attrib|" ++ dropPng (pathPart url 0) ++ "|" ++ param url "attrib"
  else if pathPart url 2 = "receipt" then
    "receipt|" ++ pathPart url 1 ++ ":" ++ dropPng (pathPart url 0) ++ "|" ++ param url "by" ++
      "|" ++ param url "backers"
  else "member|" ++ pathPart url 1 ++ ":" ++ dropPng (pathPart url 0) ++ "|" ++
    param url "handle" ++ "|" ++ param url "joined"

end SherwoodMonitor.LinkUrls
