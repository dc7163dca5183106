import SherwoodMonitor.FundWrites
import SherwoodMonitor.ChainCard
import SherwoodMonitor.Library.Separated

/-! Signed links into the web app (`telegram/links.py`): the text that each link's signature is
over. Values that the source takes as `object` are the ones of a JSON text. -/
namespace SherwoodMonitor.Links
open PyUnicode PyText PyJson Models Rules ChainCard FundWrites Separated

--- canonical values

def fundLinkKinds : List String := ["join", "deposit", "withdraw"]

def signActions : List String :=
  ["approve-depositor", "approve-depositors", "register-agent", "propose-portfolio", "propose",
   "set-agent-fee"]

/-- Lowercase `0x` and 40 hex digits. -/
def canonicalAddress (address : String) : Except Exc String := do
  raiseIf (isAddress (strip address) = false) .value ("not an EVM address: " ++ reprText address)
  return lower (strip address)

/-- The class `[0-9A-Za-z_-]`. -/
def isTokenChar (c : Char) : Bool := c.isAlphanum || c = '_' || c = '-'

/-- `^[0-9A-Za-z_-]{1,78}$`. -/
def isProposalId (text : String) : Bool :=
  let l := beforeDollar text
  1 ≤ l.length && l.length ≤ 78 && l.all isTokenChar

def canonicalProposalId (proposalId : Json) : Except Exc String := do
  let text := strip proposalId.toStr
  raiseIf (isProposalId text = false) .value ("bad proposal id: " ++ proposalId.reprJson)
  return text

def canonicalTg (tgUserId : Json) : Except Exc String := do
  let tg ← pyIntOf tgUserId
  raiseIf (tg ≤ 0) .value "telegram user id must be positive"
  return toString tg

/-- The class `[A-Za-z0-9_]`. -/
def isHandleChar (c : Char) : Bool := c.isAlphanum || c = '_'

/-- A Telegram username for a card. -/
def socialHandle (handle : Json) : String :=
  let l := handle.orEmpty.toList.dropWhile (· = '@')
  String.ofList ((l.filter isHandleChar).take 32)

def proposalRef (proposalId : Json) : Except Exc String := do
  let pid := strip proposalId.toStr
  raiseIf (isDigitText pid = false) .value
    ("share cards need the on-chain proposal id, got " ++ proposalId.reprJson)
  return pid

/-- `^\d{4}-\d{2}-\d{2}$`. -/
def isDate (s : String) : Bool :=
  let digit := fun c => (decimalValue? c).isSome
  match beforeDollar s with
  | [y₁, y₂, y₃, y₄, '-', m₁, m₂, '-', d₁, d₂] => [y₁, y₂, y₃, y₄, m₁, m₂, d₁, d₂].all digit
  | _ => false

/-- A letter of the address in uppercase where the digest's digit is 8 or more. -/
def checksumChar (digit : ℕ) (c : Char) : Char :=
  if c.isAlpha ∧ 8 ≤ digit then c.toUpper else c

section messages

variable (keccak : String → ℕ → ℕ)

/-- EIP-55; `keccak` has the hex digits of a text's digest, by their places. -/
def checksumAddress (address : String) : Except Exc String := do
  let canonical ← canonicalAddress address
  let l := canonical.toList.drop 2
  return "0x" ++ String.ofList
    (l.zipIdx.map fun (c, i) => checksumChar (keccak (String.ofList l) i) c)

--- messages

def fundLinkMessage (kind vault : String) (tgUserId : Json) (ts : ℤ) : Except Exc String := do
  raiseIf (kind ∉ fundLinkKinds) .value ("not a fund link kind: " ++ reprText kind)
  let vault ← canonicalAddress vault
  let tg ← canonicalTg tgUserId
  return kind ++ "|" ++ vault ++ "|" ++ tg ++ "|" ++ toString ts

def voteLinkMessage (governor : String) (proposalId tgUserId : Json) (ts : ℤ) :
    Except Exc String := do
  let governor ← canonicalAddress governor
  let proposalId ← canonicalProposalId proposalId
  let tg ← canonicalTg tgUserId
  return "vote|" ++ governor ++ ":" ++ proposalId ++ "|" ++ tg ++ "|" ++ toString ts

def signLinkMessage (vault action bodyB64 : String) (tgUserId : Json) (ts : ℤ) :
    Except Exc String := do
  raiseIf (action ∉ signActions) .value ("unknown signing action: " ++ reprText action)
  let vault ← canonicalAddress vault
  let tg ← canonicalTg tgUserId
  return "sign|" ++ vault ++ "|" ++ action ++ "|" ++ bodyB64 ++ "|" ++ tg ++ "|" ++ toString ts

/-- `str(int(backers))`, or "" where none are given. -/
def backersText (backers : Json) : Except Exc String :=
  if strip backers.toStr ∉ ["", "None"] then do
    let n ← pyIntOf backers
    return toString n
  else .ok ""

def receiptImageMessage (vault : String) (proposalId author backers : Json) :
    Except Exc String := do
  let backers ← backersText backers
  let vault ← checksumAddress keccak vault
  let proposalId ← proposalRef proposalId
  return "receipt|" ++ vault ++ ":" ++ proposalId ++ "|" ++ socialHandle author ++ "|" ++ backers

def memberImageMessage (vault : String) (n handle : Json) (joined : String) :
    Except Exc String := do
  raiseIf (joined ≠ "" ∧ isDate joined = false) .value "joined must be YYYY-MM-DD"
  let vault ← checksumAddress keccak vault
  let n ← pyIntOf n
  return "member|" ++ vault ++ ":" ++ toString n ++ "|" ++ socialHandle handle ++ "|" ++ joined

def attribImageMessage (vault attrib : String) : Except Exc String := do
  let vault ← checksumAddress keccak vault
  return "attrib|" ++ vault ++ "|" ++ attrib

end messages

--- signatures

def isLowerHex (c : Char) : Bool :=
  (48 ≤ c.toNat && c.toNat ≤ 57) || (97 ≤ c.toNat && c.toNat ≤ 102)

/-- `hex(hmac_sha256(secret, message))`. -/
structure Mac where
  hexdigest : String → String → String
  hex : ∀ secret message, ∀ c ∈ (hexdigest secret message).toList, isLowerHex c = true

def signLink (mac : Mac) (secret message : String) : Except Exc String := do
  raiseIf (secret = "") .value "link secret is empty"
  return mac.hexdigest secret message

/-- `hmac.compare_digest` on text, which must be ASCII. -/
def compareDigest (a b : String) : Except Exc Bool := do
  raiseIf (∃ c ∈ a.toList ++ b.toList, 128 ≤ c.toNat) .type
    "comparing strings with non-ASCII characters is not supported"
  return a = b

def linkFutureSkewS : ℤ := 5 * 60

def recommendedLinkTtlS : ℤ := 15 * 60

/-- The reference verifier. -/
def verifyLinkSignature (mac : Mac) (secret message sig : String) (ts : ℤ) (now : Time)
    (maxAgeS futureSkewS : ℤ) : Except Exc Bool :=
  if now + futureSkewS < ts ∨ (maxAgeS : ℚ) < now - ts then .ok false
  else do
    let expected ← signLink mac secret message
    compareDigest expected (lower (strip sig))

--- what a link is issued for

/-- What a link builder is given to sign. -/
inductive Request
  | fund (kind vault : String) (tgUserId : Json) (ts : ℤ)
  | vote (governor : String) (proposalId tgUserId : Json) (ts : ℤ)
  | sign (vault action bodyB64 : String) (tgUserId : Json) (ts : ℤ)
  | receipt (vault : String) (proposalId author backers : Json)
  | member (vault : String) (n handle : Json) (joined : String)
  | attrib (vault attrib : String)

/-- The kind of a link and its canonical parameters. -/
inductive Canonical
  | fund (kind vault tg : String) (ts : ℤ)
  | vote (governor proposalId tg : String) (ts : ℤ)
  | sign (vault action bodyB64 tg : String) (ts : ℤ)
  | receipt (vault proposalId author backers : String)
  | member (vault : String) (n : ℤ) (handle joined : String)
  | attrib (vault attrib : String)
  deriving DecidableEq

variable (keccak : String → ℕ → ℕ)

/-- The text that the builder of this link signs. -/
def message : Request → Except Exc String
  | .fund kind vault tgUserId ts => fundLinkMessage kind vault tgUserId ts
  | .vote governor proposalId tgUserId ts => voteLinkMessage governor proposalId tgUserId ts
  | .sign vault action bodyB64 tgUserId ts => signLinkMessage vault action bodyB64 tgUserId ts
  | .receipt vault proposalId author backers =>
      receiptImageMessage keccak vault proposalId author backers
  | .member vault n handle joined => memberImageMessage keccak vault n handle joined
  | .attrib vault attrib => attribImageMessage keccak vault attrib

/-- Its parameters once canonicalised. -/
def canonical : Request → Except Exc Canonical
  | .fund kind vault tgUserId ts => do
      let vault ← canonicalAddress vault
      let tg ← canonicalTg tgUserId
      return .fund kind vault tg ts
  | .vote governor proposalId tgUserId ts => do
      let governor ← canonicalAddress governor
      let proposalId ← canonicalProposalId proposalId
      let tg ← canonicalTg tgUserId
      return .vote governor proposalId tg ts
  | .sign vault action bodyB64 tgUserId ts => do
      let vault ← canonicalAddress vault
      let tg ← canonicalTg tgUserId
      return .sign vault action bodyB64 tg ts
  | .receipt vault proposalId author backers => do
      let backers ← backersText backers
      let vault ← checksumAddress keccak vault
      let proposalId ← proposalRef proposalId
      return .receipt vault proposalId (socialHandle author) backers
  | .member vault n handle joined => do
      let vault ← checksumAddress keccak vault
      let n ← pyIntOf n
      return .member vault n (socialHandle handle) joined
  | .attrib vault attrib => do
      let vault ← checksumAddress keccak vault
      return .attrib vault attrib

end SherwoodMonitor.Links
