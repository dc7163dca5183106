import SherwoodMonitor.FramedContext
import SherwoodMonitor.LinkUrls
import SherwoodMonitor.LiveEdits
import SherwoodMonitor.PayloadCodecs
import SherwoodMonitor.Library.NumberText

/-! Proposal and draft cards (`telegram/cards.py`). Floats are the rationals that they stand for, and
`fl` takes a number to the float that an operation gives. -/
namespace SherwoodMonitor.CardText
open PyUnicode PyText PyJson Models FundWrites Links LinkUrls PayloadCodecs FramedContext NumberText
open LiveEdits

--- Views

structure Person where
  tgId : ℤ
  username : Option String := none
  firstName : Option String := none
  lastName : Option String := none

structure Leg where
  symbol : String
  weightBps : ℤ

/-- The fields of a `ProposalView` that its cards read. -/
structure ProposalView where
  id : String
  proposer : String
  thesis : String
  legs : List Leg := []
  maxCapital : ℚ := 0
  maxDrawdownBps : ℤ := 0
  bondWood : ℚ := 0
  status : String := "draft"
  backers : List ℤ := []
  objectors : List ℤ := []
  ideaBy : Option ℤ := none
  votingEndsAt : Option ℤ := none
  againstBps : ℤ := 0
  thresholdBps : ℤ
  capitalSymbol : String := "USDC"
  onchainId : Option ℤ := none
  reviewEndsAt : Option ℤ := none
  guardianCoverage : String := ""
  bondBufferStatus : String := ""
  bondBufferNote : String := ""

def ProposalView.displayId (p : ProposalView) : String := (p.onchainId.map toString).getD p.id

/-- The fields of a `FundView` that a proposal's card reads. -/
structure FundView where
  vault : String
  nav : ℚ

abbrev People := ℤ → Option Person

/-- The upper-cased first character of a name. -/
def initial (name : String) : List Char := ((strip name).toList.head?.map upperChar).getD []

def Person.handle (person : Person) : String :=
  match given person.username with
  | some username => "@" ++ String.ofList (username.toList.dropWhile (· = '@'))
  | none =>
    let initials := ([person.firstName, person.lastName].filterMap id).flatMap initial
    if initials = [] then "user" ++ toString person.tgId else String.ofList initials

--- Formatting

def meterCells : ℕ := 8
def goalCells : ℕ := 10
def maxAvatars : ℕ := 5
def thesisMax : ℕ := 600

def statusChips : List (String × String) :=
  [("draft", "📝 DRAFT"), ("proposed", "📨 PROPOSED"), ("voting", "🗳 VOTING"), ("passed", "✅ PASSED"),
   ("review", "🛡 GUARDIAN REVIEW"), ("approved", "🛡 GUARDIAN APPROVED"), ("vetoed", "⛔ VETOED"),
   ("executed", "⚡ EXECUTED"), ("settled", "🏁 SETTLED"), ("cancelled", "✖️ CANCELLED")]

def esc (text : String) : String := String.ofList (escapeHtml text.toList)

def NearInteger (fl : ℚ → ℚ) (v : ℚ) : Prop := |fl (v - roundHalfEven v)| < fl (1 / 10 ^ 9)

instance (fl : ℚ → ℚ) (v : ℚ) : Decidable (NearInteger fl v) := inferInstanceAs (Decidable (_ < _))

variable (fl : ℚ → ℚ)

def fmtAmount (value : ℚ) : String :=
  String.ofList <|
    if NearInteger fl value then groupedInt (roundHalfEven value) else trimZeros (fixed grouped 2 value)

def fmtUsd (value : ℚ) : String := "$" ++ String.ofList (fixed grouped 2 value)

/-- With the defaults of `fmt_pct`: no sign and one decimal. -/
def fmtPct (bps : ℤ) : String := String.ofList (fixed plainDigits 1 (fl (fl bps / 100))) ++ "%"

def fmtWeight (bps : ℤ) : String :=
  let pct := fl (fl bps / 100)
  (if NearInteger fl pct then toString (roundHalfEven pct)
    else String.ofList (trimZeros (fixed plainDigits 2 pct))) ++ "%"

def bar (fraction : ℚ) (cells : ℕ) : String :=
  let frac := max 0 (min 1 fraction)
  let floored := (fl (fl (frac * cells) + fl (1 / 10 ^ 9))).floor
  let filled := if 0 < frac ∧ floored = 0 then 1 else floored
  String.ofList (List.replicate filled.toNat '▮' ++ List.replicate (cells - filled).toNat '░')

def vetoMeter (againstBps thresholdBps : ℤ) : String :=
  let threshold := max 1 thresholdBps
  "Against " ++ fmtPct fl againstBps ++ " " ++ bar fl (fl (againstBps / threshold)) meterCells ++ " " ++
    fmtWeight fl threshold

def countdown (endsAt : Option ℤ) (now : ℚ) : String :=
  match endsAt with
  | none => ""
  | some endsAt =>
    let remaining := fl (fl endsAt - now)
    if remaining ≤ 0 then "voting closed"
    else if remaining < 60 then "ends in <1m"
    else
      let minutes := (fl (remaining / 60)).ceil
      if minutes < 60 then "ends in " ++ toString minutes ++ "m"
      else
        let hours := minutes / 60
        if hours < 24 then
          "ends in " ++ toString hours ++ "h " ++ String.ofList (padded 2 (minutes % 60).toNat) ++ "m"
        else "ends in " ++ toString (hours / 24) ++ "d " ++ toString (hours % 24) ++ "h"

def goalBar (maxCapital nav : ℚ) : String :=
  if nav ≤ 0 then ""
  else
    let frac := fl (maxCapital / nav)
    bar fl frac goalCells ++ " " ++ toString (roundHalfEven (fl (frac * 100))) ++ "% of NAV"

def statusChip (status : String) : String :=
  ((statusChips.find? fun e => e.1 = lower status).map (·.2)).getD
    (upper (if status = "" then "?" else status))

/-- The handle as it is before it is escaped. -/
def handleText (tgId : ℤ) (people : People) : String :=
  ((people tgId).map Person.handle).getD ("user" ++ toString tgId)

def personHandle (tgId : Option ℤ) (people : People) : String :=
  match tgId with
  | none => "someone"
  | some tgId => esc (handleText tgId people)

def unique (ids : List ℤ) : List ℤ :=
  ids.foldl (fun seen i => if i ∈ seen then seen else seen ++ [i]) []

def avatars (ids : List ℤ) (people : People) : String :=
  let shown := ((unique ids).take maxAvatars).map fun i => personHandle (some i) people
  let extra := (unique ids).length - shown.length
  " ".intercalate (shown ++ if 0 < extra then ["+" ++ toString extra] else [])

def legText (leg : Leg) : String :=
  if 0 < leg.weightBps then
    "<b>" ++ esc leg.symbol ++ "</b>" ++ " " ++ fmtWeight fl leg.weightBps
  else esc leg.symbol

def legsLine (p : ProposalView) : String := " · ".intercalate (p.legs.map (legText fl))

/-- ` (≈$…)` where the price is known. -/
def usdNote (wood : ℚ) (woodUsd : Option ℚ) : String :=
  match woodUsd.filter (· ≠ 0) with
  | some price => " (≈" ++ fmtUsd (fl (wood * price)) ++ ")"
  | none => ""

/-- `round(v, decimals)`. -/
def roundTo (decimals : ℕ) (v : ℚ) : ℚ := fl (roundHalfEven (v * 10 ^ decimals) / 10 ^ decimals)

def bondLine (bondWood : ℚ) (woodUsd : Option ℚ) : String :=
  "bond " ++ fmtAmount fl (roundTo fl 2 bondWood) ++ " WOOD" ++ usdNote fl bondWood woodUsd ++
    " · agent's skin in the game"

/-- A text within a limit that is positive; blanks before the cut go. -/
def shortened (text : String) (limit : ℕ) : String :=
  if text.length ≤ limit then text
  else String.ofList ((text.toList.take (limit - 1)).rdropWhile isSpace) ++ "…"

def thesisText (text : String) : String := shortened (strip text) thesisMax

def thesis (text : String) : String := esc (thesisText text)

def short (text : String) (limit : ℕ) : String := esc (shortened (oneLine text) limit)

--- Keyboards

inductive ButtonAction
  | callbackData (data : String)
  | url (url : String)
  deriving DecidableEq

structure Button where
  text : String
  action : ButtonAction
  deriving DecidableEq

abbrev Keyboard := List (List Button)

def kb (rows : Keyboard) : Keyboard := rows.filter (· ≠ [])

def callbackButton (text action arg : String) : Except Exc Button := do
  let data ← cb action (.str arg)
  return ⟨text, .callbackData data⟩

def fundPageUrl (vault baseUrl : String) : Except Exc String := do
  let address ← canonicalAddress vault
  return base baseUrl ++ "/tg/fund/" ++ address

def viewButton (vault baseUrl : String) : Except Exc Button := do
  let url ← fundPageUrl vault baseUrl
  return ⟨"📊 View fund", .url url⟩

--- Cards

def capitalLine (p : ProposalView) : String :=
  "Max capital " ++ "<b>" ++ fmtAmount fl p.maxCapital ++ " " ++ esc p.capitalSymbol ++ "</b>" ++
    " · max drawdown " ++ "<b>" ++ fmtPct fl p.maxDrawdownBps ++ "</b>"

def goalLines (p : ProposalView) (fund : Option FundView) : List String :=
  match fund with
  | none => []
  | some fund =>
    let goal := goalBar fl p.maxCapital fund.nav
    if goal ≠ "" then ["Size " ++ goal] else []

def legsLines (p : ProposalView) : List String :=
  if legsLine fl p ≠ "" then [legsLine fl p] else []

def meteredStatuses : List String :=
  ["voting", "passed", "review", "approved", "vetoed", "executed", "settled"]

/-- The clock beside the veto meter. -/
def meterClock (p : ProposalView) (now : ℚ) : String :=
  if lower p.status = "voting" then countdown fl p.votingEndsAt now else ""

def meterLines (p : ProposalView) (now : ℚ) : List String :=
  if lower p.status ∈ meteredStatuses then
    let meter := vetoMeter fl p.againstBps p.thresholdBps
    let clock := meterClock fl p now
    [if clock ≠ "" then meter ++ " · " ++ clock else meter]
  else []

def coverNote (p : ProposalView) : String :=
  if p.guardianCoverage ≠ "" then " · coverage " ++ esc p.guardianCoverage else ""

/-- `str.replace` behind the characters that are still those of a replaced text. -/
def replaceFrom (old new : List Char) : ℕ → List Char → List Char
  | _, [] => []
  | 0, c :: l =>
      if old.isPrefixOf (c :: l) then new ++ replaceFrom old new (old.length - 1) l
      else c :: replaceFrom old new 0 l
  | skip + 1, _ :: l => replaceFrom old new skip l

def reviewClock (p : ProposalView) (now : ℚ) : String :=
  String.ofList (replaceFrom "voting closed".toList "review closed".toList 0
    (countdown fl p.reviewEndsAt now).toList)

def guardianLines (p : ProposalView) (now : ℚ) : List String :=
  if lower p.status = "review" then
    let clock := reviewClock fl p now
    ["🛡 Guardian review" ++ (if clock ≠ "" then " · " ++ clock else "") ++ coverNote p]
  else if lower p.status = "approved" then ["🛡 Guardian approved" ++ coverNote p]
  else []

def joined (items : List String) : List String :=
  if items ≠ [] then [" · ".intercalate items] else []

def socialLines (p : ProposalView) (people : People) : List String :=
  joined ((if p.backers ≠ [] then ["👍 " ++ avatars p.backers people] else []) ++
    if p.objectors ≠ [] then ["❌ " ++ avatars p.objectors people] else [])

def creditLines (p : ProposalView) (people : People) : List String :=
  joined ((p.ideaBy.map fun tgId => "idea by " ++ personHandle (some tgId) people).toList ++
    if p.proposer ≠ "" then ["agent " ++ esc p.proposer] else [])

def closingLines (p : ProposalView) : List String :=
  if lower p.status = "voting" then
    ["", "<i>" ++ "Only Against counts. Silence = pass unless Against reaches " ++
      fmtWeight fl p.thresholdBps ++ " of shares before the window ends." ++ "</i>"]
  else if lower p.status = "vetoed" then
    ["<i>" ++ "Vetoed. The agent's bond comes back at once." ++ "</i>"]
  else []

def proposalLines (p : ProposalView) (fund : Option FundView) (people : People)
    (woodUsd : Option ℚ) (now : ℚ) : List String :=
  [statusChip (lower p.status) ++ " · " ++ "<b>" ++ "Proposal #" ++ esc p.displayId ++ "</b>",
    "<i>" ++ thesis p.thesis ++ "</i>", ""] ++ legsLines fl p ++ [capitalLine fl p] ++
  goalLines fl p fund ++ [""] ++ meterLines fl p now ++ guardianLines fl p now ++
  socialLines p people ++ creditLines p people ++ [bondLine fl p.bondWood woodUsd] ++
  closingLines fl p

def rstrip (s : String) : String := String.ofList (s.toList.rdropWhile isSpace)

def proposalText (p : ProposalView) (fund : Option FundView) (people : People)
    (woodUsd : Option ℚ) (now : ℚ) : String :=
  rstrip ("\n".intercalate (proposalLines fl p fund people woodUsd now))

def backRow (p : ProposalView) : Except Exc (List Button) := do
  if lower p.status ∈ ["proposed", "voting"] then
    let count := if p.backers ≠ [] then " · " ++ toString p.backers.dedup.length else ""
    let back ← callbackButton ("👍 Back it" ++ count) "back" p.id
    if lower p.status = "voting" then
      let objectButton ← callbackButton "❌ Object" "vote" p.id
      return [back, objectButton]
    else return [back]
  else return []

def viewRow (fund : Option FundView) (baseUrl : String) : Except Exc (List Button) := do
  match fund with
  | none => return []
  | some fund =>
    let view ← viewButton fund.vault baseUrl
    return [view]

def renderProposalCard (p : ProposalView) (fund : Option FundView) (people : People)
    (woodUsd : Option ℚ) (baseUrl : String) (now : ℚ) : Except Exc (String × Keyboard) := do
  let first ← backRow p
  let second ← viewRow fund baseUrl
  return (proposalText fl p fund people woodUsd now, kb [first, second])

def bondBufferLines : List (String × String) :=
  [("swap", "🔁 bond buffer: the WOOD swap goes first in the bundle"),
   ("insufficient-usdg", "⚠️ the proposer's USDG can't pay the WOOD swap: fund it before propose"),
   ("premium-over-cap",
    "⚠️ the WOOD swap is priced over the feed cap: host, accept it on the signing page or fund WOOD"),
   ("unavailable", "⚠️ the bond-buffer swap is unavailable: fund the proposer with WOOD"),
   ("no-route", "⚠️ no USDG→WOOD route: fund the proposer with WOOD")]

def bondBufferLine (p : ProposalView) : String :=
  match bondBufferLines.find? fun e => e.1 = lower p.bondBufferStatus with
  | some (_, line) =>
      if p.bondBufferNote ≠ "" then line ++ " (" ++ short p.bondBufferNote 120 ++ ")" else line
  | none => ""

def shortfallLines (shortfall woodUsd : Option ℚ) : List String :=
  match shortfall with
  | none => []
  | some wood =>
    if 0 < wood then
      ["needs ~" ++ fmtAmount fl (roundTo fl 1 wood) ++ " WOOD" ++ usdNote fl wood woodUsd ++
        ", swapping…"]
    else []

/-- Whose idea a draft is. -/
def ideaNote (ideaBy : Option ℤ) (people : People) : String :=
  match ideaBy with
  | none => ""
  | some tgId => " · from " ++ personHandle (some tgId) people ++ "'s idea"

def draftLines (p : ProposalView) (fund : Option FundView) (people : People)
    (woodUsd shortfall : Option ℚ) : List String :=
  [statusChip "draft" ++ " · " ++ "<b>" ++ "Draft #" ++ esc p.id ++ "</b>" ++
      ideaNote p.ideaBy people,
    "<i>" ++ thesis p.thesis ++ "</i>", ""] ++ legsLines fl p ++ [capitalLine fl p] ++
  goalLines fl p fund ++ (if p.proposer ≠ "" then ["agent " ++ esc p.proposer] else []) ++
  [bondLine fl p.bondWood woodUsd] ++ shortfallLines fl shortfall woodUsd ++
  (if bondBufferLine p ≠ "" then [bondBufferLine p] else []) ++
  ["", "<i>" ++ "Host: 🚀 Ship it sends this to a vote." ++ "</i>"]

def draftText (p : ProposalView) (fund : Option FundView) (people : People)
    (woodUsd shortfall : Option ℚ) : String :=
  "\n".intercalate (draftLines fl p fund people woodUsd shortfall)

def renderDraftCard (p : ProposalView) (fund : Option FundView) (people : People)
    (woodUsd shortfall : Option ℚ) (requiresHostCosign : Bool) :
    Except Exc (String × Keyboard) := do
  let ship ← callbackButton "🚀 Ship it" "shipit" p.id
  if requiresHostCosign then
    let cosign ← callbackButton "✍️ Co-sign (host)" "propose" p.id
    return (draftText fl p fund people woodUsd shortfall, kb [[ship, cosign]])
  else return (draftText fl p fund people woodUsd shortfall, kb [[ship]])

end SherwoodMonitor.CardText
