import SherwoodMonitor.ChainCard

/-! The risk gate before a terminal command (`hooks.py`, `risk.py`). Finite floats are the rationals
that they stand for, with exact arithmetic. -/
namespace SherwoodMonitor.RiskGate
open PyUnicode PyText Models ChainCard

--- floats

inductive PyFloat
  | finite (q : ℚ)
  | infinite (negative : Bool)
  | nan
  deriving DecidableEq

namespace PyFloat

/-- A text of `float` without its sign that is no number. -/
def special (negative : Bool) (l : List Char) : Option PyFloat :=
  if lower (String.ofList l) ∈ ["inf", "infinity"] then some (.infinite negative)
  else if lower (String.ofList l) = "nan" then some .nan
  else none

/-- `float(s)`; `none` is its `ValueError`. -/
def read (s : String) : Option PyFloat :=
  match float? s with
  | some q => some (if floatLimit ≤ |q| then .infinite (q < 0) else .finite q)
  | none =>
    match stripChars s.toList with
    | '-' :: l => special true l
    | '+' :: l => special false l
    | l => special false l

def add (x : PyFloat) (q : ℚ) : PyFloat :=
  match x with
  | finite p => finite (p + q)
  | x => x

/-- The quotient by a positive number. -/
def div (x : PyFloat) (q : ℚ) : PyFloat :=
  match x with
  | finite p => finite (p / q)
  | x => x

/-- `x > limit`. -/
def exceeds (x : PyFloat) (limit : ℚ) : Bool :=
  match x with
  | finite q => limit < q
  | infinite negative => !negative
  | nan => false

/-- `int(x * 100)`. -/
def percent : PyFloat → Except Exc ℤ
  | finite q => .ok (truncate (q * 100))
  | infinite _ => .error (.raised .overflow "cannot convert float infinity to integer")
  | nan => .error (.raised .value "cannot convert float NaN to integer")

end PyFloat

--- risk.py

def maxTotalExposurePct : ℚ := 1 / 2
def maxSinglePositionPct : ℚ := 1 / 4

structure RiskVerdict where
  ok : Bool
  reason : String := ""

structure ProposeParams where
  subdomain : String
  proposedSizeUsd : PyFloat
  currentExposureUsd : ℚ
  vaultAumUsd : ℚ
  protocol : String
  allowedProtocols : List String

def checkPositionSizing (proposedSizeUsd : PyFloat) (vaultAumUsd : ℚ) : Except Exc RiskVerdict := do
  if vaultAumUsd ≤ 0 then return ⟨false, "position sizing: vault AUM is zero"⟩
  let share := proposedSizeUsd.div vaultAumUsd
  if share.exceeds maxSinglePositionPct then
    let pct ← share.percent
    return ⟨false, "position sizing: single position at " ++ toString pct ++ "% of AUM (max 25%)"⟩
  return ⟨true, ""⟩

def checkPortfolioExposure (proposedSizeUsd : PyFloat) (currentExposureUsd vaultAumUsd : ℚ) :
    Except Exc RiskVerdict := do
  if vaultAumUsd ≤ 0 then return ⟨false, "portfolio exposure: vault AUM is zero"⟩
  let share := (proposedSizeUsd.add currentExposureUsd).div vaultAumUsd
  if share.exceeds maxTotalExposurePct then
    let pct ← share.percent
    return ⟨false, "portfolio exposure would reach " ++ toString pct ++ "% of AUM (max 50%)"⟩
  return ⟨true, ""⟩

def reprList (items : List String) : String := "[" ++ ", ".intercalate (items.map reprText) ++ "]"

def checkMandateCompliance (protocol : String) (allowed : List String) : RiskVerdict :=
  if allowed = [] then ⟨true, ""⟩
  else if lower protocol ∉ allowed.map lower then
    ⟨false, "mandate compliance: protocol '" ++ protocol ++ "' not in allowed list " ++
      reprList allowed⟩
  else ⟨true, ""⟩

/-- The first verdict that is not ok; all of them are made before. -/
def evaluatePropose (params : ProposeParams) : Except Exc RiskVerdict := do
  let position ← checkPositionSizing params.proposedSizeUsd params.vaultAumUsd
  let exposure ← checkPortfolioExposure params.proposedSizeUsd params.currentExposureUsd
    params.vaultAumUsd
  let mandate := checkMandateCompliance params.protocol params.allowedProtocols
  if !position.ok then return position
  if !exposure.ok then return exposure
  if !mandate.ok then return mandate
  return ⟨true, ""⟩

--- the command

section command

variable (isWord : Char → Bool)

def dropText (text : String) (l : List Char) : Option (List Char) :=
  if text.toList.isPrefixOf l then some (l.drop text.length) else none

/-- `\s+`, before what is no blank. -/
def dropSpaces : List Char → Option (List Char)
  | [] => none
  | c :: l => if isSpace c then some (l.dropWhile isSpace) else none

def dropCommand (first second : String) (l : List Char) : Option (List Char) := do
  let l ← dropText first l
  let l ← dropSpaces l
  dropText second l

/-- `sherwood\s+(?:strategy\s+propose|proposal\s+create)\s+(\S+)` at this place. -/
def matchPropose (l : List Char) : Option String := do
  let l ← dropText "sherwood" l
  let l ← dropSpaces l
  let l ← (dropCommand "strategy" "propose" l).or (dropCommand "proposal" "create" l)
  let l ← dropSpaces l
  let word := l.takeWhile (!isSpace ·)
  if word = [] then none else some (String.ofList word)

/-- The first match of the pattern, which begins at the border of a word. -/
def searchPropose : Option Char → List Char → Option String
  | _, [] => none
  | before, c :: l =>
      (if before.any isWord then none else matchPropose (c :: l)).or (searchPropose (some c) l)

/-- Where `shlex` stands: an escaped character goes back to a word, or to a quotation. -/
inductive LexState
  | blank
  | word
  | quoted (quote : Char)
  | escaped (quote : Option Char)
  deriving DecidableEq

def isLexBlank (c : Char) : Bool := c ∈ [' ', '\t', '\r', '\n']

def isQuote (c : Char) : Bool := c ∈ ['\'', '"']

/-- The end of a token; an empty one counts only where something in it was quoted. -/
def emit (token : List Char) (quoted : Bool) (rest : List String) : List String :=
  if token = [] ∧ quoted = false then rest else String.ofList token :: rest

/-- `shlex.split` from here on; `none` is its `ValueError`. -/
def lexFrom : LexState → List Char → Bool → List Char → Option (List String)
  | .blank, _, _, [] => some []
  | .word, token, quoted, [] => some (emit token quoted [])
  | .quoted _, _, _, [] => none
  | .escaped _, _, _, [] => none
  | .blank, _, _, c :: l =>
      if isLexBlank c then lexFrom .blank [] false l
      else if c = '\\' then lexFrom (.escaped none) [] false l
      else if isQuote c then lexFrom (.quoted c) [] true l
      else lexFrom .word [c] false l
  | .word, token, quoted, c :: l =>
      if isLexBlank c then (lexFrom .blank [] false l).map (emit token quoted)
      else if isQuote c then lexFrom (.quoted c) token true l
      else if c = '\\' then lexFrom (.escaped none) token quoted l
      else lexFrom .word (token ++ [c]) quoted l
  | .quoted quote, token, _, c :: l =>
      if c = quote then lexFrom .word token true l
      else if c = '\\' ∧ quote = '"' then lexFrom (.escaped (some quote)) token true l
      else lexFrom (.quoted quote) (token ++ [c]) true l
  | .escaped none, token, quoted, c :: l => lexFrom .word (token ++ [c]) quoted l
  | .escaped (some quote), token, quoted, c :: l =>
      if c ≠ '\\' ∧ c ≠ quote then lexFrom (.quoted quote) (token ++ ['\\', c]) quoted l
      else lexFrom (.quoted quote) (token ++ [c]) quoted l

def shlexSplit (command : String) : Option (List String) := lexFrom .blank [] false command.toList

/-- The flags of all tokens: the last of each counts, and a size that is no number is passed over. -/
def readFlags : PyFloat → String → List String → PyFloat × String
  | sizeUsd, protocol, tok :: value :: rest =>
      if tok = "--size-usd" then readFlags ((PyFloat.read value).getD sizeUsd) protocol rest
      else if tok = "--protocol" then readFlags sizeUsd value rest
      else readFlags sizeUsd protocol (value :: rest)
  | sizeUsd, protocol, _ => (sizeUsd, protocol)

structure Parsed where
  subdomain : String
  sizeUsd : PyFloat
  protocol : String
  deriving DecidableEq

def parseProposeCommand (command : String) : Option Parsed := do
  let subdomain ← searchPropose isWord none command.toList
  let tokens ← shlexSplit command
  let (sizeUsd, protocol) := readFlags (.finite 0) "" tokens
  return ⟨subdomain, sizeUsd, protocol⟩

end command

--- the hook

def terminalTools : List String := ["bash", "terminal", "shell"]

/-- What a hook answers Hermes; a guard may also answer with a directive that is no block. -/
inductive Directive
  | block (reason : String)
  | other

/-- What the fund guard answers; `raised` holds its scrubbed error. -/
inductive GuardReply
  | allow
  | reason (text : String)
  | directive (d : Directive)
  | raised (text : String)

/-- The state of a vault as it is fetched; what is missing is 0 or empty. -/
structure VaultState where
  vaultAumUsd : ℚ := 0
  currentExposureUsd : ℚ := 0
  allowedProtocols : List String := []

inductive Fetched
  | failed
  | unknown
  | known (state : VaultState)

/-- The arguments of a terminal tool. -/
structure ToolArgs where
  command : String := ""

def riskParams (state : VaultState) (parsed : Parsed) : ProposeParams :=
  ⟨parsed.subdomain, parsed.sizeUsd, state.currentExposureUsd, state.vaultAumUsd, parsed.protocol,
    state.allowedProtocols⟩

/-- The hook behind the fund guard. -/
def riskHook (isWord : Char → Bool) (fetch : String → Fetched) (toolName : String) (args : ToolArgs) :
    Except Exc (Option Directive) := do
  if toolName ∉ terminalTools then return none
  match parseProposeCommand isWord args.command with
  | none => return none
  | some parsed =>
    match fetch parsed.subdomain with
    | .failed => return none
    | .unknown => return none
    | .known state =>
      let verdict ← evaluatePropose (riskParams state parsed)
      return if verdict.ok then none else some (.block verdict.reason)

abbrev Guard := String → ToolArgs → GuardReply

/-- Without a guard everything is allowed. -/
def guardReply (fundGuard : Option Guard) (toolName : String) (args : ToolArgs) : GuardReply :=
  (fundGuard.map fun guard => guard toolName args).getD .allow

def hook (isWord : Char → Bool) (fundGuard : Option Guard) (fetch : String → Fetched)
    (toolName : String) (args : ToolArgs) : Except Exc (Option Directive) :=
  match guardReply fundGuard toolName args with
  | .directive d => .ok (some d)
  | .raised text => .ok (some (.block ("fund guard error: " ++ text)))
  | .reason text =>
      if text ≠ "" then .ok (some (.block text)) else riskHook isWord fetch toolName args
  | .allow => riskHook isWord fetch toolName args

/-! ### The limits -/

/-- A proposal that the shell would make of a command. -/
structure Invocation where
  subdomain : String
  sizeUsd : ℚ
  protocol : String

def Invocation.parsed (inv : Invocation) : Parsed :=
  ⟨inv.subdomain, .finite inv.sizeUsd, inv.protocol⟩

/-- The fund's limits refuse the proposal. -/
def Exceeds (state : VaultState) (parsed : Parsed) : Prop :=
  ∃ verdict, evaluatePropose (riskParams state parsed) = .ok verdict ∧ verdict.ok = false

/-- The limits over a vault that has something. -/
def OverLimits (state : VaultState) (sizeUsd : ℚ) (protocol : String) : Prop :=
  1 / 4 < sizeUsd / state.vaultAumUsd ∨
    1 / 2 < (sizeUsd + state.currentExposureUsd) / state.vaultAumUsd ∨
    (state.allowedProtocols ≠ [] ∧ lower protocol ∉ state.allowedProtocols.map lower)

lemma mandate_ok_iff (protocol : String) (allowed : List String) :
    (checkMandateCompliance protocol allowed).ok = false ↔
      allowed ≠ [] ∧ lower protocol ∉ allowed.map lower := by
  rw [checkMandateCompliance]
  split_ifs with hnil hmem <;> simp_all

/-- A check whose ratio can be written as a percentage. -/
lemma position_finite {aum : ℚ} (haum : 0 < aum) (q : ℚ) :
    ∃ verdict, checkPositionSizing (.finite q) aum = .ok verdict ∧
      (verdict.ok = false ↔ 1 / 4 < q / aum) := by
  rw [checkPositionSizing, if_neg haum.not_ge]
  by_cases hover : 1 / 4 < q / aum
  · simp only [PyFloat.div, PyFloat.exceeds, maxSinglePositionPct, PyFloat.percent, hover]
    exact ⟨_, rfl, iff_of_true rfl trivial⟩
  · simp only [PyFloat.div, PyFloat.exceeds, maxSinglePositionPct, hover]
    exact ⟨_, rfl, by simp⟩

lemma exposure_finite {aum : ℚ} (haum : 0 < aum) (q exposure : ℚ) :
    ∃ verdict, checkPortfolioExposure (.finite q) exposure aum = .ok verdict ∧
      (verdict.ok = false ↔ 1 / 2 < (q + exposure) / aum) := by
  rw [checkPortfolioExposure, if_neg haum.not_ge]
  by_cases hover : 1 / 2 < (q + exposure) / aum
  · simp only [PyFloat.div, PyFloat.add, PyFloat.exceeds, maxTotalExposurePct, PyFloat.percent, hover]
    exact ⟨_, rfl, iff_of_true rfl trivial⟩
  · simp only [PyFloat.div, PyFloat.add, PyFloat.exceeds, maxTotalExposurePct, hover]
    exact ⟨_, rfl, by simp⟩

/-- The verdict on a proposal whose checks give verdicts. -/
lemma evaluate_of_checks {p : ProposeParams} {position exposure : RiskVerdict}
    (hposition : checkPositionSizing p.proposedSizeUsd p.vaultAumUsd = .ok position)
    (hexposure : checkPortfolioExposure p.proposedSizeUsd p.currentExposureUsd
      p.vaultAumUsd = .ok exposure) :
    ∃ verdict, evaluatePropose p = .ok verdict ∧
      (verdict.ok = false ↔ position.ok = false ∨ exposure.ok = false ∨
        (checkMandateCompliance p.protocol p.allowedProtocols).ok = false) := by
  rw [evaluatePropose, hposition, hexposure]
  obtain ⟨pok, preason⟩ := position
  obtain ⟨eok, ereason⟩ := exposure
  generalize checkMandateCompliance p.protocol p.allowedProtocols = mandate
  obtain ⟨mok, mreason⟩ := mandate
  cases pok with
  | false => exact ⟨_, rfl, by simp⟩
  | true =>
    cases eok with
    | false => exact ⟨_, rfl, by simp⟩
    | true => cases mok <;> exact ⟨_, rfl, by simp⟩

lemma evaluate_finite {state : VaultState} (haum : 0 < state.vaultAumUsd) (subdomain protocol : String)
    (q : ℚ) :
    ∃ verdict, evaluatePropose (riskParams state ⟨subdomain, .finite q, protocol⟩) = .ok verdict ∧
      (verdict.ok = false ↔ OverLimits state q protocol) := by
  obtain ⟨position, hposition, hp⟩ := position_finite haum q
  obtain ⟨exposure, hexposure, he⟩ := exposure_finite haum q state.currentExposureUsd
  obtain ⟨verdict, hverdict, hv⟩ :=
    evaluate_of_checks (p := riskParams state ⟨subdomain, .finite q, protocol⟩) hposition hexposure
  exact ⟨verdict, hverdict, hv.trans (or_congr hp (or_congr he (mandate_ok_iff protocol _)))⟩

lemma exceeds_of_empty {state : VaultState} (parsed : Parsed) (hempty : state.vaultAumUsd ≤ 0) :
    Exceeds state parsed := by
  have hposition : checkPositionSizing parsed.sizeUsd state.vaultAumUsd =
      .ok ⟨false, "position sizing: vault AUM is zero"⟩ := if_pos hempty
  have hexposure : checkPortfolioExposure parsed.sizeUsd state.currentExposureUsd state.vaultAumUsd =
      .ok ⟨false, "portfolio exposure: vault AUM is zero"⟩ := if_pos hempty
  obtain ⟨verdict, hverdict, hv⟩ := evaluate_of_checks (p := riskParams state parsed) hposition hexposure
  exact ⟨verdict, hverdict, hv.2 (Or.inl rfl)⟩

lemma exceeds_finite_iff {state : VaultState} (haum : 0 < state.vaultAumUsd)
    (subdomain protocol : String) (q : ℚ) :
    Exceeds state ⟨subdomain, .finite q, protocol⟩ ↔ OverLimits state q protocol := by
  obtain ⟨verdict, hverdict, hv⟩ := evaluate_finite haum subdomain protocol q
  refine ⟨fun ⟨verdict', h, hok⟩ => ?_, fun h => ⟨verdict, hverdict, hv.2 h⟩⟩
  rw [Except.ok.inj (hverdict.symm.trans h)] at hv
  exact hv.1 hok

/-- A larger size under the same protocol is over the limits too. -/
lemma OverLimits.mono {state : VaultState} (haum : 0 < state.vaultAumUsd) {q q' : ℚ}
    {protocol protocol' : String} (hq : q ≤ q') (hprotocol : lower protocol' = lower protocol)
    (h : OverLimits state q protocol) : OverLimits state q' protocol' := by
  rcases h with h | h | h
  · exact Or.inl (h.trans_le (by gcongr))
  · exact Or.inr (Or.inl (h.trans_le (by gcongr)))
  · exact Or.inr (Or.inr (hprotocol ▸ h))

/-- A size that is no number is refused by no vault that has something and no mandate: an infinite
one raises, and the others are over no limit. -/
lemma not_exceeds_of_not_finite {state : VaultState} (haum : 0 < state.vaultAumUsd)
    (hopen : state.allowedProtocols = []) {parsed : Parsed}
    (hsize : ∀ q, parsed.sizeUsd ≠ .finite q) : ¬Exceeds state parsed := by
  rintro ⟨verdict, hverdict, hok⟩
  have hmandate : (checkMandateCompliance parsed.protocol state.allowedProtocols).ok = true := by
    rw [checkMandateCompliance, if_pos hopen]
  have hpasses : ∀ x : PyFloat, (∀ q, x.div q = x) → (∀ q, x.add q = x) →
      (∀ q, x.exceeds q = false) → parsed.sizeUsd = x → False := by
    intro x hdiv hadd hexceeds hx
    have hposition : checkPositionSizing parsed.sizeUsd state.vaultAumUsd = .ok ⟨true, ""⟩ := by
      rw [checkPositionSizing, if_neg haum.not_ge, hx]
      simp only [hdiv, hexceeds]
      rfl
    have hexposure : checkPortfolioExposure parsed.sizeUsd state.currentExposureUsd
        state.vaultAumUsd = .ok ⟨true, ""⟩ := by
      rw [checkPortfolioExposure, if_neg haum.not_ge, hx]
      simp only [hadd, hdiv, hexceeds]
      rfl
    obtain ⟨verdict', hverdict', hv⟩ :=
      evaluate_of_checks (p := riskParams state parsed) hposition hexposure
    obtain rfl := Except.ok.inj (hverdict'.symm.trans hverdict)
    rcases hv.1 hok with h | h | h
    · exact nomatch h
    · exact nomatch h
    · exact nomatch hmandate.symm.trans h
  cases hx : parsed.sizeUsd with
  | finite q => exact hsize q hx
  | nan => exact hpasses .nan (fun _ => rfl) (fun _ => rfl) (fun _ => rfl) hx
  | infinite negative =>
    cases negative with
    | true => exact hpasses (.infinite true) (fun _ => rfl) (fun _ => rfl) (fun _ => rfl) hx
    | false =>
      -- the percentage of an infinite size is none
      have hposition : checkPositionSizing parsed.sizeUsd state.vaultAumUsd =
          .error (.raised .overflow "cannot convert float infinity to integer") := by
        rw [checkPositionSizing, if_neg haum.not_ge, hx]
        rfl
      rw [evaluatePropose, riskParams] at hverdict
      dsimp only at hverdict
      rw [hposition] at hverdict
      exact nomatch hverdict

/-! ### The gate -/

def Blocked (answer : Except Exc (Option Directive)) : Prop :=
  ∃ reason, answer = .ok (some (.block reason))

def GuardReply.Blocks : GuardReply → Prop
  | .directive (.block _) => True
  | .raised _ => True
  | .reason text => text ≠ ""
  | _ => False

def GuardReply.Passes : GuardReply → Prop
  | .allow => True
  | .reason text => text = ""
  | _ => False

/-- What is read of a command is at least this proposal: of the same fund and protocol, and of a
size that is not less. -/
def Covers (parsed : Option Parsed) (inv : Invocation) : Prop :=
  ∃ sizeUsd protocol, parsed = some ⟨inv.subdomain, .finite sizeUsd, protocol⟩ ∧
    inv.sizeUsd ≤ sizeUsd ∧ lower protocol = lower inv.protocol

lemma Covers.exceeds {parsed : Option Parsed} {inv : Invocation} (h : Covers parsed inv)
    {states : String → VaultState} (hover : Exceeds (states inv.subdomain) inv.parsed) :
    ∃ p, parsed = some p ∧ Exceeds (states p.subdomain) p := by
  obtain ⟨sizeUsd, protocol, rfl, hsize, hprotocol⟩ := h
  refine ⟨_, rfl, ?_⟩
  rcases le_or_gt (states inv.subdomain).vaultAumUsd 0 with hempty | haum
  · exact exceeds_of_empty _ hempty
  · rw [Invocation.parsed, exceeds_finite_iff haum] at hover
    exact (exceeds_finite_iff haum _ _ _).2 (hover.mono haum hsize hprotocol)

lemma not_over_room (q : ℚ) : ¬1 / 4 < q / (4 * |q| + 1) := by
  have hroom : 0 < 4 * |q| + 1 := by positivity
  rw [not_lt, div_le_iff₀ hroom]
  linarith [le_abs_self q]

lemma exists_room (parsed : Parsed) : ∃ state, ¬Exceeds state parsed := by
  obtain ⟨subdomain, size, protocol⟩ := parsed
  cases size with
  | finite q =>
    have hroom : 0 < 4 * |q| + 1 := by positivity
    refine ⟨⟨4 * |q| + 1, 0, []⟩, ?_⟩
    rw [exceeds_finite_iff hroom]
    rintro (hover | hover | ⟨hnil, -⟩)
    · exact not_over_room q hover
    · rw [add_zero] at hover
      exact not_over_room q (lt_trans (by norm_num) hover)
    · exact hnil rfl
  | _ => exact ⟨⟨1, 0, []⟩, not_exceeds_of_not_finite one_pos rfl fun q hq => (nomatch hq)⟩

/-- Of a proposal that is not covered there are vaults that refuse it, while what is read of the
command passes them. -/
lemma exists_states {parsed : Option Parsed} {inv : Invocation} (h : ¬Covers parsed inv) :
    ∃ states : String → VaultState, Exceeds (states inv.subdomain) inv.parsed ∧
      ∀ p, parsed = some p → ¬Exceeds (states p.subdomain) p := by
  cases parsed with
  | none => exact ⟨fun _ => {}, exceeds_of_empty _ le_rfl, fun p hp => (nomatch hp)⟩
  | some p =>
    obtain ⟨subdomain, size, protocol⟩ := p
    by_cases hfund : subdomain = inv.subdomain
    · subst hfund
      cases size with
      | finite q =>
        have hroom : 0 < 4 * |q| + 1 := by positivity
        have hposition := not_over_room q
        by_cases hsize : inv.sizeUsd ≤ q
        · -- the size is covered, so that the protocol is another
          have hprotocol : lower inv.protocol ≠ lower protocol := fun heq =>
            h ⟨q, protocol, rfl, hsize, heq.symm⟩
          refine ⟨fun _ => ⟨4 * |q| + 1, 0, [protocol]⟩, ?_, ?_⟩
          · rw [Invocation.parsed, exceeds_finite_iff hroom]
            exact Or.inr (Or.inr ⟨by simp, by simpa using hprotocol⟩)
          · rintro p ⟨⟩
            rw [exceeds_finite_iff hroom]
            rintro (hover | hover | ⟨-, hover⟩)
            · exact hposition hover
            · rw [add_zero] at hover
              exact hposition (lt_trans (by norm_num) hover)
            · simp at hover
        · -- the vault is filled up to where what is read still fits
          refine ⟨fun _ => ⟨4 * |q| + 1, (4 * |q| + 1) / 2 - q, []⟩, ?_, ?_⟩
          · rw [Invocation.parsed, exceeds_finite_iff hroom]
            refine Or.inr (Or.inl ?_)
            rw [lt_div_iff₀ hroom]
            linarith [not_le.1 hsize]
          · rintro p ⟨⟩
            rw [exceeds_finite_iff hroom]
            rintro (hover | hover | ⟨hnil, -⟩)
            · exact hposition hover
            · rw [lt_div_iff₀ hroom] at hover
              linarith
            · exact hnil rfl
      | _ =>
        refine ⟨fun _ => ⟨1, 1 - inv.sizeUsd, []⟩, ?_, ?_⟩
        · rw [Invocation.parsed, exceeds_finite_iff one_pos]
          refine Or.inr (Or.inl ?_)
          norm_num
        · rintro p ⟨⟩
          exact not_exceeds_of_not_finite one_pos rfl fun q hq => (nomatch hq)
    · -- another fund is read, which has room for it
      obtain ⟨state, hstate⟩ := exists_room ⟨subdomain, size, protocol⟩
      refine ⟨fun fund => if fund = inv.subdomain then {} else state, ?_, ?_⟩
      · dsimp only
        rw [if_pos rfl]
        exact exceeds_of_empty _ le_rfl
      · rintro p ⟨⟩
        dsimp only
        rwa [if_neg hfund]

lemma blocked_riskHook_iff {isWord : Char → Bool} {states : String → VaultState} {toolName : String}
    (htool : toolName ∈ terminalTools) (args : ToolArgs) :
    Blocked (riskHook isWord (fun fund => .known (states fund)) toolName args) ↔
      ∃ p, parseProposeCommand isWord args.command = some p ∧ Exceeds (states p.subdomain) p := by
  rw [riskHook, if_neg (not_not_intro htool)]
  cases hparse : parseProposeCommand isWord args.command with
  | none =>
    refine iff_of_false (fun ⟨reason, h⟩ => ?_) fun ⟨p, h, _⟩ => (nomatch h)
    exact nomatch Except.ok.inj h
  | some parsed =>
    have hsome : (∃ p, some parsed = some p ∧ Exceeds (states p.subdomain) p) ↔
        Exceeds (states parsed.subdomain) parsed := by simp
    rw [hsome, Exceeds]
    dsimp only
    cases hverdict : evaluatePropose (riskParams (states parsed.subdomain) parsed) with
    | error e =>
      exact iff_of_false (fun ⟨reason, h⟩ => (nomatch h)) fun ⟨verdict, h, _⟩ => (nomatch h)
    | ok verdict =>
      refine ⟨fun ⟨reason, h⟩ => ⟨verdict, rfl, ?_⟩, fun ⟨verdict', h, hok⟩ => ?_⟩
      · by_contra hok
        rw [Bool.not_eq_false] at hok
        simp only [bind, Except.bind, hok, if_true] at h
        exact nomatch Except.ok.inj h
      · obtain rfl := Except.ok.inj h
        refine ⟨verdict.reason, ?_⟩
        simp only [bind, Except.bind, hok]
        rfl

/-- What the guard's reply makes of the answer. -/
lemma blocked_hook_iff {isWord : Char → Bool} {fundGuard : Option Guard} {fetch : String → Fetched}
    {toolName : String} {args : ToolArgs} :
    Blocked (hook isWord fundGuard fetch toolName args) ↔
      (guardReply fundGuard toolName args).Blocks ∨
        ((guardReply fundGuard toolName args).Passes ∧ Blocked (riskHook isWord fetch toolName args)) := by
  rw [hook]
  cases guardReply fundGuard toolName args with
  | allow => simp [GuardReply.Blocks, GuardReply.Passes]
  | raised text => exact iff_of_true ⟨_, rfl⟩ (Or.inl trivial)
  | reason text =>
    by_cases htext : text = ""
    · simp [htext, GuardReply.Blocks, GuardReply.Passes]
    · dsimp only
      rw [if_pos htext]
      exact iff_of_true ⟨text, rfl⟩ (Or.inl htext)
  | directive d =>
    cases d with
    | block reason => exact iff_of_true ⟨reason, rfl⟩ (Or.inl trivial)
    | other =>
      refine iff_of_false (fun ⟨reason, h⟩ => ?_) ?_
      · exact nomatch Except.ok.inj h
      · rintro (h | ⟨h, -⟩) <;> exact h

def testCommand : String := "sherwood proposal create alpha --size-usd 30000 --protocol moonwell"

def equalsCommand : String := "sherwood proposal create alpha --size-usd=30000 --protocol=moonwell"

end SherwoodMonitor.RiskGate
