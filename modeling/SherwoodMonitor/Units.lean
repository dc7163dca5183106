import Mathlib.Data.List.DropRight
import SherwoodMonitor.Library.Decimals
import SherwoodMonitor.Models

/-! Amounts (`fund/units.py`): decimal text to base units, and the unlimited approvals. -/
namespace SherwoodMonitor.Units
open PyText Decimals Models

/-- Any approval at or above 2**255 is "unlimited". -/
def unlimitedThreshold : ℤ := 2 ^ 255

/-- `ctx.prec = 100` (the default 28 would round), with the exponents of the default context. -/
def context : Context := ⟨100, 999999, by decide, by decide⟩

/-- The exception that a signal is raised as. -/
def decimalError : Signal → Exc
  | .invalidOperation => .raised .decimal "[<class 'decimal.InvalidOperation'>]"
  | .overflow => .raised .decimal "[<class 'decimal.Overflow'>]"

/-- The digits of the text that `_DECIMAL_RE` matches: sign, integer part, fraction. -/
def decimalParts? (text : String) : Option (Bool × List Char × List Char) :=
  let l := beforeDollar text
  let neg := l.head? = some '-'
  let body := if neg then l.tail else l
  let isDec := fun c => (PyUnicode.decimalValue? c).isSome
  match splitAtFirst (· = '.') body with
  | (ip, none) => if ip ≠ [] ∧ ip.all isDec then some (neg, ip, []) else none
  | (ip, some fp) =>
      if ip ≠ [] ∧ ip.all isDec ∧ fp ≠ [] ∧ fp.all isDec then some (neg, ip, fp) else none

def digitsValue (l : List Char) : ℕ :=
  l.foldl (fun acc c => acc * 10 + (PyUnicode.decimalValue? c).getD 0) 0

def withoutSeparators (amount : String) : String :=
  String.ofList ((strip amount).toList.filter fun c => c ≠ ',' ∧ c ≠ '_')

/-- `to_base_units` on text: `"1.5"` with 6 decimals is 1500000. -/
def toBaseUnits (amount : String) (decimals : ℕ) (allowNegative : Bool := false) :
    Except Exc ℤ :=
  match decimalParts? (withoutSeparators amount) with
  | none => .error (.raised .units ("not a decimal amount: " ++ reprText amount))
  | some (neg, ip, fp) =>
      let value : Dec := ⟨neg, digitsValue (ip ++ fp), -fp.length⟩
      if neg ∧ value.coeff ≠ 0 ∧ !allowNegative then
        .error (.raised .units ("amount must not be negative: " ++ reprText amount))
      else
        match value.scaleb context decimals with
        | .error signal => .error (decimalError signal)
        | .ok scaled =>
            if scaled.same scaled.toIntegralValue then .ok scaled.toInt
            else .error (.raised .units
              (reprText amount ++ " has more than " ++ toString decimals ++ " decimal places"))

/-- Trailing zeros behind a point are trimmed, and then the point itself. -/
def trimZeros (text : List Char) : List Char :=
  let trimmed := if '.' ∈ text then (text.rdropWhile (· = '0')).rdropWhile (· = '.') else text
  if trimmed = [] then ['0'] else trimmed

/-- `format_units`, without `max_places`: 1500000 with 6 decimals is `"1.5"`. -/
def formatUnits (units : ℤ) (decimals : ℕ) : Except Exc String :=
  let value : Dec := ⟨units < 0, units.natAbs, 0⟩
  match value.scaleb context (-decimals) with
  | .error signal => .error (decimalError signal)
  | .ok value => .ok (String.ofList (trimZeros value.fixed))

def unlimitedWords : List String :=
  ["max", "unlimited", "infinite", "uint256max", "type(uint256).max"]

/-- `is_unlimited` on text. -/
def isUnlimited (amount : String) : Except Exc Bool :=
  let text := lower (strip amount)
  if text ∈ unlimitedWords then .ok true
  else if startsWith text "0x" then
    .ok ((int16? text).any fun n => unlimitedThreshold ≤ n)
  else if !isDigitText text then .ok false
  else do
    let n ← pyInt text
    return unlimitedThreshold ≤ n

end SherwoodMonitor.Units
