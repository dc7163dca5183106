import Mathlib.Algebra.Order.Floor.Semiring
import Mathlib.Data.Rat.Floor
import SherwoodMonitor.Library.JsonRecords

/-! What Python makes of a JSON value: `int`, `float`, iteration, and membership in a set of
strings. `none` stands for the exception. -/
namespace SherwoodMonitor.PyConvert
open PyText PyJson JsonRecords

/-- A float, with the values that are no number. -/
inductive Num
  | fin (q : ℚ)
  | inf (negative : Bool)
  | nan
  deriving DecidableEq

namespace Num

def add : Num → Num → Num
  | fin a, fin b => fin (a + b)
  | fin _, inf n => inf n
  | inf n, fin _ => inf n
  | inf n, inf m => if n = m then inf n else nan
  | _, _ => nan

/-- `0 < x`. -/
def positive : Num → Bool
  | fin q => 0 < q
  | inf negative => !negative
  | nan => false

/-- `x / total`, for a positive `total`. -/
def divPositive : Num → Num → Num
  | fin a, fin b => fin (a / b)
  | fin _, inf _ => fin 0
  | inf n, fin _ => inf n
  | _, _ => nan

/-- `round(x * 100, 2)`. -/
def percent : Num → Num
  | fin q =>
      let scaled := q * 10000
      let down := ⌊scaled⌋
      let rest := scaled - down
      let cents := if rest < 1 / 2 ∨ rest = 1 / 2 ∧ down % 2 = 0 then down else down + 1
      fin (cents / 100)
  | x => x

/-- `threshold <= x`. -/
def atLeast (threshold : ℚ) : Num → Bool
  | fin q => threshold ≤ q
  | inf negative => !negative
  | nan => false

end Num

/-- The least integer that `float` refuses. -/
def floatLimit : ℕ := 2 ^ 1024 - 2 ^ 970

def toInt : Json → Option ℤ
  | .int n => some n
  | .bool b => some (if b then 1 else 0)
  | .float q _ => some (if 0 ≤ q then ⌊q⌋ else ⌈q⌉)
  | .str s => int? s
  | _ => none

/-- The spellings of the floats that are no numbers. -/
def specialFloat? (s : String) : Option Num :=
  let (negative, l) : Bool × List Char :=
    match (lower (strip s)).toList with
    | '-' :: l => (true, l)
    | '+' :: l => (false, l)
    | l => (false, l)
  let word := String.ofList l
  if word = "inf" ∨ word = "infinity" then some (.inf negative)
  else if word = "nan" then some .nan
  else none

def toFloat : Json → Option Num
  | .int n => if n.natAbs < floatLimit then some (.fin n) else none
  | .bool b => some (.fin (if b then 1 else 0))
  | .float q _ => some (.fin q)
  | .str s => ((float? s).map Num.fin).or (specialFloat? s)
  | _ => none

/-- The items of `for item in v`. -/
def iterate : Json → Option (List Json)
  | .arr items => some items
  | .str s => some (s.toList.map fun c => .str (String.ofList [c]))
  | .obj fields => some (fields.map fun f => .str f.1)
  | _ => none

/-- `v in words`, which a list or a dict does not answer. -/
def inWords (words : List String) : Json → Option Bool
  | .str s => some (words.contains s)
  | .arr _ => none
  | .obj _ => none
  | _ => some false

/-- The value can be a key of a dict. -/
def isHashable : Json → Bool
  | .arr _ => false
  | .obj _ => false
  | _ => true

/-- `d.get(key, default)`. -/
def getOr (key : String) (default : Json) (d : List (String × Json)) : Json :=
  (entry key d).getD default

end SherwoodMonitor.PyConvert
