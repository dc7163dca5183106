import Mathlib.Data.Rat.Defs
import SherwoodMonitor.Library.PyText

/-! JSON values as `json.loads` returns them, with the Python views of a value that callers use:
truth, `dict.get`, `str` and the conversions to numbers. -/
namespace SherwoodMonitor.PyJson
open PyText

/-- A number with a fraction or an exponent is a `float`: its value, and its text under `str`. -/
inductive Json
  | null
  | bool (b : Bool)
  | int (n : ℤ)
  | float (value : ℚ) (text : String)
  | str (s : String)
  | arr (items : List Json)
  | obj (fields : List (String × Json))

namespace Json

/-- `bool(v)`. -/
def truthy : Json → Bool
  | null => false
  | bool b => b
  | int n => n ≠ 0
  | float q _ => q ≠ 0
  | str s => s ≠ ""
  | arr items => !items.isEmpty
  | obj fields => !fields.isEmpty

/-- `d.get(key)` on the entries of a dict; a missing key reads as `None`. -/
def lookup (key : String) (fields : List (String × Json)) : Json :=
  ((fields.find? fun f => f.1 = key).map (·.2)).getD null

def hasKey (key : String) (fields : List (String × Json)) : Bool :=
  fields.any fun f => f.1 = key

mutual

/-- `repr(v)`. -/
def reprJson : Json → String
  | null => "None"
  | bool true => "True"
  | bool false => "False"
  | int n => toString n
  | float _ text => text
  | str s => reprText s
  | arr items => "[" ++ String.intercalate ", " (reprItems items) ++ "]"
  | obj fields => "\x7b" ++ String.intercalate ", " (reprFields fields) ++ "\x7d"

def reprItems : List Json → List String
  | [] => []
  | v :: vs => reprJson v :: reprItems vs

def reprFields : List (String × Json) → List String
  | [] => []
  | (k, v) :: fs => (reprText k ++ ": " ++ reprJson v) :: reprFields fs

end

/-- `str(v)`. -/
def toStr : Json → String
  | str s => s
  | v => reprJson v

/-- `str(v or "")`. -/
def orEmpty (v : Json) : String := if v.truthy then v.toStr else ""

/-- Whether `v in (None, "")`. -/
def isBlank : Json → Bool
  | null => true
  | str s => s = ""
  | _ => false

def fieldsOf : Json → Option (List (String × Json))
  | obj fields => some fields
  | _ => none

/-- `v if isinstance(v, dict) else {}`, by its entries. -/
def dictOrEmpty (v : Json) : List (String × Json) := v.fieldsOf.getD []

end Json

end SherwoodMonitor.PyJson
