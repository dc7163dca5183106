import Mathlib.Data.List.Forall2
import SherwoodMonitor.Library.PyJson

/-! Records kept as JSON objects: reading a typed field by its key, and when two values hold the
same record although one of them has keys the record does not know. -/
namespace SherwoodMonitor.JsonRecords
open PyJson

/-- Why a record cannot be read. An `untyped` entry is one Python would keep as it is, with a
value outside the field's declared type. -/
inductive ReadErr (ε : Type)
  | missing (key : String)
  | untyped (key : String)
  | raised (e : ε)

variable {ε α : Type}

abbrev Read (ε : Type) := Except (ReadErr ε)

def raising (x : Except ε α) : Read ε α := x.mapError ReadErr.raised

@[simp] lemma raising_ok (a : α) : raising (.ok a : Except ε α) = .ok a := rfl

@[simp] lemma ok_bind {β : Type} (a : α) (f : α → Read ε β) :
    (Except.ok a >>= f : Read ε β) = f a := rfl

def entry (key : String) (d : List (String × Json)) : Option Json :=
  (d.find? fun e => e.1 = key).map (·.2)

lemma lookup_eq_entry (key : String) (d : List (String × Json)) :
    Json.lookup key d = (entry key d).getD .null := rfl

/-- A required argument of the record's constructor. -/
def field (key : String) (read : String → Json → Read ε α) (d : List (String × Json)) :
    Read ε α :=
  match entry key d with
  | none => .error (.missing key)
  | some v => read key v

def fieldOr (key : String) (default : α) (read : String → Json → Read ε α)
    (d : List (String × Json)) : Read ε α :=
  match entry key d with
  | none => .ok default
  | some v => read key v

def text (key : String) : Json → Read ε String
  | .str s => .ok s
  | _ => .error (.untyped key)

def integer (key : String) : Json → Read ε ℤ
  | .int n => .ok n
  | _ => .error (.untyped key)

def flag (key : String) : Json → Read ε Bool
  | .bool b => .ok b
  | _ => .error (.untyped key)

def number? : Json → Option ℚ
  | .int n => some n
  | .float q _ => some q
  | _ => none

def number (key : String) (v : Json) : Read ε ℚ :=
  match number? v with
  | some q => .ok q
  | none => .error (.untyped key)

def orNone (read : String → Json → Read ε α) (key : String) (v : Json) : Read ε (Option α) :=
  match v with
  | .null => .ok none
  | v => some <$> read key v

def ofOption (write : α → Json) : Option α → Json
  | none => .null
  | some a => write a

variable {key : String} {d : List (String × Json)} {v : Json}

@[simp] lemma text_str (s : String) : (text key (.str s) : Read ε String) = .ok s := rfl
@[simp] lemma integer_int (n : ℤ) : (integer key (.int n) : Read ε ℤ) = .ok n := rfl
@[simp] lemma flag_bool (b : Bool) : (flag key (.bool b) : Read ε Bool) = .ok b := rfl

@[simp] lemma entry_cons_self : entry key ((key, v) :: d) = some v := by simp [entry]

@[simp] lemma entry_cons_of_ne {k : String} (h : k ≠ key) : entry key ((k, v) :: d) = entry key d := by
  simp [entry, h]

lemma field_of_entry {read : String → Json → Read ε α} (h : entry key d = some v) :
    field key read d = read key v := by
  simp only [field, h]

lemma fieldOr_of_entry {default : α} {read : String → Json → Read ε α}
    (h : entry key d = some v) : fieldOr key default read d = read key v := by
  simp only [fieldOr, h]

lemma lookup_of_entry (h : entry key d = some v) : Json.lookup key d = v := by
  rw [lookup_eq_entry, h]
  rfl

@[simp] lemma orNone_integer (o : Option ℤ) :
    (orNone integer key (ofOption Json.int o) : Read ε (Option ℤ)) = .ok o := by
  cases o with
  | none => rfl
  | some n => rfl

/-- How numbers are spelled: a JSON number of that value, an integer one only below the limit. -/
structure NumberText (limit : ℤ) where
  json : ℚ → Json
  spelled : ∀ q, (∃ s, json q = .float q s) ∨ ∃ n : ℤ, json q = .int n ∧ q = n ∧ |n| < limit

namespace NumberText
variable {limit : ℤ} (t : NumberText limit)

@[simp] lemma number_json (q : ℚ) : (number key (t.json q) : Read ε ℚ) = .ok q := by
  rcases t.spelled q with ⟨s, hs⟩ | ⟨n, hn, rfl, -⟩
  · rw [hs]
    rfl
  · rw [hn]
    rfl

lemma json_ne_null (q : ℚ) : t.json q ≠ .null := by
  rcases t.spelled q with ⟨s, hs⟩ | ⟨n, hn, -⟩
  · simp [hs]
  · simp [hn]

/-- An optional number reads back under any reader that reads its spelling. -/
lemma orNone_ofOption {read : String → Json → Read ε ℚ} (hread : ∀ q, read key (t.json q) = .ok q)
    (o : Option ℚ) : orNone read key (ofOption t.json o) = .ok o := by
  cases o with
  | none => rfl
  | some q =>
    have hnull := t.json_ne_null q
    simp only [ofOption, orNone, hread]
    rfl

@[simp] lemma orNone_number (o : Option ℚ) :
    (orNone number key (ofOption t.json o) : Read ε (Option ℚ)) = .ok o :=
  t.orNone_ofOption t.number_json o

end NumberText

/-- When two JSON values hold the same value of a type. -/
abbrev Same := Json → Json → Prop

/-- The two objects have the same entry under each of the record's keys; a key the record does not
know may stand in either, at any place. -/
def record (fields : List (String × Same)) : Same
  | .obj d, .obj d' => ∀ f ∈ fields,
      entry f.1 d = none ∧ entry f.1 d' = none ∨
        ∃ v v', entry f.1 d = some v ∧ entry f.1 d' = some v' ∧ f.2 v v'
  | v, v' => v = v'

/-- Every field holds a plain value. -/
def plain (keys : List String) : List (String × Same) := keys.map fun key => (key, Eq)

def items (same : Same) : Same
  | .arr vs, .arr vs' => List.Forall₂ same vs vs'
  | v, v' => v = v'

variable {fields : List (String × Same)} {same : Same}

lemma record_refl (hfields : ∀ f ∈ fields, ∀ v, f.2 v v) (v : Json) : record fields v v := by
  cases v with
  | obj d =>
    intro f hf
    cases he : entry f.1 d with
    | none => exact .inl ⟨rfl, rfl⟩
    | some w => exact .inr ⟨w, w, rfl, rfl, hfields f hf w⟩
  | _ => rfl

lemma items_refl (hsame : ∀ v, same v v) (v : Json) : items same v v := by
  cases v with
  | arr vs => exact List.forall₂_same.2 fun w _ => hsame w
  | _ => rfl

lemma plain_refl {keys : List String} : ∀ f ∈ plain keys, ∀ v, f.2 v v := by
  intro f hf v
  obtain ⟨key, -, rfl⟩ := List.mem_map.1 hf
  rfl

/-- What is the same record as an object is one itself. -/
lemma record_obj {j : Json} (h : record fields (.obj d) j) : ∃ d', j = .obj d' := by
  cases j with
  | obj d' => exact ⟨d', rfl⟩
  | _ => cases h

lemma entry_of_record {d' : List (String × Json)} (h : record fields (.obj d) (.obj d'))
    (hmem : (key, same) ∈ fields) (hv : entry key d = some v) :
    ∃ v', entry key d' = some v' ∧ same v v' := by
  rcases h _ hmem with ⟨hnone, -⟩ | ⟨w, w', hw, hw', hsame⟩
  · rw [hv] at hnone
    cases hnone
  · obtain rfl : v = w := Option.some.inj (hv.symm.trans hw)
    exact ⟨w', hw', hsame⟩

lemma entry_of_plain {keys : List String} {d' : List (String × Json)}
    (h : record fields (.obj d) (.obj d')) (hplain : plain keys ⊆ fields) :
    ∀ key ∈ keys, entry key d' = entry key d := by
  intro key hkey
  rcases h _ (hplain (List.mem_map.2 ⟨key, hkey, rfl⟩)) with ⟨hd, hd'⟩ | ⟨w, w', hw, hw', rfl⟩
  · rw [hd, hd']
  · rw [hw, hw']

lemma entry_insert {other : String} (hne : other ≠ key) (w : Json) (l r : List (String × Json)) :
    entry key (l ++ (other, w) :: r) = entry key (l ++ r) := by
  simp [entry, List.find?_append, hne]

/-- A key the record does not know may be added at any place. -/
lemma record_insert {v : Json} {l r : List (String × Json)} (h : record fields v (.obj (l ++ r)))
    {other : String} (hother : ∀ f ∈ fields, other ≠ f.1) (w : Json) :
    record fields v (.obj (l ++ (other, w) :: r)) := by
  cases v with
  | obj d =>
    intro f hf
    rw [entry_insert (hother f hf)]
    exact h f hf
  | _ => cases h

/-- A list of records is read item by item. -/
lemma mapM_of_items {write : α → Json} {read : Json → Read ε α}
    (hread : ∀ a v, same (write a) v → read v = .ok a) (as : List α) (vs : List Json)
    (h : List.Forall₂ same (as.map write) vs) : vs.mapM read = .ok as := by
  induction as generalizing vs with
  | nil =>
    obtain rfl : vs = [] := by simpa using h
    rfl
  | cons a as ih =>
    obtain ⟨v, vs, hv, hvs, rfl⟩ := List.forall₂_cons_left_iff.1 h
    rw [List.mapM_cons, hread a v hv, ih vs hvs]
    rfl

end SherwoodMonitor.JsonRecords
