import SherwoodMonitor.Library.PyConvert

/-! The records of a fund's stream (`models.py`). -/
namespace SherwoodMonitor.Records
open PyText PyJson PyConvert

/-- What the conversions of `decode_record` raise. -/
inductive Raised
  | valueError
  | typeError
  | overflowError
  deriving DecidableEq

/-- A float with one of these texts has no value, and the one held with it is not read. -/
def isInfinite (text : String) : Bool := text = "inf" || text = "-inf"
def isSpecial (text : String) : Bool := isInfinite text || text = "nan"

/-- `int(v)`. -/
def intOf : Json → Except Raised ℤ
  | .int n => .ok n
  | .bool b => .ok (if b then 1 else 0)
  | .float q text =>
      if isInfinite text then .error .overflowError
      else if isSpecial text then .error .valueError
      else .ok (if 0 ≤ q then ⌊q⌋ else ⌈q⌉)
  | .str s =>
      match int? s with
      | some n => .ok n
      | none => .error .valueError
  | _ => .error .typeError

/-- The number that a key equals. -/
def keyNumber : Json → Option ℚ
  | .int n => some n
  | .bool b => some (if b then 1 else 0)
  | .float q text => if isSpecial text then none else some q
  | _ => none

/-- Two keys are one key of a dict. -/
def sameKey : Json → Json → Bool
  | .str a, .str b => a = b
  | .null, .null => true
  | a, b =>
      match keyNumber a, keyNumber b with
      | some x, some y => x = y
      | none, none =>
          match a, b with
          | .float _ s, .float _ t => s = t && isInfinite s
          | _, _ => false
      | _, _ => false

abbrev Args := List (Json × Json)

/-- `d[key] = value`; a key that is there stays in its place. -/
def setKey (args : Args) (pair : Json × Json) : Args :=
  if args.any fun e => sameKey e.1 pair.1 then
    args.map fun e => if sameKey e.1 pair.1 then (e.1, pair.2) else e
  else args ++ [pair]

/-- An item of the sequence that `dict` is given. -/
def pairOf (item : Json) : Except Raised (Json × Json) :=
  match iterate item with
  | none => .error .typeError
  | some [k, v] => if isHashable k then .ok (k, v) else .error .typeError
  | some _ => .error .valueError

def pairsOf : List Json → Except Raised Args
  | [] => .ok []
  | item :: items => do
      let pair ← pairOf item
      let pairs ← pairsOf items
      return pair :: pairs

/-- `dict(v)`. -/
def dictOf : Json → Except Raised Args
  | .obj fields => .ok (fields.map fun f => (.str f.1, f.2))
  | v =>
      match iterate v with
      | none => .error .typeError
      | some items => return (← pairsOf items).foldl setKey []

structure ChainEvent where
  type : String
  block : ℤ
  tx : String
  args : Args

structure SessionMessage where
  id : String
  type : String
  text : String
  sentAt : String
  from_ : String

inductive Record
  | chain (ev : ChainEvent)
  | message (msg : SessionMessage)

/-- `str(raw.get(key, ""))`. -/
def textOf (key : String) (raw : List (String × Json)) : String := (getOr key (.str "") raw).toStr

/-- `raw.get("source")`, where that is a text. -/
def sourceOf (raw : List (String × Json)) : Option String :=
  match Json.lookup "source" raw with
  | .str source => some source
  | _ => none

/-- `decode_record`. -/
def decodeRecord : Json → Except Raised Record
  | .obj raw =>
      if sourceOf raw = some "chain" then do
        let block ← intOf (getOr "block" (.int 0) raw)
        let args ← dictOf (getOr "args" (.obj []) raw)
        return .chain { type := textOf "type" raw, block, tx := textOf "tx" raw, args }
      else if sourceOf raw = some "xmtp" then
        .ok (.message
          { id := textOf "id" raw, type := textOf "type" raw, text := textOf "text" raw,
            sentAt := textOf "sentAt" raw, from_ := textOf "from" raw })
      else .error .valueError
  | _ => .error .valueError

/-! ### The records that are not decoded -/

/-- What `int` has no conversion for, and what it converts. -/
def blockRefused : Json → Bool
  | .null => true
  | .arr _ => true
  | .obj _ => true
  | .float _ text => isInfinite text
  | _ => false

def blockTaken : Json → Bool
  | .int _ => true
  | .bool _ => true
  | .float _ text => !isSpecial text
  | .str s => (int? s).isSome
  | _ => false

/-- An item that is no sequence, or a pair whose key is no key of a dict. -/
def itemRefused : Json → Bool
  | .null => true
  | .bool _ => true
  | .int _ => true
  | .float _ _ => true
  | .arr [k, _] => !isHashable k
  | _ => false

def itemTaken : Json → Bool
  | .arr [k, _] => isHashable k
  | .str s => s.length = 2
  | .obj fields => fields.length = 2
  | _ => false

/-- What is neither a mapping nor a sequence, or a list whose first item that is no pair is
refused. -/
def argsRefused : Json → Bool
  | .null => true
  | .bool _ => true
  | .int _ => true
  | .float _ _ => true
  | .arr items => (items.dropWhile itemTaken).head?.any itemRefused
  | _ => false

/-- A chain record with a block or arguments of a kind that `int` and `dict` do not take. -/
def illTyped : Json → Bool
  | .obj raw =>
      sourceOf raw = some "chain" &&
        (blockRefused (getOr "block" (.int 0) raw) ||
          blockTaken (getOr "block" (.int 0) raw) && argsRefused (getOr "args" (.obj []) raw))
  | _ => false

/-- Something other than `ValueError` is raised. -/
def Escapes {α : Type} : Except Raised α → Prop
  | .error .valueError => False
  | .error _ => True
  | .ok _ => False

lemma escapes_intOf (v : Json) : Escapes (intOf v) ↔ blockRefused v = true := by
  cases v with
  | float q text =>
    simp only [intOf, blockRefused]
    split_ifs <;> simp_all [Escapes]
  | str s =>
    simp only [intOf, blockRefused]
    cases int? s <;> simp [Escapes]
  | _ => simp [intOf, blockRefused, Escapes]

lemma intOf_ok (v : Json) : (∃ n, intOf v = .ok n) ↔ blockTaken v = true := by
  cases v with
  | float q text =>
    simp only [intOf, blockTaken]
    split_ifs <;> simp_all [isSpecial]
  | str s =>
    simp only [intOf, blockTaken]
    cases int? s <;> simp
  | _ => simp [intOf, blockTaken]

lemma pairOf_cases (item : Json) :
    itemTaken item = true ∧ (∃ pair, pairOf item = .ok pair) ∨
    itemTaken item = false ∧ itemRefused item = true ∧ pairOf item = .error .typeError ∨
    itemTaken item = false ∧ itemRefused item = false ∧ pairOf item = .error .valueError := by
  cases item with
  | arr items =>
    match items with
    | [] => simp [itemTaken, itemRefused, pairOf, iterate]
    | [k] => simp [itemTaken, itemRefused, pairOf, iterate]
    | [k, v] => cases hk : isHashable k <;> simp [itemTaken, itemRefused, pairOf, iterate, hk]
    | _ :: _ :: _ :: _ => simp [itemTaken, itemRefused, pairOf, iterate]
  | str s =>
    obtain ⟨l, rfl⟩ : ∃ l, s = String.ofList l := ⟨s.toList, (String.ofList_toList).symm⟩
    match l with
    | [] => simp [itemTaken, itemRefused, pairOf, iterate]
    | [c] => simp [itemTaken, itemRefused, pairOf, iterate]
    | [c, d] => simp [itemTaken, itemRefused, pairOf, iterate, isHashable]
    | _ :: _ :: _ :: _ =>
      simp only [itemTaken, itemRefused, pairOf, iterate]
      simp
      omega
  | obj fields =>
    match fields with
    | [] => simp [itemTaken, itemRefused, pairOf, iterate]
    | [f] => simp [itemTaken, itemRefused, pairOf, iterate]
    | [f, g] => simp [itemTaken, itemRefused, pairOf, iterate, isHashable]
    | _ :: _ :: _ :: _ => simp [itemTaken, itemRefused, pairOf, iterate]
  | _ => simp [itemTaken, itemRefused, pairOf, iterate]

lemma escapes_pairsOf (items : List Json) :
    Escapes (pairsOf items) ↔ (items.dropWhile itemTaken).head?.any itemRefused = true := by
  induction items with
  | nil => simp [pairsOf, Escapes]
  | cons item items ih =>
    rcases pairOf_cases item with ⟨htaken, pair, hpair⟩ | ⟨htaken, hrefused, hpair⟩ |
      ⟨htaken, hrefused, hpair⟩
    · rw [List.dropWhile_cons_of_pos htaken, ← ih, pairsOf, hpair]
      cases pairsOf items with
      | ok pairs => simp [bind, Except.bind, pure, Except.pure, Escapes]
      | error e => simp [bind, Except.bind, Escapes]
    · rw [List.dropWhile_cons_of_neg (by simp [htaken]), pairsOf, hpair]
      simp [bind, Except.bind, Escapes, hrefused]
    · rw [List.dropWhile_cons_of_neg (by simp [htaken]), pairsOf, hpair]
      simp [bind, Except.bind, Escapes, hrefused]

lemma escapes_dictOf (v : Json) : Escapes (dictOf v) ↔ argsRefused v = true := by
  cases v with
  | arr items =>
    rw [argsRefused, ← escapes_pairsOf, dictOf, iterate]
    · dsimp only
      cases pairsOf items with
      | ok pairs => simp [bind, Except.bind, pure, Except.pure, Escapes]
      | error e => simp [bind, Except.bind, Escapes]
    · rintro _ ⟨⟩
  | str s =>
    -- a character is a sequence of length 1
    have hchars : ∀ l : List Char,
        ¬ Escapes (pairsOf (l.map fun c => .str (String.ofList [c]))) := by
      rintro (_ | ⟨c, l⟩)
      · simp [pairsOf, Escapes]
      · simp [pairsOf, pairOf, iterate, bind, Except.bind, Escapes]
    have hs := hchars s.toList
    rw [dictOf, iterate]
    · dsimp only
      cases hpairs : pairsOf (s.toList.map fun c => .str (String.ofList [c])) with
      | ok pairs => simp [bind, Except.bind, pure, Except.pure, Escapes, argsRefused]
      | error e =>
        rw [hpairs] at hs
        simpa [bind, Except.bind, argsRefused] using hs
    · rintro _ ⟨⟩
  | obj fields => simp [dictOf, argsRefused, Escapes]
  | _ => simp [dictOf, argsRefused, iterate, Escapes]

/-- `decode_record` raises something other than `ValueError` for the ill-typed chain records
only. -/
lemma escapes_decodeRecord (raw : Json) :
    Escapes (decodeRecord raw) ↔ illTyped raw = true := by
  cases raw with
  | obj raw =>
    rw [decodeRecord, illTyped]
    split_ifs with hchain hxmtp
    · have hint := escapes_intOf (getOr "block" (.int 0) raw)
      have hok := intOf_ok (getOr "block" (.int 0) raw)
      have hdict := escapes_dictOf (getOr "args" (.obj []) raw)
      rw [decide_eq_true hchain, Bool.true_and, Bool.or_eq_true, Bool.and_eq_true, ← hint,
        ← hok, ← hdict]
      cases intOf (getOr "block" (.int 0) raw) with
      | error e => cases e <;> simp [bind, Except.bind, Escapes]
      | ok block =>
        cases dictOf (getOr "args" (.obj []) raw) with
        | error e => cases e <;> simp [bind, Except.bind, Escapes]
        | ok args => simp [bind, Except.bind, pure, Except.pure, Escapes]
    · simp [hchain, Escapes]
    · simp [hchain, Escapes]
  | _ => simp [decodeRecord, illTyped, Escapes]

end SherwoodMonitor.Records
