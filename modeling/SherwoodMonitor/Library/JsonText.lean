import Mathlib.Data.List.Sort
import SherwoodMonitor.Library.PyJson
import SherwoodMonitor.Library.PyNumber

/-! JSON text as `json.dumps` writes it with `separators=(",", ":")` and `sort_keys=True`, and as
`json.loads` reads it. What is written reads back. -/
namespace SherwoodMonitor.JsonText
open PyUnicode PyText PyNumber PyJson

/-! ### Writing -/

def hex4 (n : ℕ) : List Char :=
  [Nat.digitChar (n / 4096), Nat.digitChar (n / 256 % 16), Nat.digitChar (n / 16 % 16),
   Nat.digitChar (n % 16)]

/-- The characters that have an escape of their own, with the letter of it. -/
def shortEscapes : List (Char × Char) :=
  [('"', '"'), ('\\', '\\'), ('\n', 'n'), ('\r', 'r'), ('\t', 't'), ('\x08', 'b'), ('\x0c', 'f')]

/-- A character beyond the 16 bits of one escape takes a surrogate pair. -/
def escapeChar (c : Char) : List Char :=
  match shortEscapes.find? (·.1 = c) with
  | some (_, letter) => ['\\', letter]
  | none =>
      if 32 ≤ c.toNat ∧ c.toNat ≤ 126 then [c]
      else if c.toNat < 0x10000 then '\\' :: 'u' :: hex4 c.toNat
      else '\\' :: 'u' :: hex4 (0xd800 + (c.toNat - 0x10000) / 1024) ++
        '\\' :: 'u' :: hex4 (0xdc00 + (c.toNat - 0x10000) % 1024)

def quoted (s : String) : List Char := '"' :: s.toList.flatMap escapeChar ++ ['"']

mutual

def dumpsChars : Json → List Char
  | .null => ['n', 'u', 'l', 'l']
  | .bool true => ['t', 'r', 'u', 'e']
  | .bool false => ['f', 'a', 'l', 's', 'e']
  | .int n => (toString n).toList
  | .float _ text => text.toList
  | .str s => quoted s
  | .arr [] => ['[', ']']
  | .arr (v :: vs) => '[' :: dumpsChars v ++ itemsChars vs
  | .obj [] => ['\x7b', '\x7d']
  | .obj ((k, v) :: fs) => '\x7b' :: quoted k ++ ':' :: dumpsChars v ++ fieldsChars fs

/-- The items behind the first one, and the closing bracket. -/
def itemsChars : List Json → List Char
  | [] => [']']
  | v :: vs => ',' :: dumpsChars v ++ itemsChars vs

def fieldsChars : List (String × Json) → List Char
  | [] => ['\x7d']
  | (k, v) :: fs => ',' :: quoted k ++ ':' :: dumpsChars v ++ fieldsChars fs

end

mutual

/-- The value with the entries of each dict in the order of their keys. -/
def sortKeys : Json → Json
  | .arr items => .arr (sortItems items)
  | .obj fields => .obj ((sortFields fields).insertionSort fun a b => a.1 ≤ b.1)
  | v => v

def sortItems : List Json → List Json
  | [] => []
  | v :: vs => sortKeys v :: sortItems vs

def sortFields : List (String × Json) → List (String × Json)
  | [] => []
  | (k, v) :: fs => (k, sortKeys v) :: sortFields fs

end

def dumps (v : Json) : String := String.ofList (dumpsChars (sortKeys v))

/-! ### Reading -/

def skipWs (l : List Char) : List Char := l.dropWhile (· ∈ [' ', '\t', '\n', '\r'])

def hexDigit? (c : Char) : Option ℕ :=
  if 48 ≤ c.toNat ∧ c.toNat ≤ 57 then some (c.toNat - 48)
  else if 97 ≤ c.toNat ∧ c.toNat ≤ 102 then some (c.toNat - 87)
  else if 65 ≤ c.toNat ∧ c.toNat ≤ 70 then some (c.toNat - 55)
  else none

def hex4? : List Char → Option (ℕ × List Char)
  | a :: b :: c :: d :: l => do
      let a ← hexDigit? a
      let b ← hexDigit? b
      let c ← hexDigit? c
      let d ← hexDigit? d
      return (((a * 16 + b) * 16 + c) * 16 + d, l)
  | _ => none

/-- What stands behind `\u`; half a surrogate pair is no character. -/
def readUnicode (l : List Char) : Option (Char × List Char) := do
  let (n, l) ← hex4? l
  if n < 0xd800 ∨ 0xdfff < n then some (Char.ofNat n, l)
  else
    match l with
    | '\\' :: 'u' :: l => do
        let (m, l) ← hex4? l
        if n < 0xdc00 ∧ 0xdc00 ≤ m ∧ m < 0xe000 then
          some (Char.ofNat (0x10000 + (n - 0xd800) * 1024 + (m - 0xdc00)), l)
        else none
    | _ => none

/-- The next character of a string that is not at its end. -/
def readChar : List Char → Option (Char × List Char)
  | [] => none
  | c :: l =>
      if c = '\\' then
        match l with
        | [] => none
        | e :: l =>
            if e = 'u' then readUnicode l
            else if e = '/' then some ('/', l)
            else (shortEscapes.find? (·.2 = e)).map fun p => (p.1, l)
      else if c.toNat < 32 then none
      else some (c, l)

/-- The text up to the closing quote. -/
def scanString : ℕ → List Char → Option (List Char × List Char)
  | 0, _ => none
  | n + 1, l =>
      if l.head? = some '"' then some ([], l.tail)
      else do
        let (c, l) ← readChar l
        let (s, l) ← scanString n l
        return (c :: s, l)

def intPart : List Char → Option (List Char × List Char)
  | [] => none
  | c :: l =>
      if c = '0' then some (['0'], l)
      else if c.isDigit then some (c :: l.takeWhile Char.isDigit, l.dropWhile Char.isDigit)
      else none

/-- A mark and the digits behind it, where there are any. -/
def digitsAfter (mark : List Char) (l : List Char) : Option (List Char × List Char) :=
  if (l.takeWhile Char.isDigit).isEmpty then none
  else some (mark ++ l.takeWhile Char.isDigit, l.dropWhile Char.isDigit)

def fracPart (l : List Char) : List Char × List Char :=
  match l with
  | '.' :: rest => (digitsAfter ['.'] rest).getD ([], l)
  | _ => ([], l)

def expPart (l : List Char) : List Char × List Char :=
  match l with
  | [] => ([], l)
  | e :: rest =>
      if e = 'e' ∨ e = 'E' then
        match rest with
        | sign :: digits =>
            if sign = '+' ∨ sign = '-' then (digitsAfter [e, sign] digits).getD ([], l)
            else (digitsAfter [e] rest).getD ([], l)
        | [] => ([], l)
      else ([], l)

section
variable (floatOf : List Char → ℚ × String)

/-- A number; `floatOf` is `float` with its `repr`. -/
def scanNumber (l : List Char) : Option (Json × List Char) := do
  let sign := if l.head? = some '-' then ['-'] else []
  let (whole, l) ← intPart (if l.head? = some '-' then l.tail else l)
  let (frac, l) := fracPart l
  let (expo, l) := expPart l
  if frac = [] ∧ expo = [] then do
    let n ← int? (String.ofList (sign ++ whole))
    return (.int n, l)
  else
    let (q, text) := floatOf (sign ++ whole ++ frac ++ expo)
    return (.float q text, l)

/-- `d[key] = v`. -/
def setEntry (key : String) (v : Json) (fields : List (String × Json)) : List (String × Json) :=
  if fields.any (·.1 = key) then fields.map fun f => if f.1 = key then (key, v) else f
  else fields ++ [(key, v)]

def dictOf (pairs : List (String × Json)) : List (String × Json) :=
  pairs.foldl (fun d p => setEntry p.1 p.2 d) []

mutual

def readValue : ℕ → List Char → Option (Json × List Char)
  | 0, _ => none
  | _ + 1, 'n' :: 'u' :: 'l' :: 'l' :: l => some (.null, l)
  | _ + 1, 't' :: 'r' :: 'u' :: 'e' :: l => some (.bool true, l)
  | _ + 1, 'f' :: 'a' :: 'l' :: 's' :: 'e' :: l => some (.bool false, l)
  | _ + 1, '"' :: l => do
      let (s, l) ← scanString l.length l
      return (.str (String.ofList s), l)
  | n + 1, '[' :: l =>
      let l := skipWs l
      if l.head? = some ']' then some (.arr [], l.tail)
      else do
        let (v, l) ← readValue n l
        let (vs, l) ← readItems n (skipWs l)
        return (.arr (v :: vs), l)
  | n + 1, '\x7b' :: l =>
      let l := skipWs l
      if l.head? = some '\x7d' then some (.obj [], l.tail)
      else do
        let (f, l) ← readField n l
        let (fs, l) ← readFields n (skipWs l)
        return (.obj (dictOf (f :: fs)), l)
  | _ + 1, l => scanNumber floatOf l

def readItems : ℕ → List Char → Option (List Json × List Char)
  | 0, _ => none
  | _ + 1, ']' :: l => some ([], l)
  | n + 1, ',' :: l => do
      let (v, l) ← readValue n (skipWs l)
      let (vs, l) ← readItems n (skipWs l)
      return (v :: vs, l)
  | _ + 1, _ => none

def readField : ℕ → List Char → Option ((String × Json) × List Char)
  | 0, _ => none
  | n + 1, '"' :: l => do
      let (k, l) ← scanString l.length l
      match skipWs l with
      | ':' :: l => do
          let (v, l) ← readValue n (skipWs l)
          return ((String.ofList k, v), l)
      | _ => none
  | _ + 1, _ => none

def readFields : ℕ → List Char → Option (List (String × Json) × List Char)
  | 0, _ => none
  | _ + 1, '\x7d' :: l => some ([], l)
  | n + 1, ',' :: l => do
      let (f, l) ← readField n (skipWs l)
      let (fs, l) ← readFields n (skipWs l)
      return (f :: fs, l)
  | _ + 1, _ => none

end

/-- `json.loads(s)`; `none` where it raises. -/
def loads (s : String) : Option Json := do
  let (v, l) ← readValue floatOf s.toList.length (skipWs s.toList)
  if skipWs l = [] then some v else none

end

/-! ### Strings read back -/

lemma hexDigit?_digitChar {d : ℕ} (hd : d < 16) : hexDigit? (Nat.digitChar d) = some d := by
  have hall : ∀ d < 16, hexDigit? (Nat.digitChar d) = some d := by decide
  exact hall d hd

lemma hex4?_hex4 {n : ℕ} (hn : n < 65536) (r : List Char) :
    hex4? (hex4 n ++ r) = some (n, r) := by
  have hsum : ((n / 4096 * 16 + n / 256 % 16) * 16 + n / 16 % 16) * 16 + n % 16 = n := by omega
  have h₁ := hexDigit?_digitChar (d := n / 4096) (by omega)
  have h₂ := hexDigit?_digitChar (d := n / 256 % 16) (by omega)
  have h₃ := hexDigit?_digitChar (d := n / 16 % 16) (by omega)
  have h₄ := hexDigit?_digitChar (d := n % 16) (by omega)
  simp [hex4, hex4?, h₁, h₂, h₃, h₄, hsum]

lemma toNat_valid (c : Char) : c.toNat < 0xd800 ∨ (0xdfff < c.toNat ∧ c.toNat < 0x110000) :=
  c.valid

/-- Two escapes are read as one character. -/
lemma readUnicode_pair {n m : ℕ} (hn : 0xd800 ≤ n ∧ n < 0xdc00) (hm : 0xdc00 ≤ m ∧ m < 0xe000)
    (r : List Char) :
    readUnicode (hex4 n ++ '\\' :: 'u' :: (hex4 m ++ r)) =
      some (Char.ofNat (0x10000 + (n - 0xd800) * 1024 + (m - 0xdc00)), r) := by
  rw [readUnicode, hex4?_hex4 (by omega)]
  simp only [Option.bind_eq_bind, Option.bind_some]
  rw [if_neg (by omega), hex4?_hex4 (by omega)]
  simp only [Option.bind_some]
  rw [if_pos (by omega)]

lemma readUnicode_single {c : Char} (hc : c.toNat < 0x10000) (r : List Char) :
    readUnicode (hex4 c.toNat ++ r) = some (c, r) := by
  have hvalid := toNat_valid c
  rw [readUnicode, hex4?_hex4 (by omega)]
  simp only [Option.bind_eq_bind, Option.bind_some]
  rw [if_pos (by omega), Char.ofNat_toNat]

lemma shortEscapes_read : ∀ p ∈ shortEscapes, p.2 ≠ 'u' ∧ p.2 ≠ '/' ∧
    shortEscapes.find? (·.2 = p.2) = some p := by
  decide

lemma readChar_escapeChar (c : Char) (r : List Char) :
    readChar (escapeChar c ++ r) = some (c, r) := by
  rw [escapeChar]
  cases hshort : shortEscapes.find? (·.1 = c) with
  | some p =>
    obtain ⟨hu, hslash, hfind⟩ := shortEscapes_read p (List.mem_of_find?_eq_some hshort)
    have hc : p.1 = c := by simpa using List.find?_some hshort
    simp [readChar, hu, hslash, hfind, hc]
  | none =>
    have hne : c ≠ '\\' := by
      rintro rfl
      exact absurd hshort (by decide)
    simp only
    split_ifs with hprint hsmall
    · simp [readChar, hne, Nat.not_lt.2 hprint.1]
    · simpa [readChar] using readUnicode_single hsmall r
    · have hvalid := toNat_valid c
      have hcode : 0x10000 + (0xd800 + (c.toNat - 0x10000) / 1024 - 0xd800) * 1024 +
          (0xdc00 + (c.toNat - 0x10000) % 1024 - 0xdc00) = c.toNat := by
        omega
      have hpair := readUnicode_pair (n := 0xd800 + (c.toNat - 0x10000) / 1024)
        (m := 0xdc00 + (c.toNat - 0x10000) % 1024) (by omega) (by omega) r
      rw [hcode, Char.ofNat_toNat] at hpair
      simpa [readChar] using hpair

lemma head?_escapeChar (c : Char) (r : List Char) : (escapeChar c ++ r).head? ≠ some '"' := by
  rw [escapeChar]
  cases hshort : shortEscapes.find? (·.1 = c) with
  | some p => simp
  | none =>
    simp only
    split_ifs with hprint hsmall
    · simp only [List.cons_append, List.head?_cons, ne_eq, Option.some.injEq]
      rintro rfl
      exact absurd hshort (by decide)
    · simp
    · simp

lemma length_escapeChar (c : Char) : 1 ≤ (escapeChar c).length := by
  have hne : escapeChar c ≠ [] := by
    intro h
    have hread := readChar_escapeChar c []
    rw [h] at hread
    cases hread
  exact List.length_pos_iff.2 hne

lemma scanString_escaped {n : ℕ} (s r : List Char)
    (hn : (s.flatMap escapeChar ++ '"' :: r).length ≤ n) :
    scanString n (s.flatMap escapeChar ++ '"' :: r) = some (s, r) := by
  induction s generalizing n with
  | nil =>
    cases n with
    | zero => simp at hn
    | succ n => simp [scanString]
  | cons c s ih =>
    cases n with
    | zero => simp at hn
    | succ n =>
      have hlen := length_escapeChar c
      rw [List.flatMap_cons, List.append_assoc] at hn ⊢
      rw [scanString, if_neg (head?_escapeChar c _), readChar_escapeChar]
      simp only [Option.bind_eq_bind, Option.bind_some]
      rw [ih (by simp only [List.length_append] at hn ⊢; omega)]
      rfl

/-! ### Numbers read back -/

/-- No digit comes next. -/
def NoDigit (r : List Char) : Prop := ∀ c ∈ r.head?, c.isDigit = false

/-- The text ends here, or an item or a container does. -/
def Ends (r : List Char) : Prop := ∀ c ∈ r.head?, c = ',' ∨ c = ']' ∨ c = '\x7d'

lemma Ends.noDigit {r : List Char} (h : Ends r) : NoDigit r := by
  intro c hc
  rcases h c hc with rfl | rfl | rfl <;> decide

lemma span_digits {ds r : List Char} (hds : ∀ c ∈ ds, c.isDigit = true) (hr : NoDigit r) :
    (ds ++ r).takeWhile Char.isDigit = ds ∧ (ds ++ r).dropWhile Char.isDigit = r := by
  induction ds with
  | nil =>
    cases r with
    | nil => exact ⟨rfl, rfl⟩
    | cons c r =>
      have hc : c.isDigit = false := hr c rfl
      simp [hc]
  | cons d ds ih =>
    have hd : d.isDigit = true := hds d List.mem_cons_self
    obtain ⟨htake, hdrop⟩ := ih fun c hc => hds c (List.mem_cons_of_mem d hc)
    simp [hd, htake, hdrop]

/-- The digits of a positive number do not start with a zero. -/
lemma head?_toDigits {n : ℕ} (hn : 0 < n) : ∃ c l, Nat.toDigits 10 n = c :: l ∧ c ≠ '0' := by
  induction n using Nat.strongRecOn with
  | ind n ih =>
    rw [Nat.toDigits_eq_if (by decide)]
    split_ifs with hlt
    · refine ⟨_, [], rfl, ?_⟩
      have hall : ∀ n < 10, 0 < n → Nat.digitChar n ≠ '0' := by decide
      exact hall n hlt hn
    · obtain ⟨c, l, hl, hc⟩ := ih (n / 10) (by omega) (by omega)
      exact ⟨c, l ++ [Nat.digitChar (n % 10)], by rw [hl]; rfl, hc⟩

lemma intPart_toDigits (n : ℕ) {r : List Char} (hr : NoDigit r) :
    intPart (Nat.toDigits 10 n ++ r) = some (Nat.toDigits 10 n, r) := by
  rcases Nat.eq_zero_or_pos n with rfl | hn
  · simp [intPart]
  · obtain ⟨c, l, hl, hc⟩ := head?_toDigits hn
    have hall : ∀ d ∈ c :: l, d.isDigit = true := by
      rw [← hl]
      exact fun d hd => isDigit_of_mem hd
    obtain ⟨htake, hdrop⟩ := span_digits (r := r) (fun d hd => hall d (List.mem_cons_of_mem c hd)) hr
    simp [intPart, hl, hc, hall c List.mem_cons_self, htake, hdrop]

/-- A mark and at least one digit behind it. -/
def Marked (marks : List (List Char)) (l : List Char) : Prop :=
  ∃ mark ds, mark ∈ marks ∧ ds ≠ [] ∧ (∀ c ∈ ds, c.isDigit = true) ∧ l = mark ++ ds

lemma digitsAfter_append (mark : List Char) {ds r : List Char} (hne : ds ≠ [])
    (hds : ∀ c ∈ ds, c.isDigit = true) (hr : NoDigit r) :
    digitsAfter mark (ds ++ r) = some (mark ++ ds, r) := by
  obtain ⟨htake, hdrop⟩ := span_digits hds hr
  simp [digitsAfter, htake, hdrop, hne]

lemma expPart_ends {r : List Char} (hr : Ends r) : expPart r = ([], r) := by
  cases r with
  | nil => rfl
  | cons c r =>
    have hno : ¬(c = 'e' ∨ c = 'E') := by
      rcases hr c rfl with rfl | rfl | rfl <;> decide
    simp only [expPart, if_neg hno]

lemma fracPart_of_head {r : List Char} (hr : r.head? ≠ some '.') : fracPart r = ([], r) := by
  cases r with
  | nil => rfl
  | cons c r =>
    rw [fracPart]
    rintro l ⟨⟩
    exact hr rfl

/-- The exponent that Python writes has a sign. -/
lemma expPart_append {expo r : List Char} (hexpo : expo = [] ∨ Marked [['e', '-'], ['e', '+']] expo)
    (hr : Ends r) : expPart (expo ++ r) = (expo, r) := by
  rcases hexpo with rfl | ⟨mark, ds, hmark, hne, hds, rfl⟩
  · exact expPart_ends hr
  · have hread := digitsAfter_append mark hne hds hr.noDigit
    simp only [List.mem_cons, List.not_mem_nil, or_false] at hmark
    rcases hmark with rfl | rfl
    · simp [expPart, hread]
    · simp [expPart, hread]

lemma fracPart_append {frac expo r : List Char} (hfrac : frac = [] ∨ Marked [['.']] frac)
    (hexpo : expo = [] ∨ Marked [['e', '-'], ['e', '+']] expo) (hr : Ends r) :
    fracPart (frac ++ (expo ++ r)) = (frac, expo ++ r) := by
  have hhead : ∀ c ∈ (expo ++ r).head?, c ≠ '.' ∧ c.isDigit = false := by
    intro c hc
    rcases hexpo with rfl | ⟨mark, ds, hmark, -, -, rfl⟩
    · exact ⟨by rcases hr c hc with rfl | rfl | rfl <;> decide, hr.noDigit c hc⟩
    · simp only [List.mem_cons, List.not_mem_nil, or_false] at hmark
      have hce : c = 'e' := by
        rcases hmark with rfl | rfl <;> simpa using hc.symm
      subst hce
      decide
  rcases hfrac with rfl | ⟨mark, ds, hmark, hne, hds, rfl⟩
  · exact fracPart_of_head fun h => (hhead '.' h).1 rfl
  · obtain rfl := List.mem_singleton.1 hmark
    have hread := digitsAfter_append ['.'] hne hds fun c hc => (hhead c hc).2
    simp [fracPart, hread]

variable {floatOf : List Char → ℚ × String}

/-- The text of a float under `repr`, which `float` reads as the same one. -/
def IsFloat (floatOf : List Char → ℚ × String) (q : ℚ) (text : String) : Prop :=
  ∃ sign n frac expo, text.toList = sign ++ (Nat.toDigits 10 n ++ (frac ++ expo)) ∧
    (sign = [] ∨ sign = ['-']) ∧ (frac = [] ∨ Marked [['.']] frac) ∧
      (expo = [] ∨ Marked [['e', '-'], ['e', '+']] expo) ∧ ¬(frac = [] ∧ expo = []) ∧
        floatOf text.toList = (q, text)

lemma head?_digits (n : ℕ) (r : List Char) : (Nat.toDigits 10 n ++ r).head? ≠ some '-' := by
  cases hl : Nat.toDigits 10 n with
  | nil => exact absurd hl Nat.toDigits_ne_nil
  | cons c l =>
    have hc : c.isDigit = true := isDigit_of_mem (n := n) (by rw [hl]; exact List.mem_cons_self)
    simp only [List.cons_append, List.head?_cons, ne_eq, Option.some.injEq]
    rintro rfl
    exact absurd hc (by decide)

/-- The parts of a number are found where they end. -/
lemma scanNumber_parts (sign frac expo : List Char) {r : List Char} (n : ℕ) (hsign : sign = [] ∨ sign = ['-'])
    (hfrac : frac = [] ∨ Marked [['.']] frac)
    (hexpo : expo = [] ∨ Marked [['e', '-'], ['e', '+']] expo) (hr : Ends r) :
    scanNumber floatOf (sign ++ (Nat.toDigits 10 n ++ (frac ++ (expo ++ r)))) =
      if frac = [] ∧ expo = [] then
        (int? (String.ofList (sign ++ Nat.toDigits 10 n))).map fun k => (.int k, r)
      else some (.float (floatOf (sign ++ Nat.toDigits 10 n ++ frac ++ expo)).1
        (floatOf (sign ++ Nat.toDigits 10 n ++ frac ++ expo)).2, r) := by
  have hnodigit : NoDigit (frac ++ (expo ++ r)) := by
    intro c hc
    rcases hfrac with rfl | ⟨mark, ds, hmark, -, -, rfl⟩
    · rcases hexpo with rfl | ⟨mark, ds, hmark, -, -, rfl⟩
      · exact hr.noDigit c hc
      · simp only [List.mem_cons, List.not_mem_nil, or_false] at hmark
        rcases hmark with rfl | rfl
        · obtain rfl : 'e' = c := by simpa using hc
          decide
        · obtain rfl : 'e' = c := by simpa using hc
          decide
    · obtain rfl := List.mem_singleton.1 hmark
      obtain rfl : '.' = c := by simpa using hc
      decide
  have hwhole := intPart_toDigits n hnodigit
  have hhead := head?_digits n (frac ++ (expo ++ r))
  have hsome : ∀ rest, (if rest.head? = some '-' then ['-'] else []) = sign ∧
      (if rest.head? = some '-' then rest.tail else rest) =
        Nat.toDigits 10 n ++ (frac ++ (expo ++ r)) →
      scanNumber floatOf rest =
      if frac = [] ∧ expo = [] then
        (int? (String.ofList (sign ++ Nat.toDigits 10 n))).map fun k => (.int k, r)
      else some (.float (floatOf (sign ++ Nat.toDigits 10 n ++ frac ++ expo)).1
        (floatOf (sign ++ Nat.toDigits 10 n ++ frac ++ expo)).2, r) := by
    rintro rest ⟨hs, hl⟩
    rw [scanNumber, hs, hl, hwhole]
    simp only [Option.bind_eq_bind, Option.bind_some, fracPart_append hfrac hexpo hr,
      expPart_append hexpo hr]
    split_ifs with hint
    · cases int? (String.ofList (sign ++ Nat.toDigits 10 n)) <;> rfl
    · rfl
  rcases hsign with rfl | rfl
  · exact hsome _ ⟨if_neg hhead, if_neg hhead⟩
  · exact hsome _ ⟨rfl, rfl⟩

lemma scanNumber_int (n : ℤ) {r : List Char} (hr : Ends r) :
    scanNumber floatOf ((toString n).toList ++ r) = some (.int n, r) := by
  have hread := int?_toString n
  rw [← String.ofList_toList (s := toString n)] at hread
  cases n with
  | ofNat n =>
    have hscan := @scanNumber_parts floatOf [] [] [] r n (Or.inl rfl) (Or.inl rfl) (Or.inl rfl) hr
    rw [Int.ofNat_eq_natCast, toList_natCast] at hread ⊢
    simp only [List.nil_append, and_self, if_true, hread] at hscan
    exact hscan
  | negSucc n =>
    have hscan := @scanNumber_parts floatOf ['-'] [] [] r (n + 1) (Or.inr rfl) (Or.inl rfl)
      (Or.inl rfl) hr
    rw [toList_negSucc] at hread ⊢
    simp only [List.cons_append, List.nil_append, and_self, if_true, hread] at hscan
    exact hscan

lemma scanNumber_float {q : ℚ} {text : String} (h : IsFloat floatOf q text) {r : List Char}
    (hr : Ends r) : scanNumber floatOf (text.toList ++ r) = some (.float q text, r) := by
  obtain ⟨sign, n, frac, expo, htext, hsign, hfrac, hexpo, hnot, hfloat⟩ := h
  have hscan := @scanNumber_parts floatOf sign frac expo r n hsign hfrac hexpo hr
  have hparts : sign ++ Nat.toDigits 10 n ++ frac ++ expo = text.toList := by
    rw [htext]
    simp only [List.append_assoc]
  rw [if_neg hnot, hparts, hfloat] at hscan
  rw [← hscan, htext]
  simp only [List.append_assoc]

/-- A number is what starts with a digit or a minus. -/
lemma readValue_number {n : ℕ} {c : Char} {l : List Char} (hc : c.isDigit = true ∨ c = '-') :
    readValue floatOf (n + 1) (c :: l) = scanNumber floatOf (c :: l) := by
  have hne : c ≠ 'n' ∧ c ≠ 't' ∧ c ≠ 'f' ∧ c ≠ '"' ∧ c ≠ '[' ∧ c ≠ '\x7b' := by
    rcases hc with hc | rfl
    · refine ⟨?_, ?_, ?_, ?_, ?_, ?_⟩ <;> exact ne_of_isDigit hc (by decide)
    · decide
  obtain ⟨h₁, h₂, h₃, h₄, h₅, h₆⟩ := hne
  rw [readValue]
  all_goals
    rintro l' ⟨⟩
    contradiction

/-! ### Values read back -/

mutual

/-- What a Python value can hold: the keys of a dict are distinct. -/
def WellFormed (floatOf : List Char → ℚ × String) : Json → Prop
  | .float q text => IsFloat floatOf q text
  | .arr items => WellFormedItems floatOf items
  | .obj fields => (fields.map (·.1)).Nodup ∧ WellFormedFields floatOf fields
  | _ => True

def WellFormedItems (floatOf : List Char → ℚ × String) : List Json → Prop
  | [] => True
  | v :: vs => WellFormed floatOf v ∧ WellFormedItems floatOf vs

def WellFormedFields (floatOf : List Char → ℚ × String) : List (String × Json) → Prop
  | [] => True
  | (_, v) :: fs => WellFormed floatOf v ∧ WellFormedFields floatOf fs

end

/-- The first character of a value. -/
def Starts (c : Char) : Prop :=
  c ∈ ['n', 't', 'f', '"', '[', '\x7b', '-'] ∨ c.isDigit = true

lemma Starts.noWs {c : Char} (h : Starts c) (l : List Char) :
    skipWs (c :: l) = c :: l ∧ c ≠ ']' := by
  have hall : ∀ c ∈ ['n', 't', 'f', '"', '[', '\x7b', '-'], c ∉ [' ', '\t', '\n', '\r'] ∧ c ≠ ']' := by
    decide
  rcases h with h | h
  · obtain ⟨hws, hne⟩ := hall c h
    exact ⟨by simp only [skipWs, List.dropWhile_cons, decide_eq_true_eq, if_neg hws], hne⟩
  · have hws : c ∉ [' ', '\t', '\n', '\r'] := by
      simp only [List.mem_cons, List.not_mem_nil, or_false, not_or]
      refine ⟨?_, ?_, ?_, ?_⟩ <;> exact ne_of_isDigit h (by decide)
    exact ⟨by simp only [skipWs, List.dropWhile_cons, decide_eq_true_eq, if_neg hws],
      ne_of_isDigit h (by decide)⟩

lemma starts_toDigits (n : ℕ) (l : List Char) :
    ∃ c l', Nat.toDigits 10 n ++ l = c :: l' ∧ c.isDigit = true := by
  cases hl : Nat.toDigits 10 n with
  | nil => exact absurd hl Nat.toDigits_ne_nil
  | cons c l₀ =>
    exact ⟨c, l₀ ++ l, rfl, isDigit_of_mem (n := n) (by rw [hl]; exact List.mem_cons_self)⟩

/-- A number starts with a digit or a minus. -/
lemma starts_int (n : ℤ) : ∃ c l, (toString n).toList = c :: l ∧ (c.isDigit = true ∨ c = '-') := by
  cases n with
  | ofNat n =>
    obtain ⟨c, l, hl, hc⟩ := starts_toDigits n []
    rw [Int.ofNat_eq_natCast, toList_natCast]
    exact ⟨c, l, by simpa using hl, Or.inl hc⟩
  | negSucc n => exact ⟨'-', _, toList_negSucc n, Or.inr rfl⟩

lemma starts_float {q : ℚ} {text : String} (h : IsFloat floatOf q text) :
    ∃ c l, text.toList = c :: l ∧ (c.isDigit = true ∨ c = '-') := by
  obtain ⟨sign, n, frac, expo, htext, hsign, -⟩ := h
  rcases hsign with rfl | rfl
  · obtain ⟨c, l, hl, hc⟩ := starts_toDigits n (frac ++ expo)
    exact ⟨c, l, htext.trans hl, Or.inl hc⟩
  · exact ⟨'-', _, htext, Or.inr rfl⟩

lemma starts_dumps {v : Json} (hv : WellFormed floatOf v) :
    ∃ c l, dumpsChars v = c :: l ∧ Starts c := by
  have hnumber : ∀ {c : Char}, c.isDigit = true ∨ c = '-' → Starts c := by
    rintro c (hc | rfl)
    · exact Or.inr hc
    · exact Or.inl (by decide)
  cases v with
  | null => exact ⟨'n', _, rfl, Or.inl (by decide)⟩
  | bool b =>
    cases b with
    | false => exact ⟨'f', _, rfl, Or.inl (by decide)⟩
    | true => exact ⟨'t', _, rfl, Or.inl (by decide)⟩
  | int n =>
    obtain ⟨c, l, hl, hc⟩ := starts_int n
    exact ⟨c, l, by rw [dumpsChars, hl], hnumber hc⟩
  | float q text =>
    obtain ⟨c, l, hl, hc⟩ := @starts_float floatOf q text hv
    exact ⟨c, l, by rw [dumpsChars, hl], hnumber hc⟩
  | str s => exact ⟨'"', _, rfl, Or.inl (by decide)⟩
  | arr items => cases items <;> exact ⟨'[', _, rfl, Or.inl (by decide)⟩
  | obj fields => cases fields <;> exact ⟨'\x7b', _, rfl, Or.inl (by decide)⟩

lemma quoted_append (s : String) (r : List Char) :
    quoted s ++ r = '"' :: (s.toList.flatMap escapeChar ++ '"' :: r) := by
  simp [quoted]

lemma length_quoted (s : String) : 2 ≤ (quoted s).length := by
  simp only [quoted, List.length_append, List.length_cons, List.length_nil]
  omega

lemma ends_items (vs : List Json) (r : List Char) : Ends (itemsChars vs ++ r) ∧
    skipWs (itemsChars vs ++ r) = itemsChars vs ++ r := by
  cases vs with
  | nil => exact ⟨fun c hc => Or.inr (Or.inl (Option.some.inj hc).symm), rfl⟩
  | cons v vs => exact ⟨fun c hc => Or.inl (Option.some.inj hc).symm, rfl⟩

lemma ends_fields (fs : List (String × Json)) (r : List Char) : Ends (fieldsChars fs ++ r) ∧
    skipWs (fieldsChars fs ++ r) = fieldsChars fs ++ r := by
  cases fs with
  | nil => exact ⟨fun c hc => Or.inr (Or.inr (Option.some.inj hc).symm), rfl⟩
  | cons f fs => exact ⟨fun c hc => Or.inl (Option.some.inj hc).symm, rfl⟩

lemma setEntry_new {key : String} {v : Json} {fields : List (String × Json)}
    (h : key ∉ fields.map (·.1)) : setEntry key v fields = fields ++ [(key, v)] := by
  rw [setEntry, if_neg]
  simpa using h

lemma dictOf_nodup {fields : List (String × Json)} (h : (fields.map (·.1)).Nodup) :
    dictOf fields = fields := by
  have hfold : ∀ (fs d : List (String × Json)), ((d ++ fs).map (·.1)).Nodup →
      fs.foldl (fun d p => setEntry p.1 p.2 d) d = d ++ fs := by
    intro fs
    induction fs with
    | nil => intro d _; simp
    | cons f fs ih =>
      intro d hd
      have hnew : f.1 ∉ d.map (·.1) := by
        rw [List.map_append, List.nodup_append] at hd
        intro hmem
        exact hd.2.2 f.1 hmem f.1 (by simp) rfl
      rw [List.foldl_cons, setEntry_new hnew, ih _ (by simpa using hd)]
      simp
  exact hfold fields [] h

/-- One entry of a dict, where its value reads back. -/
lemma readField_dumps (k : String) {v : Json} {n : ℕ} {r : List Char}
    (hv : WellFormed floatOf v) (hn : (dumpsChars v).length + 1 ≤ n)
    (hvalue : ∀ n, (dumpsChars v).length ≤ n →
      readValue floatOf n (dumpsChars v ++ r) = some (v, r)) :
    readField floatOf n (quoted k ++ ':' :: (dumpsChars v ++ r)) = some ((k, v), r) := by
  obtain ⟨n, rfl⟩ : ∃ m, n = m + 1 := ⟨n - 1, by omega⟩
  obtain ⟨c, l, hl, hc⟩ := starts_dumps hv
  have hread := hvalue n (by omega)
  rw [hl, List.cons_append] at hread
  have hcolon : ∀ l : List Char, skipWs (':' :: l) = ':' :: l := fun _ => rfl
  simp only [quoted_append, readField, scanString_escaped _ _ le_rfl, Option.bind_eq_bind,
    Option.bind_some, hcolon, hl, List.cons_append, (hc.noWs _).1, hread, String.ofList_toList]
  rfl

mutual

theorem readValue_dumps {v : Json} {n : ℕ} {r : List Char} (hv : WellFormed floatOf v)
    (hn : (dumpsChars v).length ≤ n) (hr : Ends r) :
    readValue floatOf n (dumpsChars v ++ r) = some (v, r) := by
  obtain ⟨n, rfl⟩ : ∃ m, n = m + 1 := by
    obtain ⟨c, l, hl, -⟩ := starts_dumps hv
    rw [hl, List.length_cons] at hn
    exact ⟨n - 1, by omega⟩
  match v with
  | .null => rfl
  | .bool true => rfl
  | .bool false => rfl
  | .int k =>
    obtain ⟨c, l, hl, hc⟩ := starts_int k
    rw [dumpsChars, hl, List.cons_append, readValue_number hc, ← List.cons_append, ← hl,
      scanNumber_int k hr]
  | .float q text =>
    have hfloat : IsFloat floatOf q text := hv
    obtain ⟨c, l, hl, hc⟩ := starts_float hfloat
    rw [dumpsChars, hl, List.cons_append, readValue_number hc, ← List.cons_append, ← hl,
      scanNumber_float hfloat hr]
  | .str s =>
    rw [dumpsChars, quoted_append, readValue, scanString_escaped _ _ le_rfl]
    simp
  | .arr [] => simp [dumpsChars, readValue, skipWs]
  | .arr (w :: ws) =>
    obtain ⟨c, l, hl, hc⟩ := starts_dumps hv.1
    simp only [dumpsChars, List.cons_append, List.length_cons, List.length_append] at hn
    have hitem := readValue_dumps (n := n) hv.1 (by omega) (ends_items ws r).1
    have hitems := readItems_dumps (n := n) (r := r) hv.2 (by omega)
    rw [hl, List.cons_append] at hitem
    simp only [dumpsChars, hl, List.cons_append, List.append_assoc, readValue, (hc.noWs _).1,
      List.head?_cons, Option.some.injEq, if_neg (hc.noWs l).2, Option.bind_eq_bind, hitem,
      Option.bind_some, (ends_items ws r).2, hitems]
    rfl
  | .obj [] => simp [dumpsChars, readValue, skipWs]
  | .obj ((k, w) :: fs) =>
    simp only [dumpsChars, List.cons_append, List.append_assoc, List.length_cons,
      List.length_append] at hn
    have hlen := length_quoted k
    have hfield := readField_dumps k (n := n) hv.2.1 (by omega) fun m hm =>
      readValue_dumps (n := m) hv.2.1 hm (ends_fields fs r).1
    have hfields := readFields_dumps (n := n) (r := r) hv.2.2 (by omega)
    have hquote : ∀ l : List Char, skipWs ('"' :: l) = '"' :: l := fun _ => rfl
    rw [quoted_append] at hfield
    simp only [dumpsChars, List.cons_append, List.append_assoc, quoted_append, readValue, hquote,
      List.head?_cons, Option.some.injEq, if_neg (by decide : ¬ '"' = '\x7d'), Option.bind_eq_bind,
      hfield, Option.bind_some, (ends_fields fs r).2, hfields]
    rw [dictOf_nodup hv.1]
    rfl

theorem readItems_dumps {vs : List Json} {n : ℕ} {r : List Char}
    (hvs : WellFormedItems floatOf vs) (hn : (itemsChars vs).length ≤ n) :
    readItems floatOf n (itemsChars vs ++ r) = some (vs, r) := by
  match vs, n with
  | [], 0 => simp [itemsChars] at hn
  | [], n + 1 => rfl
  | v :: vs, 0 => simp [itemsChars] at hn
  | v :: vs, n + 1 =>
    obtain ⟨c, l, hl, hc⟩ := starts_dumps hvs.1
    simp only [itemsChars, List.cons_append, List.length_cons, List.length_append] at hn
    have hitem := readValue_dumps (n := n) hvs.1 (by omega) (ends_items vs r).1
    have hitems := readItems_dumps (n := n) (r := r) hvs.2 (by omega)
    rw [hl, List.cons_append] at hitem
    simp only [itemsChars, hl, List.cons_append, List.append_assoc, readItems, (hc.noWs _).1,
      Option.bind_eq_bind, hitem, Option.bind_some, (ends_items vs r).2, hitems]
    rfl

theorem readFields_dumps {fs : List (String × Json)} {n : ℕ} {r : List Char}
    (hfs : WellFormedFields floatOf fs) (hn : (fieldsChars fs).length ≤ n) :
    readFields floatOf n (fieldsChars fs ++ r) = some (fs, r) := by
  match fs, n with
  | [], 0 => simp [fieldsChars] at hn
  | [], n + 1 => rfl
  | (k, v) :: fs, 0 => simp [fieldsChars] at hn
  | (k, v) :: fs, n + 1 =>
    simp only [fieldsChars, List.cons_append, List.append_assoc, List.length_cons,
      List.length_append] at hn
    have hlen := length_quoted k
    have hfield := readField_dumps k (n := n) hfs.1 (by omega) fun m hm =>
      readValue_dumps (n := m) hfs.1 hm (ends_fields fs r).1
    have hfields := readFields_dumps (n := n) (r := r) hfs.2 (by omega)
    have hquote : ∀ l : List Char, skipWs ('"' :: l) = '"' :: l := fun _ => rfl
    rw [quoted_append] at hfield
    simp only [fieldsChars, List.cons_append, List.append_assoc, quoted_append, readFields,
      hquote, hfield, Option.bind_eq_bind, Option.bind_some, (ends_fields fs r).2, hfields]
    rfl

end

/-! ### Sorted keys -/

lemma keys_sortFields (fs : List (String × Json)) :
    (sortFields fs).map (·.1) = fs.map (·.1) := by
  induction fs with
  | nil => rfl
  | cons f fs ih => simp only [sortFields, List.map_cons, ih]

lemma wellFormedFields_iff {fs : List (String × Json)} :
    WellFormedFields floatOf fs ↔ ∀ f ∈ fs, WellFormed floatOf f.2 := by
  induction fs with
  | nil => simp [WellFormedFields]
  | cons f fs ih => simp [WellFormedFields, ih]

mutual

lemma wellFormed_sortKeys {v : Json} (hv : WellFormed floatOf v) :
    WellFormed floatOf (sortKeys v) := by
  match v with
  | .null => exact hv
  | .bool _ => exact hv
  | .int _ => exact hv
  | .float _ _ => exact hv
  | .str _ => exact hv
  | .arr items => exact @wellFormed_sortItems items hv
  | .obj fields =>
    have hperm := List.perm_insertionSort (fun a b => a.1 ≤ b.1) (sortFields fields)
    refine ⟨?_, wellFormedFields_iff.2 fun f hf => ?_⟩
    · rw [(hperm.map (·.1)).nodup_iff, keys_sortFields]
      exact hv.1
    · exact wellFormedFields_iff.1 (@wellFormed_sortFields fields hv.2) f
        (hperm.mem_iff.1 hf)

lemma wellFormed_sortItems {vs : List Json} (hvs : WellFormedItems floatOf vs) :
    WellFormedItems floatOf (sortItems vs) := by
  match vs with
  | [] => trivial
  | v :: vs => exact ⟨@wellFormed_sortKeys v hvs.1, @wellFormed_sortItems vs hvs.2⟩

lemma wellFormed_sortFields {fs : List (String × Json)} (hfs : WellFormedFields floatOf fs) :
    WellFormedFields floatOf (sortFields fs) := by
  match fs with
  | [] => trivial
  | (k, v) :: fs =>
    exact ⟨@wellFormed_sortKeys v hfs.1, @wellFormed_sortFields fs hfs.2⟩

end

/-- Where no key comes twice, the order does not matter to a lookup. -/
lemma find?_perm {l l' : List (String × Json)} (h : l.Perm l') (hnodup : (l.map (·.1)).Nodup)
    (key : String) : l.find? (·.1 = key) = l'.find? (·.1 = key) := by
  induction h with
  | nil => rfl
  | cons f _ ih =>
    rw [List.map_cons, List.nodup_cons] at hnodup
    rw [List.find?_cons, List.find?_cons, ih hnodup.2]
  | swap f g l =>
    have hne : g.1 ≠ f.1 := fun h => (List.nodup_cons.1 hnodup).1 (by simp [h])
    by_cases hf : f.1 = key
    · have hg : g.1 ≠ key := fun h => hne (h.trans hf.symm)
      simp [hf, hg]
    · simp [List.find?_cons, hf]
  | trans h₁ h₂ ih₁ ih₂ => rw [ih₁ hnodup, ih₂ ((h₁.map _).nodup_iff.1 hnodup)]

/-- The entry of a dict read back is the one written. -/
lemma find?_sortKeys {fs : List (String × Json)} (hnodup : (fs.map (·.1)).Nodup) :
    ∃ sorted, sortKeys (.obj fs) = .obj sorted ∧ ∀ key, sorted.find? (·.1 = key) =
      (fs.find? (·.1 = key)).map fun f => (f.1, sortKeys f.2) := by
  refine ⟨_, sortKeys.eq_2 fs, fun key => ?_⟩
  have hperm := List.perm_insertionSort (fun a b => a.1 ≤ b.1) (sortFields fs)
  have hnodup' : ((sortFields fs).map (·.1)).Nodup := by rwa [keys_sortFields]
  rw [find?_perm hperm ((hperm.map _).nodup_iff.2 hnodup')]
  clear hperm hnodup hnodup'
  induction fs with
  | nil => rfl
  | cons f fs ih =>
    rw [sortFields, List.find?_cons, List.find?_cons]
    by_cases hf : f.1 = key
    · simp [hf]
    · simp only [hf, decide_false]
      exact ih

/-- What `dumps` writes `loads` reads, with the keys in order. -/
theorem loads_dumps {v : Json} (hv : WellFormed floatOf v) :
    loads floatOf (dumps v) = some (sortKeys v) := by
  have hsorted := wellFormed_sortKeys hv
  obtain ⟨c, l, hl, hc⟩ := starts_dumps hsorted
  have hread := readValue_dumps (n := (dumpsChars (sortKeys v)).length) (r := []) hsorted le_rfl
    (by simp [Ends])
  rw [List.append_nil] at hread
  rw [loads, dumps, String.toList_ofList, hl, (hc.noWs l).1, ← hl, hread]
  rfl

theorem dumps_inj {v w : Json} (hv : WellFormed floatOf v) (hw : WellFormed floatOf w)
    (h : dumps v = dumps w) : sortKeys v = sortKeys w := by
  have hread := loads_dumps hv
  rw [h, loads_dumps hw] at hread
  exact (Option.some.inj hread).symm

example : dumps (.obj [("b", .str "é\n"), ("a", .arr [.int (-5), .bool true])]) =
    "\x7b\"a\":[-5,true],\"b\":\"\\u00e9\\n\"\x7d" := by
  decide +kernel

end SherwoodMonitor.JsonText
