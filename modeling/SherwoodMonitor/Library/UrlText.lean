import Mathlib.Data.List.DropRight
import SherwoodMonitor.Library.JsonText

/-! Text inside a URL: its bytes under UTF-8, base64 in the URL-safe alphabet, percent encoding
and query strings, each with its reader. What is written reads back. -/
namespace SherwoodMonitor.UrlText
open PyText JsonText

/-! ### UTF-8 -/

def utf8 (l : List Char) : List UInt8 := l.flatMap String.utf8EncodeChar

/-- `b.decode("utf-8")`; `none` where it raises. -/
def utf8? (bytes : List UInt8) : Option (List Char) :=
  bytes.toByteArray.utf8Decode?.map Array.toList

theorem utf8?_utf8 (l : List Char) : utf8? (utf8 l) = some l := by
  have hdecode := List.utf8Decode?_utf8Encode (l := l)
  rw [utf8?, utf8, ← List.utf8Encode, hdecode]
  rfl

/-! ### Base64 -/

/-- The digit of six bits. -/
def digit64 (n : ℕ) : Char :=
  if n < 26 then Char.ofNat (65 + n)
  else if n < 52 then Char.ofNat (71 + n)
  else if n < 62 then Char.ofNat (n - 4)
  else if n = 62 then '-'
  else '_'

/-- The digits of both alphabets are read. -/
def value64? (c : Char) : Option ℕ :=
  if 65 ≤ c.toNat ∧ c.toNat ≤ 90 then some (c.toNat - 65)
  else if 97 ≤ c.toNat ∧ c.toNat ≤ 122 then some (c.toNat - 71)
  else if 48 ≤ c.toNat ∧ c.toNat ≤ 57 then some (c.toNat + 4)
  else if c = '-' ∨ c = '+' then some 62
  else if c = '_' ∨ c = '/' then some 63
  else none

lemma value64?_digit64 {n : ℕ} (hn : n < 64) : value64? (digit64 n) = some n := by
  have hall : ∀ n < 64, value64? (digit64 n) = some n := by decide
  exact hall n hn

/-- `base64.urlsafe_b64encode`. -/
def urlsafeB64encode : List UInt8 → List Char
  | [] => []
  | [a] => [digit64 (a.toNat / 4), digit64 (a.toNat % 4 * 16), '=', '=']
  | [a, b] =>
      [digit64 (a.toNat / 4), digit64 (a.toNat % 4 * 16 + b.toNat / 16),
       digit64 (b.toNat % 16 * 4), '=']
  | a :: b :: c :: l =>
      digit64 (a.toNat / 4) :: digit64 (a.toNat % 4 * 16 + b.toNat / 16) ::
        digit64 (b.toNat % 16 * 4 + c.toNat / 64) :: digit64 (c.toNat % 64) :: urlsafeB64encode l

/-- `binascii.a2b_base64` in the middle of the text: `quad` digits of the group of four and `pads`
marks of padding were read, and `left` has the bits that no byte has taken. Characters outside of
the alphabet are skipped. -/
def a2bBase64 (quad pads left : ℕ) : List Char → Option (List UInt8)
  | [] => if quad = 0 then some [] else none
  | c :: l =>
      if c = '=' then
        if 2 ≤ quad then
          if 4 ≤ quad + pads + 1 then some [] else a2bBase64 quad (pads + 1) left l
        else a2bBase64 quad pads left l
      else
        match value64? c with
        | none => a2bBase64 quad pads left l
        | some v =>
            match quad with
            | 0 => a2bBase64 1 0 v l
            | 1 => (a2bBase64 2 0 (v % 16) l).map (UInt8.ofNat (left * 4 + v / 16) :: ·)
            | 2 => (a2bBase64 3 0 (v % 4) l).map (UInt8.ofNat (left * 16 + v / 4) :: ·)
            | _ => (a2bBase64 0 0 0 l).map (UInt8.ofNat (left * 64 + v) :: ·)

/-- `base64.urlsafe_b64decode` of a text; `none` where it raises. -/
def urlsafeB64decode (l : List Char) : Option (List UInt8) :=
  if l.all (·.toNat < 128) then a2bBase64 0 0 0 l else none

def IsDigit64 (c : Char) : Prop := ∃ n < 64, c = digit64 n

/-- A digit stands for itself in a query. -/
lemma IsDigit64.plain {c : Char} (h : IsDigit64 c) : c.isAlphanum = true ∨ c = '-' ∨ c = '_' := by
  obtain ⟨n, hn, rfl⟩ := h
  have hall : ∀ n < 64, (digit64 n).isAlphanum = true ∨ digit64 n = '-' ∨ digit64 n = '_' := by
    decide
  exact hall n hn

lemma IsDigit64.ne_pad {c : Char} (h : IsDigit64 c) : c ≠ '=' := by
  rintro rfl
  exact absurd h.plain (by decide)

/-- Digits, and padding up to a multiple of four. -/
lemma urlsafeB64encode_parts (bytes : List UInt8) :
    ∃ digits pads, urlsafeB64encode bytes = digits ++ List.replicate pads '=' ∧
      (∀ c ∈ digits, IsDigit64 c) ∧ pads = (4 - digits.length % 4) % 4 := by
  induction bytes using urlsafeB64encode.induct with
  | case1 => exact ⟨[], 0, rfl, by simp, rfl⟩
  | case2 a =>
    have ha := a.toNat_lt
    refine ⟨[_, _], 2, rfl, ?_, rfl⟩
    simp only [List.mem_cons, List.not_mem_nil, or_false]
    rintro c (rfl | rfl) <;> exact ⟨_, by omega, rfl⟩
  | case3 a b =>
    have ha := a.toNat_lt
    have hb := b.toNat_lt
    refine ⟨[_, _, _], 1, rfl, ?_, rfl⟩
    simp only [List.mem_cons, List.not_mem_nil, or_false]
    rintro c (rfl | rfl | rfl) <;> exact ⟨_, by omega, rfl⟩
  | case4 a b c l ih =>
    obtain ⟨digits, pads, hl, hdigits, hpads⟩ := ih
    have ha := a.toNat_lt
    have hb := b.toNat_lt
    have hc := c.toNat_lt
    refine ⟨_ :: _ :: _ :: _ :: digits, pads, by rw [urlsafeB64encode, hl]; rfl, ?_, ?_⟩
    · simp only [List.mem_cons]
      rintro d (rfl | rfl | rfl | rfl | hd)
      · exact ⟨_, by omega, rfl⟩
      · exact ⟨_, by omega, rfl⟩
      · exact ⟨_, by omega, rfl⟩
      · exact ⟨_, by omega, rfl⟩
      · exact hdigits d hd
    · simp only [List.length_cons]
      omega

section reading

variable {n : ℕ} (pads left : ℕ) (l : List Char)

lemma a2bBase64_first (hn : n < 64) :
    a2bBase64 0 pads left (digit64 n :: l) = a2bBase64 1 0 n l := by
  rw [a2bBase64, if_neg (IsDigit64.ne_pad ⟨n, hn, rfl⟩), value64?_digit64 hn]
  rfl

/-- The second digit completes a byte. -/
lemma a2bBase64_second (hn : n < 64) {a : UInt8} (ha : left * 4 + n / 16 = a.toNat) :
    a2bBase64 1 pads left (digit64 n :: l) = (a2bBase64 2 0 (n % 16) l).map (a :: ·) := by
  rw [a2bBase64, if_neg (IsDigit64.ne_pad ⟨n, hn, rfl⟩), value64?_digit64 hn]
  simp only [ha, UInt8.ofNat_toNat]

lemma a2bBase64_third (hn : n < 64) {a : UInt8} (ha : left * 16 + n / 4 = a.toNat) :
    a2bBase64 2 pads left (digit64 n :: l) = (a2bBase64 3 0 (n % 4) l).map (a :: ·) := by
  rw [a2bBase64, if_neg (IsDigit64.ne_pad ⟨n, hn, rfl⟩), value64?_digit64 hn]
  simp only [ha, UInt8.ofNat_toNat]

lemma a2bBase64_fourth (hn : n < 64) {a : UInt8} (ha : left * 64 + n = a.toNat) :
    a2bBase64 3 pads left (digit64 n :: l) = (a2bBase64 0 0 0 l).map (a :: ·) := by
  rw [a2bBase64, if_neg (IsDigit64.ne_pad ⟨n, hn, rfl⟩), value64?_digit64 hn]
  simp only [ha, UInt8.ofNat_toNat]

end reading

theorem a2bBase64_urlsafeB64encode (bytes : List UInt8) :
    a2bBase64 0 0 0 (urlsafeB64encode bytes) = some bytes := by
  induction bytes using urlsafeB64encode.induct with
  | case1 => rfl
  | case2 a =>
    have ha := a.toNat_lt
    rw [urlsafeB64encode, a2bBase64_first _ _ _ (by omega),
      a2bBase64_second _ _ _ (by omega) (a := a) (by omega)]
    simp [a2bBase64]
  | case3 a b =>
    have ha := a.toNat_lt
    have hb := b.toNat_lt
    rw [urlsafeB64encode, a2bBase64_first _ _ _ (by omega),
      a2bBase64_second _ _ _ (by omega) (a := a) (by omega),
      a2bBase64_third _ _ _ (by omega) (a := b) (by omega)]
    simp [a2bBase64]
  | case4 a b c l ih =>
    have ha := a.toNat_lt
    have hb := b.toNat_lt
    have hc := c.toNat_lt
    rw [urlsafeB64encode, a2bBase64_first _ _ _ (by omega),
      a2bBase64_second _ _ _ (by omega) (a := a) (by omega),
      a2bBase64_third _ _ _ (by omega) (a := b) (by omega),
      a2bBase64_fourth _ _ _ (by omega) (a := c) (by omega), ih]
    rfl

/-- The digits alone, as they stand in a URL. -/
def b64url (bytes : List UInt8) : List Char := (urlsafeB64encode bytes).rdropWhile (· = '=')

/-- The padding that a reader puts back. -/
def padded (l : List Char) : List Char := l ++ List.replicate ((4 - l.length % 4) % 4) '='

lemma b64url_parts (bytes : List UInt8) :
    (∀ c ∈ b64url bytes, IsDigit64 c) ∧ padded (b64url bytes) = urlsafeB64encode bytes := by
  obtain ⟨digits, pads, hbytes, hdigits, hpads⟩ := urlsafeB64encode_parts bytes
  have hself : digits.rdropWhile (· = '=') = digits := by
    rw [List.rdropWhile_eq_self_iff]
    intro hne
    simpa using (hdigits _ (List.getLast_mem hne)).ne_pad
  have hdrop : b64url bytes = digits := by
    rw [b64url, hbytes]
    have hpad : ∀ n, (digits ++ List.replicate n '=').rdropWhile (· = '=') = digits := by
      intro n
      induction n with
      | zero => rw [List.replicate_zero, List.append_nil, hself]
      | succ n ih =>
        rw [List.replicate_succ', ← List.append_assoc, List.rdropWhile_concat_pos _ _ _ (by simp),
          ih]
    exact hpad pads
  rw [hdrop, padded, hbytes, hpads]
  exact ⟨hdigits, rfl⟩

theorem urlsafeB64decode_padded (bytes : List UInt8) :
    urlsafeB64decode (padded (b64url bytes)) = some bytes := by
  have hparts := b64url_parts bytes
  have hascii : (padded (b64url bytes)).all (·.toNat < 128) = true := by
    rw [List.all_eq_true]
    intro c hc
    rw [padded, List.mem_append] at hc
    rcases hc with hc | hc
    · obtain ⟨n, hn, rfl⟩ := hparts.1 c hc
      have hall : ∀ n < 64, decide ((digit64 n).toNat < 128) = true := by decide
      exact hall n hn
    · rw [List.eq_of_mem_replicate hc]
      decide
  rw [urlsafeB64decode, if_pos hascii, hparts.2, a2bBase64_urlsafeB64encode]

/-! ### Percent encoding -/

def hexUpper (n : ℕ) : Char := if n < 10 then Char.ofNat (48 + n) else Char.ofNat (55 + n)

def percentByte (b : UInt8) : List Char :=
  ['%', hexUpper (b.toNat / 16), hexUpper (b.toNat % 16)]

/-- What `urllib.parse.quote` always keeps. -/
def isUnreserved (c : Char) : Bool := c.isAlphanum || c ∈ ['_', '.', '-', '~']

def quoteChar (safe : List Char) (c : Char) : List Char :=
  if isUnreserved c ∨ c ∈ safe then [c] else (String.utf8EncodeChar c).flatMap percentByte

/-- `urllib.parse.quote`. -/
def quote (safe : List Char) (l : List Char) : List Char := l.flatMap (quoteChar safe)

/-- `urllib.parse.quote_plus`. -/
def quotePlus (safe : List Char) (l : List Char) : List Char :=
  l.flatMap fun c => if c = ' ' then ['+'] else quoteChar safe c

section
variable (plus : Bool)

/-- A character that is not escaped; in a query a plus is a blank. -/
def plainBytes (c : Char) : List UInt8 :=
  String.utf8EncodeChar (if plus ∧ c = '+' then ' ' else c)

/-- The byte that an escape stands for. -/
def percentByte? (c a b : Char) : Option UInt8 :=
  if c = '%' then (hexDigit? a).bind fun x => (hexDigit? b).map fun y => UInt8.ofNat (16 * x + y)
  else none

/-- The bytes of a percent-encoded text. -/
def unquoteBytes : List Char → List UInt8
  | [] => []
  | [c] => plainBytes plus c
  | [c, a] => plainBytes plus c ++ plainBytes plus a
  | c :: a :: b :: l =>
      match percentByte? c a b with
      | some byte => byte :: unquoteBytes l
      | none => plainBytes plus c ++ unquoteBytes (a :: b :: l)

/-- The text that a percent-encoded one stands for; `none` where its bytes are not UTF-8. -/
def unquote (l : List Char) : Option (List Char) := utf8? (unquoteBytes plus l)

variable {plus}

lemma unquoteBytes_plain {c : Char} (hc : c ≠ '%') (l : List Char) :
    unquoteBytes plus (c :: l) = plainBytes plus c ++ unquoteBytes plus l := by
  match l with
  | [] => simp [unquoteBytes]
  | [a] => rfl
  | a :: b :: l => rw [unquoteBytes, percentByte?, if_neg hc]

lemma hexDigit?_hexUpper {n : ℕ} (hn : n < 16) : hexDigit? (hexUpper n) = some n := by
  have hall : ∀ n < 16, hexDigit? (hexUpper n) = some n := by decide
  exact hall n hn

lemma unquoteBytes_percentByte (b : UInt8) (l : List Char) :
    unquoteBytes plus (percentByte b ++ l) = b :: unquoteBytes plus l := by
  have hb := b.toNat_lt
  have hbyte : UInt8.ofNat (16 * (b.toNat / 16) + b.toNat % 16) = b := by
    rw [Nat.div_add_mod, UInt8.ofNat_toNat]
  have hread : percentByte? '%' (hexUpper (b.toNat / 16)) (hexUpper (b.toNat % 16)) = some b := by
    rw [percentByte?, if_pos rfl, hexDigit?_hexUpper (by omega), hexDigit?_hexUpper (by omega),
      Option.bind_some, Option.map_some, hbyte]
  simp only [percentByte, List.cons_append, List.nil_append, unquoteBytes, hread]

lemma unquoteBytes_percentBytes (bytes : List UInt8) (l : List Char) :
    unquoteBytes plus (bytes.flatMap percentByte ++ l) = bytes ++ unquoteBytes plus l := by
  induction bytes with
  | nil => rfl
  | cons b bytes ih =>
    rw [List.flatMap_cons, List.append_assoc, unquoteBytes_percentByte, ih, List.cons_append]

/-- The text `t` reads as the character `c`. -/
def Reads (plus : Bool) (t : List Char) (c : Char) : Prop :=
  ∀ l, unquoteBytes plus (t ++ l) = String.utf8EncodeChar c ++ unquoteBytes plus l

lemma reads_self {c : Char} (hc : c ≠ '%') (hplus : plus = true → c ≠ '+') : Reads plus [c] c := by
  intro l
  have hself : plainBytes plus c = String.utf8EncodeChar c := by
    rw [plainBytes, if_neg (fun h => hplus h.1 h.2)]
  rw [List.cons_append, List.nil_append, unquoteBytes_plain hc, hself]

lemma isUnreserved_ne {c d : Char} (hc : isUnreserved c = true) (hd : isUnreserved d = false) :
    c ≠ d := by
  rintro rfl
  rw [hc] at hd
  exact absurd hd (by decide)

lemma reads_quoteChar {safe : List Char} (hpercent : '%' ∉ safe)
    (hplus : plus = true → '+' ∉ safe) (c : Char) : Reads plus (quoteChar safe c) c := by
  rw [quoteChar]
  split_ifs with hkept
  · rcases hkept with hkept | hsafe
    · exact reads_self (isUnreserved_ne hkept (by decide))
        fun _ => isUnreserved_ne hkept (by decide)
    · exact reads_self (ne_of_mem_of_not_mem hsafe hpercent)
        fun hp => ne_of_mem_of_not_mem hsafe (hplus hp)
  · exact fun l => unquoteBytes_percentBytes _ l

lemma unquote_flatMap {f : Char → List Char} {l : List Char}
    (hf : ∀ c ∈ l, Reads plus (f c) c) : unquote plus (l.flatMap f) = some l := by
  have hbytes : unquoteBytes plus (l.flatMap f) = utf8 l := by
    induction l with
    | nil => rfl
    | cons c l ih =>
      rw [List.flatMap_cons, hf c List.mem_cons_self,
        ih fun d hd => hf d (List.mem_cons_of_mem c hd)]
      rfl
  rw [unquote, hbytes, utf8?_utf8]

theorem unquote_quote {safe : List Char} (hpercent : '%' ∉ safe)
    (hplus : plus = true → '+' ∉ safe) (l : List Char) :
    unquote plus (quote safe l) = some l :=
  unquote_flatMap fun c _ => reads_quoteChar hpercent hplus c

theorem unquote_quotePlus {safe : List Char} (hpercent : '%' ∉ safe) (hplus : '+' ∉ safe)
    (l : List Char) : unquote true (quotePlus safe l) = some l := by
  refine unquote_flatMap fun c _ => ?_
  split_ifs with hblank
  · subst hblank
    exact fun l => unquoteBytes_plain (by decide) l
  · exact reads_quoteChar hpercent (fun _ => hplus) c

/-- A text with nothing to decode stands for itself. -/
theorem unquote_self {l : List Char} (hl : ∀ c ∈ l, c ≠ '%' ∧ (plus = true → c ≠ '+')) :
    unquote plus l = some l := by
  have hread := @unquote_flatMap plus (fun c => [c]) l
    fun c hc => reads_self (hl c hc).1 (hl c hc).2
  rwa [List.flatMap_singleton'] at hread

end

/-! ### Queries -/

/-- A name and its value, decoded. -/
def fieldEntry (item : List Char) : Option (List Char × List Char) :=
  match splitAtFirst (· = '=') item with
  | (name, value) => (unquote true name).bind fun n =>
      (unquote true (value.getD [])).map fun v => (n, v)

/-- The fields of a query, in its order. -/
def queryFields (query : List Char) : List (List Char × List Char) :=
  (query.splitOn '&').filterMap fieldEntry

/-- The first field of a name; one that is missing reads as empty. -/
def field (name : List Char) (fields : List (List Char × List Char)) : List Char :=
  ((fields.find? (·.1 = name)).map (·.2)).getD []

/-- A query of fields whose values are encoded. -/
def query (items : List (List Char × List Char)) : List Char :=
  ['&'].intercalate (items.map fun f => f.1 ++ '=' :: f.2)

/-- The path of a URL, and its query; a fragment is no part of either. -/
def splitUrl (url : List Char) : List Char × List Char :=
  let (path, query) := splitAtFirst (· = '?') (splitAtFirst (· = '#') url).1
  (path, query.getD [])

/-- The decoded parts of a path, the last one first. -/
def segments (path : List Char) : List (Option (List Char)) :=
  ((path.splitOn '/').map (unquote false)).reverse

lemma splitAtFirst_append {p : Char → Bool} {a : List Char} {c : Char} (b : List Char)
    (ha : ∀ d ∈ a, p d = false) (hc : p c = true) :
    splitAtFirst p (a ++ c :: b) = (a, some b) := by
  have htake : (a ++ c :: b).takeWhile (!p ·) = a := by
    rw [List.takeWhile_append_of_pos (by simpa using ha), List.takeWhile_cons_of_neg (by simp [hc]),
      List.append_nil]
  have hdrop : (a ++ c :: b).dropWhile (!p ·) = c :: b := by
    rw [List.dropWhile_append_of_pos (by simpa using ha), List.dropWhile_cons_of_neg (by simp [hc])]
  rw [splitAtFirst, htake, hdrop]
  rfl

lemma splitAtFirst_self {p : Char → Bool} {a : List Char} (ha : ∀ d ∈ a, p d = false) :
    splitAtFirst p a = (a, none) := by
  have htake : a.takeWhile (!p ·) = a := List.takeWhile_eq_self_iff.2 (by simpa using ha)
  have hdrop : a.dropWhile (!p ·) = [] := List.dropWhile_eq_nil_iff.2 (by simpa using ha)
  rw [splitAtFirst, htake, hdrop]
  rfl

/-- A name has none of the characters that a reader decodes or splits at. -/
def IsName (name : List Char) : Prop := ∀ c ∈ name, c ∉ ['=', '&', '#', '%', '+']

/-- An encoded value that reads as `v` and holds no separator. -/
structure Encodes (text v : List Char) : Prop where
  amp : '&' ∉ text
  hash : '#' ∉ text
  reads : unquote true text = some v

/-- A text with nothing to decode encodes itself. -/
lemma encodes_self {l : List Char} (hl : ∀ c ∈ l, c ∉ ['&', '#', '%', '+']) : Encodes l l where
  amp h := hl '&' h (by simp)
  hash h := hl '#' h (by simp)
  reads := unquote_self fun c hc => by
    have hne := hl c hc
    simp only [List.mem_cons, not_or] at hne
    exact ⟨hne.2.2.1, fun _ => hne.2.2.2.1⟩

lemma not_mem_quoteChar {safe : List Char} {c d : Char} (hd : isUnreserved d = false)
    (hpercent : d ≠ '%') (hsafe : d ∉ safe) : d ∉ quoteChar safe c := by
  have hhex : ∀ n < 16, hexUpper n ≠ d := by
    have hall : ∀ n < 16, isUnreserved (hexUpper n) = true := by decide
    exact fun n hn => isUnreserved_ne (hall n hn) hd
  rw [quoteChar]
  split_ifs with hkept
  · rw [List.mem_singleton]
    rintro rfl
    rcases hkept with hkept | hkept
    · rw [hkept] at hd
      cases hd
    · exact hsafe hkept
  · intro hmem
    obtain ⟨b, -, hb⟩ := List.mem_flatMap.1 hmem
    have hlt := b.toNat_lt
    simp only [percentByte, List.mem_cons, List.not_mem_nil, or_false] at hb
    rcases hb with rfl | hb | hb
    · exact hpercent rfl
    · exact hhex (b.toNat / 16) (by omega) hb.symm
    · exact hhex (b.toNat % 16) (by omega) hb.symm

lemma encodes_quote {safe : List Char} (hsafe : ∀ c ∈ safe, c ∉ ['&', '#', '%', '+'])
    (l : List Char) : Encodes (quote safe l) l := by
  have hnot : ∀ d ∈ ['&', '#', '%', '+'], d ∉ safe := fun d hd hmem => hsafe d hmem hd
  have hfree : ∀ d ∈ ['&', '#'], d ∉ quote safe l := by
    intro d hd hmem
    obtain ⟨c, -, hc⟩ := List.mem_flatMap.1 hmem
    have hmarks : ∀ d ∈ ['&', '#'], isUnreserved d = false ∧ d ≠ '%' ∧
        d ∈ ['&', '#', '%', '+'] := by
      decide
    obtain ⟨hres, hpercent, hmark⟩ := hmarks d hd
    exact not_mem_quoteChar hres hpercent (hnot d hmark) hc
  exact ⟨hfree '&' (by simp), hfree '#' (by simp),
    unquote_quote (hnot '%' (by simp)) (fun _ => hnot '+' (by simp)) l⟩

/-- What `quote_plus` writes stands for the value. -/
lemma encodes_quotePlus {safe : List Char} (hsafe : ∀ c ∈ safe, c ∉ ['&', '#', '%', '+'])
    (l : List Char) : Encodes (quotePlus safe l) l := by
  have hnot : ∀ d ∈ ['&', '#', '%', '+'], d ∉ safe := fun d hd hmem => hsafe d hmem hd
  have hfree : ∀ d ∈ ['&', '#'], d ∉ quotePlus safe l := by
    intro d hd hmem
    obtain ⟨c, -, hc⟩ := List.mem_flatMap.1 hmem
    have hmarks : ∀ d ∈ ['&', '#'], isUnreserved d = false ∧ d ≠ '%' ∧ d ≠ '+' ∧
        d ∈ ['&', '#', '%', '+'] := by
      decide
    obtain ⟨hres, hpercent, hplus, hmark⟩ := hmarks d hd
    split_ifs at hc
    · exact hplus (List.mem_singleton.1 hc)
    · exact not_mem_quoteChar hres hpercent (hnot d hmark) hc
  exact ⟨hfree '&' (by simp), hfree '#' (by simp),
    unquote_quotePlus (hnot '%' (by simp)) (hnot '+' (by simp)) l⟩

/-- An item of a query: the name, the value, and the text of the value. -/
structure Item where
  name : List Char
  value : List Char
  text : List Char

structure Item.Sound (f : Item) : Prop where
  name : IsName f.name
  encodes : Encodes f.text f.value

lemma Item.Sound.fieldEntry {f : Item} (h : f.Sound) :
    fieldEntry (f.name ++ '=' :: f.text) = some (f.name, f.value) := by
  have hsplit : splitAtFirst (· = '=') (f.name ++ '=' :: f.text) = (f.name, some f.text) := by
    refine splitAtFirst_append f.text (fun c hc => ?_) (by simp)
    have hne := h.name c hc
    simp only [List.mem_cons, not_or] at hne
    exact decide_eq_false hne.1
  have hself : unquote true f.name = some f.name := by
    refine unquote_self fun c hc => ?_
    have hne := h.name c hc
    simp only [List.mem_cons, not_or] at hne
    exact ⟨hne.2.2.2.1, fun _ => hne.2.2.2.2.1⟩
  rw [UrlText.fieldEntry, hsplit]
  simp only [hself, Option.bind_some, Option.getD_some, h.encodes.reads, Option.map_some]

lemma Item.Sound.free {f : Item} (h : f.Sound) :
    '&' ∉ f.name ++ '=' :: f.text ∧ '#' ∉ f.name ++ '=' :: f.text := by
  have hamp : '&' ∉ f.name := fun hmem => h.name '&' hmem (by simp)
  have hhash : '#' ∉ f.name := fun hmem => h.name '#' hmem (by simp)
  simp only [List.mem_append, List.mem_cons, not_or]
  exact ⟨⟨hamp, by decide, h.encodes.amp⟩, ⟨hhash, by decide, h.encodes.hash⟩⟩

def queryOf (items : List Item) : List Char := query (items.map fun f => (f.name, f.text))

lemma queryOf_eq (items : List Item) :
    queryOf items = ['&'].intercalate (items.map fun f => f.name ++ '=' :: f.text) := by
  rw [queryOf, query, List.map_map]
  rfl

/-- The fields of a query read as the ones it was written from. -/
theorem queryFields_queryOf {items : List Item} (hne : items ≠ []) (h : ∀ f ∈ items, f.Sound) :
    queryFields (queryOf items) = items.map fun f => (f.name, f.value) := by
  have hfree : ∀ item ∈ items.map fun f => f.name ++ '=' :: f.text, '&' ∉ item := by
    intro item hitem
    obtain ⟨f, hf, rfl⟩ := List.mem_map.1 hitem
    exact (h f hf).free.1
  rw [queryFields, queryOf_eq, List.splitOn_intercalate '&' hfree (by simpa using hne)]
  clear hne hfree
  induction items with
  | nil => rfl
  | cons f items ih =>
    rw [List.map_cons, List.filterMap_cons, (h f List.mem_cons_self).fieldEntry,
      ih fun g hg => h g (List.mem_cons_of_mem f hg), List.map_cons]

lemma hash_not_mem_queryOf {items : List Item} (h : ∀ f ∈ items, f.Sound) :
    '#' ∉ queryOf items := by
  rw [queryOf_eq]
  induction items with
  | nil => exact List.not_mem_nil
  | cons f items ih =>
    have hf := (h f List.mem_cons_self).free.2
    have hrest := ih fun g hg => h g (List.mem_cons_of_mem f hg)
    cases items with
    | nil => simpa using hf
    | cons g items =>
      rw [List.map_cons] at hrest
      rw [List.map_cons, List.map_cons, List.intercalate_cons_cons]
      intro hmem
      rcases List.mem_append.1 hmem with hmem | hmem
      · rcases List.mem_append.1 hmem with hmem | hmem
        · exact hf hmem
        · exact absurd hmem (by decide)
      · exact hrest hmem

/-- A path and a query with neither mark in them are told apart. -/
theorem splitUrl_append {path query : List Char} (hpath : '?' ∉ path ∧ '#' ∉ path)
    (hquery : '#' ∉ query) : splitUrl (path ++ '?' :: query) = (path, query) := by
  have hwhole : splitAtFirst (· = '#') (path ++ '?' :: query) = (path ++ '?' :: query, none) := by
    refine splitAtFirst_self fun c hc => ?_
    rw [List.mem_append, List.mem_cons] at hc
    rcases hc with hc | rfl | hc
    · exact decide_eq_false (ne_of_mem_of_not_mem hc hpath.2)
    · decide
    · exact decide_eq_false (ne_of_mem_of_not_mem hc hquery)
  have hsplit : splitAtFirst (· = '?') (path ++ '?' :: query) = (path, some query) :=
    splitAtFirst_append query (fun c hc => decide_eq_false (ne_of_mem_of_not_mem hc hpath.1))
      (by simp)
  rw [splitUrl, hwhole, hsplit]
  rfl

lemma splitUrl_self {path : List Char} (hpath : '?' ∉ path ∧ '#' ∉ path) :
    splitUrl path = (path, []) := by
  rw [splitUrl,
    splitAtFirst_self fun c hc => decide_eq_false (ne_of_mem_of_not_mem hc hpath.2),
    splitAtFirst_self fun c hc => decide_eq_false (ne_of_mem_of_not_mem hc hpath.1)]
  rfl

/-- The last part of a path. -/
lemma segments_append (a : List Char) {b : List Char} (hb : '/' ∉ b) :
    segments (a ++ '/' :: b) = unquote false b :: segments a := by
  rw [segments, List.splitOn_append_cons_self, List.splitOn_eq_singleton hb, List.map_append,
    List.reverse_append]
  rfl

/-- The parts at the end of a path. -/
theorem segments_parts (front : List Char) {parts : List (List Char)}
    (hparts : ∀ p ∈ parts, ∀ c ∈ p, c ≠ '/' ∧ c ≠ '%') :
    segments (front ++ parts.flatMap ('/' :: ·)) = parts.reverse.map some ++ segments front := by
  induction parts generalizing front with
  | nil => rw [List.flatMap_nil, List.append_nil, List.reverse_nil, List.map_nil, List.nil_append]
  | cons p parts ih =>
    have hp := hparts p List.mem_cons_self
    have hself : unquote false p = some p :=
      unquote_self fun c hc => ⟨(hp c hc).2, fun h => absurd h (by decide)⟩
    rw [List.flatMap_cons, ← List.append_assoc,
      ih _ fun q hq => hparts q (List.mem_cons_of_mem p hq),
      segments_append front fun hmem => (hp '/' hmem).1 rfl, hself, List.reverse_cons,
      List.map_append, List.append_assoc]
    rfl

/-- A field that is left out because it is empty reads the same. -/
lemma field_filter {name : List Char} {fields : List (List Char × List Char)}
    (hnodup : (fields.map (·.1)).Nodup) :
    field name (fields.filter (·.2 ≠ [])) = field name fields := by
  induction fields with
  | nil => rfl
  | cons f fields ih =>
    rw [List.map_cons, List.nodup_cons] at hnodup
    have hrest := ih hnodup.2
    by_cases hname : f.1 = name
    · by_cases hempty : f.2 = []
      · have hnone : fields.find? (·.1 = name) = none := by
          refine List.find?_eq_none.2 fun g hg => ?_
          have hne : g.1 ≠ name := fun h =>
            hnodup.1 (by rw [hname, ← h]; exact List.mem_map_of_mem hg)
          simpa using hne
        have hmissing : field name fields = [] := by
          rw [field, hnone]
          rfl
        rw [List.filter_cons_of_neg (by simpa using hempty), hrest, hmissing, field,
          List.find?_cons_of_pos (by simpa using hname)]
        exact hempty.symm
      · rw [List.filter_cons_of_pos (by simpa using hempty), field, field,
          List.find?_cons_of_pos (by simpa using hname),
          List.find?_cons_of_pos (by simpa using hname)]
    · have hskip : ∀ l, field name (f :: l) = field name l := fun l => by
        rw [field, List.find?_cons_of_neg (by simpa using hname), ← field]
      rw [hskip, ← hrest]
      by_cases hempty : f.2 = []
      · rw [List.filter_cons_of_neg (by simpa using hempty)]
      · rw [List.filter_cons_of_pos (by simpa using hempty), hskip]

end SherwoodMonitor.UrlText
