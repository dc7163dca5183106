import SherwoodMonitor.LinkMessages
import SherwoodMonitor.Library.UrlText

/-! The payloads of `/start` deep links (`telegram/links.py`) and the callback data of buttons
(`telegram/cards.py`), and what reading them back gives. -/
namespace SherwoodMonitor.PayloadCodecs
open PyUnicode PyText PyJson Models Service Effects FundWrites Links LinkMessages Separated UrlText

--- /start payloads

def startKinds : List (String × String) :=
  [("join", "j"), ("deposit", "d"), ("withdraw", "w"), ("vote", "v"), ("propose", "p")]

def startPayloadMax : ℕ := 64

/-- `START_KINDS.get(kind)`. -/
def startCode (kind : String) : Option String := (startKinds.find? fun e => e.1 = kind).map (·.2)

/-- `_START_KINDS_REV.get(code)`. -/
def startKind (code : String) : Option String := (startKinds.find? fun e => e.2 = code).map (·.1)

/-- `[0-9A-Za-z_-]{1,40}`. -/
def isItem (l : List Char) : Bool := 1 ≤ l.length && l.length ≤ 40 && l.all isTokenChar

/-- The item id of a payload after its underscore; no item id adds nothing. -/
def itemPart (itemId : Json) : Except Exc String :=
  match itemId with
  | .null => return ""
  | v => do
    raiseIf (isItem (beforeDollar v.toStr) = false) .value
      ("item id not start-payload safe: " ++ v.reprJson)
    return "_" ++ v.toStr

def encodeStartPayload (kind vault : String) (itemId : Json) : Except Exc String := do
  match startCode kind with
  | none => throw (.raised .value ("unknown start kind: " ++ reprText kind))
  | some code => do
    let address ← canonicalAddress vault
    let item ← itemPart itemId
    let payload := "sf" ++ code ++ "_" ++ String.ofList (address.toList.drop 2) ++ item
    raiseIf (startPayloadMax < payload.length) .value "start payload over 64 chars"
    return payload

/-- The optional group `(?:_([0-9A-Za-z_-]{1,40}))?` up to the end; `none` where it does not match. -/
def matchItem : List Char → Option (Option String)
  | [] => some none
  | c :: item => if c = '_' ∧ isItem item then some (some (String.ofList item)) else none

/-- `^sf([a-z])_([0-9a-f]{40})(?:_([0-9A-Za-z_-]{1,40}))?$`. -/
def matchStart : List Char → Option (String × String × Option String)
  | 's' :: 'f' :: code :: '_' :: rest => do
    guard (code.isLower ∧ (rest.take 40).length = 40 ∧ (rest.take 40).all isLowerHex)
    let item ← matchItem (rest.drop 40)
    return (String.singleton code, String.ofList (rest.take 40), item)
  | _ => none

def decodeStartPayload (payload : String) : Option (String × String × Option String) := do
  let (code, vault, item) ← matchStart (beforeDollar (strip payload))
  let kind ← startKind code
  return (kind, "0x" ++ vault, item)

--- callback data

def callbackPrefix : String := "shfund"

def callbackMaxBytes : ℕ := 64

def cb (action : String) (arg : Json) : Except Exc String := do
  let data := callbackPrefix ++ ":" ++ action ++ ":" ++ arg.toStr
  raiseIf (callbackMaxBytes < (utf8 data.toList).length) .value
    ("callback_data over 64 bytes: " ++ reprText data)
  return data

def parseCb (data : String) : Option (String × String) :=
  match splitN ':' 2 data.toList with
  | [pre, action, arg] =>
    if pre ≠ callbackPrefix.toList ∨ action = [] then none
    else some (String.ofList action, String.ofList arg)
  | _ => none

--- what is read back

/-- The item id as a string. -/
def itemText : Json → Option String
  | .null => none
  | v => some v.toStr

/-- What is accepted fits and is read back as it was given, the vault in its canonical form. -/
def StartCodec (kind vault : String) (itemId : Json) : Prop :=
  ∀ payload, encodeStartPayload kind vault itemId = .ok payload →
    payload.length ≤ 64 ∧ ∃ v, canonicalAddress vault = .ok v ∧
      decodeStartPayload payload = some (kind, v, itemText itemId)

def CallbackCodec (action : String) (arg : Json) : Prop :=
  action ≠ "" → ':' ∉ action.toList → ∀ data, cb action arg = .ok data →
    parseCb data = some (action, arg.toStr)

/-- An item id of safe characters and a newline after them, which fits. -/
def NewlineItem (itemId : Json) : Prop :=
  ∃ w : List Char, itemId.toStr = String.ofList (w ++ ['\n']) ∧ 1 ≤ w.length ∧ w.length ≤ 18 ∧
    ∀ c ∈ w, isTokenChar c = true

theorem callbackCodec (action : String) (arg : Json) : CallbackCodec action arg := by
  intro hne hcolon data hdata
  simp only [cb, bind_eq_ok, raiseIf_eq_ok, pure_eq_ok] at hdata
  obtain ⟨-, -, rfl⟩ := hdata
  have hsplit : (callbackPrefix ++ ":" ++ action ++ ":" ++ arg.toStr).toList =
      callbackPrefix.toList ++ ':' :: (action.toList ++ ':' :: arg.toStr.toList) := by
    simp [String.toList_append]
  have hfirst : ':' ∉ callbackPrefix.toList := by decide
  rw [parseCb, hsplit, splitN_append 1 _ hfirst, splitN_append 0 _ hcolon, splitN]
  have haction : action.toList ≠ [] := fun h => hne (by rw [← String.ofList_toList (s := action), h])
  simp [haction]

lemma encode_eq_ok {kind vault payload : String} {itemId : Json} :
    encodeStartPayload kind vault itemId = .ok payload ↔
      ∃ code v item, startCode kind = some code ∧ canonicalAddress vault = .ok v ∧
        itemPart itemId = .ok item ∧ payload.length ≤ 64 ∧
        payload = "sf" ++ code ++ "_" ++ String.ofList (v.toList.drop 2) ++ item := by
  rw [encodeStartPayload]
  cases startCode kind with
  | none => simp [throw_ne_ok]
  | some code =>
    simp only [bind_eq_ok, raiseIf_eq_ok, pure_eq_ok, not_lt, Option.some.injEq]
    constructor
    · rintro ⟨v, hv, item, hitem, -, hlen, rfl⟩
      exact ⟨code, v, item, rfl, hv, hitem, hlen, rfl⟩
    · rintro ⟨_, v, item, rfl, hv, hitem, hlen, rfl⟩
      exact ⟨v, hv, item, hitem, (), hlen, rfl⟩

/-- The code of a kind is one lowercase letter, and stands for no other kind. -/
lemma startCode_spec {kind code : String} (h : startCode kind = some code) :
    startKind code = some kind ∧ ∃ c : Char, code = String.singleton c ∧ c.isLower = true := by
  have hall : ∀ e ∈ startKinds, startKind e.2 = some e.1 ∧
      e.2 = String.singleton (e.2.toList.headD 'a') ∧ (e.2.toList.headD 'a').isLower = true := by
    decide
  rw [startCode, Option.map_eq_some_iff] at h
  obtain ⟨e, he, rfl⟩ := h
  have hkind : e.1 = kind := by simpa using List.find?_some he
  obtain ⟨hback, hone, hlower⟩ := hall e (List.mem_of_find?_eq_some he)
  exact ⟨hkind ▸ hback, _, hone, hlower⟩

lemma toNat_lt_of_isTokenChar {c : Char} (hc : isTokenChar c = true) : c.toNat < 128 := by
  have halpha : c.isAlpha = (c.isUpper || c.isLower) := rfl
  have hupper : c.isUpper = decide (c.val ≥ 65 ∧ c.val ≤ 90) := rfl
  have hlower : c.isLower = (decide (c.val ≥ 97) && decide (c.val ≤ 122)) := rfl
  simp only [isTokenChar, Char.isAlphanum, halpha, hupper, hlower, Char.isDigit,
    Bool.or_eq_true, Bool.and_eq_true, decide_eq_true_eq, ge_iff_le, UInt32.le_iff_toNat_le] at hc
  rcases hc with ((h | h) | rfl) | rfl
  · rcases h with h | h <;> exact lt_of_le_of_lt h.2 (by decide)
  · exact lt_of_le_of_lt h.2 (by decide)
  · decide
  · decide

lemma isSpace_of_isTokenChar {c : Char} (hc : isTokenChar c = true) : isSpace c = false := by
  have hall : ∀ n < 128, isTokenChar (Char.ofNat n) = true → isSpace (Char.ofNat n) = false := by
    decide
  have h := hall c.toNat (toNat_lt_of_isTokenChar hc)
  rw [Char.ofNat_toNat] at h
  exact h hc

lemma isTokenChar_of_isLowerHex {c : Char} (hc : isLowerHex c = true) : isTokenChar c = true := by
  have hall : ∀ n < 128, isLowerHex (Char.ofNat n) = true → isTokenChar (Char.ofNat n) = true := by
    decide
  have h := hall c.toNat (toNat_lt_of_isHexChar (isHexChar_of_isLowerHex hc))
  rw [Char.ofNat_toNat] at h
  exact h hc

lemma isTokenChar_of_isLower {c : Char} (hc : c.isLower = true) : isTokenChar c = true := by
  have halpha : c.isAlpha = (c.isUpper || c.isLower) := rfl
  simp [isTokenChar, Char.isAlphanum, halpha, hc]

/-- The built text reads as its parts. -/
lemma matchStart_built {c : Char} {hex tail : List Char} (hc : c.isLower = true)
    (hlen : hex.length = 40) (hhex : ∀ d ∈ hex, isLowerHex d = true) :
    matchStart ('s' :: 'f' :: c :: '_' :: (hex ++ tail)) =
      (matchItem tail).map fun item => (String.singleton c, String.ofList hex, item) := by
  have htake : (hex ++ tail).take 40 = hex := by rw [← hlen, List.take_left]
  have hdrop : (hex ++ tail).drop 40 = tail := by rw [← hlen, List.drop_left]
  have hall : hex.all isLowerHex = true := List.all_eq_true.2 hhex
  rw [matchStart, htake, hdrop]
  cases matchItem tail <;> simp [hc, hlen, hall]

/-- What a safe item id looks like: the pattern's `$` lets a newline at the end pass. -/
lemma itemPart_eq_ok {itemId : Json} {item : String} :
    itemPart itemId = .ok item ↔
      itemId = .null ∧ item = "" ∨ itemText itemId = some itemId.toStr ∧
        item = "_" ++ itemId.toStr ∧ isItem (beforeDollar itemId.toStr) = true := by
  by_cases hnull : itemId = .null
  · subst hnull
    rw [itemPart, pure_eq_ok]
    constructor
    · rintro rfl
      exact Or.inl ⟨rfl, rfl⟩
    · rintro (⟨-, rfl⟩ | ⟨htext, -⟩)
      · rfl
      · cases htext
  · have hpart : itemPart itemId = do
        raiseIf (isItem (beforeDollar itemId.toStr) = false) .value
          ("item id not start-payload safe: " ++ itemId.reprJson)
        return "_" ++ itemId.toStr := by
      cases itemId <;> first | exact absurd rfl hnull | rfl
    have htext : itemText itemId = some itemId.toStr := by
      cases itemId <;> first | exact absurd rfl hnull | rfl
    simp only [hpart, bind_eq_ok, raiseIf_eq_ok, pure_eq_ok, Bool.not_eq_false, hnull, false_and,
      false_or, htext, true_and]
    constructor
    · rintro ⟨-, hsafe, rfl⟩
      exact ⟨rfl, hsafe⟩
    · rintro ⟨rfl, hsafe⟩
      exact ⟨(), hsafe, rfl⟩

lemma beforeDollar_eq {s : String} {w : List Char} (hw : ∀ c ∈ w, isTokenChar c = true) :
    beforeDollar s = w ↔ s.toList = w ∨ s.toList = w ++ ['\n'] := by
  rw [beforeDollar]
  constructor
  · split_ifs with hlast
    · obtain ⟨v, hv⟩ := List.getLast?_eq_some_iff.1 hlast
      rw [hv, List.dropLast_concat]
      rintro rfl
      exact Or.inr rfl
    · exact Or.inl
  · rintro (hs | hs)
    · rw [hs, if_neg]
      intro hlast
      exact absurd (hw '\n' (List.mem_of_getLast? hlast)) (by decide)
    · rw [hs, if_pos List.getLast?_concat, List.dropLast_concat]

/-- A text of safe characters, with or without a newline after it, is read without it. -/
lemma beforeDollar_strip_of_token {s : String} {l : List Char}
    (hl : ∀ c ∈ l, isTokenChar c = true) (hs : s.toList = l ∨ s.toList = l ++ ['\n']) :
    beforeDollar (strip s) = l := by
  have hself : stripChars l = l :=
    stripChars_eq_self (fun c hc => isSpace_of_isTokenChar (hl c (List.mem_of_head? hc)))
      fun c hc => isSpace_of_isTokenChar (hl c (List.mem_of_getLast? hc))
  rw [beforeDollar_strip, toList_strip]
  rcases hs with hs | hs
  · rw [hs, hself]
  · rw [hs, stripChars_concat (by decide), hself]

/-- What is read from a payload: its item id without a newline at the end. -/
lemma decode_of_encode {kind vault payload : String} {itemId : Json}
    (h : encodeStartPayload kind vault itemId = .ok payload) :
    payload.length ≤ 64 ∧ ∃ v, canonicalAddress vault = .ok v ∧
      decodeStartPayload payload = some (kind, v,
        (itemText itemId).map fun s => String.ofList (beforeDollar s)) := by
  obtain ⟨code, v, item, hcode, hv, hitem, hlen, rfl⟩ := encode_eq_ok.1 h
  obtain ⟨hkind, c, rfl, hc⟩ := startCode_spec hcode
  obtain ⟨hex, hvl, hhexlen, hhex⟩ := canonicalAddress_chars hv
  refine ⟨hlen, v, hv, ?_⟩
  have hvback : "0x" ++ String.ofList hex = v := by
    simp [← String.toList_inj, String.toList_append, hvl]
  have hread : ∀ tail : List Char, (∀ d ∈ tail, isTokenChar d = true) → ∀ text : Option String,
      matchItem tail = some text → item.toList = tail ∨ item.toList = tail ++ ['\n'] →
      decodeStartPayload ("sf" ++ String.singleton c ++ "_" ++ String.ofList (v.toList.drop 2) ++ item)
        = some (kind, v, text) := by
    intro tail htail text htext hend
    have htoken : ∀ d ∈ 's' :: 'f' :: c :: '_' :: (hex ++ tail), isTokenChar d = true := by
      simp only [List.forall_mem_cons, List.forall_mem_append]
      exact ⟨by decide, by decide, isTokenChar_of_isLower hc, by decide,
        fun d hd => isTokenChar_of_isLowerHex (hhex d hd), htail⟩
    rw [decodeStartPayload, beforeDollar_strip_of_token htoken, matchStart_built hc hhexlen hhex,
      htext, Option.map_some, Option.bind_eq_bind, Option.bind_some]
    · simp [hkind, hvback]
    · rcases hend with hend | hend <;> simp [hend, hvl]
  rcases itemPart_eq_ok.1 hitem with ⟨rfl, rfl⟩ | ⟨htext, rfl, hsafe⟩
  · exact hread [] (by simp) none rfl (Or.inl rfl)
  · rw [htext, Option.map_some]
    have htoken : ∀ d ∈ beforeDollar itemId.toStr, isTokenChar d = true := by
      simp only [isItem, Bool.and_eq_true, List.all_eq_true] at hsafe
      exact hsafe.2
    refine hread ('_' :: beforeDollar itemId.toStr) ?_ _ (by simp [matchItem, hsafe]) ?_
    · exact List.forall_mem_cons.2 ⟨by decide, htoken⟩
    · rcases (beforeDollar_eq htoken).1 rfl with hs | hs
      · exact Or.inl (by simp [String.toList_append, ← hs])
      · exact Or.inr (by simp [String.toList_append, ← hs])

lemma toStr_of_newline {itemId : Json} {w : List Char}
    (h : itemId.toStr = String.ofList (w ++ ['\n'])) :
    itemText itemId = some itemId.toStr ∧ itemId.toStr.toList = w ++ ['\n'] := by
  have hlist : itemId.toStr.toList = w ++ ['\n'] := by rw [h, String.toList_ofList]
  refine ⟨?_, hlist⟩
  cases itemId with
  | null =>
    have hlast := congrArg List.getLast? hlist
    rw [List.getLast?_concat] at hlast
    exact absurd hlast (by decide)
  | _ => rfl

/-- The length of a payload, from its parts. -/
lemma length_payload {code v item : String} {hex : List Char} (hcode : code.length = 1)
    (hv : v.toList = '0' :: 'x' :: hex) (hlen : hex.length = 40) :
    ("sf" ++ code ++ "_" ++ String.ofList (v.toList.drop 2) ++ item).length = 44 + item.length := by
  simp only [String.length_append, hcode, hv, String.length_ofList, List.drop_succ_cons,
    List.drop_zero, hlen]
  rfl

/-- The payloads are read back as they were given, but for an item id that ends in a newline: the
pattern that checks it lets the newline pass, and the reader strips it. Callback data is always read
back. -/
theorem codecs_iff (kind vault : String) (itemId : Json) (action : String) (arg : Json) :
    CallbackCodec action arg ∧
      (StartCodec kind vault itemId ↔
        ¬((startCode kind).isSome ∧ (∃ v, canonicalAddress vault = .ok v) ∧ NewlineItem itemId)) := by
  refine ⟨callbackCodec action arg, ⟨?_, ?_⟩⟩
  · rintro hcodec ⟨hknown, ⟨v, hv⟩, w, htext, hpos, hmax, hw⟩
    obtain ⟨code, hcode⟩ := Option.isSome_iff_exists.1 hknown
    obtain ⟨-, c, rfl, -⟩ := startCode_spec hcode
    obtain ⟨hex, hvl, hhexlen, -⟩ := canonicalAddress_chars hv
    obtain ⟨hsome, hlist⟩ := toStr_of_newline htext
    have hdollar : beforeDollar itemId.toStr = w := (beforeDollar_eq hw).2 (Or.inr hlist)
    have hsafe : isItem w = true := by
      have h40 : w.length ≤ 40 := hmax.trans (by decide)
      simp [isItem, hpos, h40, List.all_eq_true.2 hw]
    have hitem := itemPart_eq_ok.2 (Or.inr ⟨hsome, rfl, hdollar ▸ hsafe⟩)
    have hlength : ("_" ++ itemId.toStr).length = w.length + 2 := by
      rw [String.length_append, ← String.length_toList (s := itemId.toStr), hlist,
        List.length_append]
      exact Nat.add_comm 1 _
    have hencode := encode_eq_ok.2 ⟨_, v, _, hcode, hv, hitem,
      by rw [length_payload String.length_singleton hvl hhexlen, hlength]; omega, rfl⟩
    obtain ⟨-, v₁, -, hread⟩ := hcodec _ hencode
    obtain ⟨-, v₂, -, hdecode⟩ := decode_of_encode hencode
    -- read back without the newline
    rw [hdecode, hsome, Option.map_some, hdollar, htext] at hread
    have hsame := congrArg String.length (Option.some.inj (Prod.ext_iff.1 (Prod.ext_iff.1
      (Option.some.inj hread)).2).2)
    rw [String.length_ofList, String.length_ofList, List.length_append] at hsame
    exact absurd hsame (by simp)
  · intro hno payload hencode
    obtain ⟨hlen, v, hv, hdecode⟩ := decode_of_encode hencode
    refine ⟨hlen, v, hv, hdecode.trans ?_⟩
    obtain ⟨code, v', item, hcode, hv', hitem, -, rfl⟩ := encode_eq_ok.1 hencode
    rcases itemPart_eq_ok.1 hitem with ⟨rfl, rfl⟩ | ⟨hsome, rfl, hsafe⟩
    · rfl
    · simp only [isItem, Bool.and_eq_true, decide_eq_true_eq, List.all_eq_true] at hsafe
      obtain ⟨⟨hpos, -⟩, htoken⟩ := hsafe
      rcases (beforeDollar_eq htoken).1 rfl with hs | hs
      · rw [hsome, Option.map_some, ← hs, String.ofList_toList]
      · obtain ⟨-, c, rfl, -⟩ := startCode_spec hcode
        obtain ⟨hex, hvl, hhexlen, -⟩ := canonicalAddress_chars hv'
        rw [length_payload String.length_singleton hvl hhexlen, String.length_append,
          ← String.length_toList (s := itemId.toStr), hs, List.length_append] at hlen
        refine absurd ⟨Option.isSome_iff_exists.2 ⟨_, hcode⟩, ⟨v, hv⟩, _, ?_, hpos, ?_, htoken⟩ hno
        · rw [← hs, String.ofList_toList]
        · have h1 : ("_" : String).length = 1 := rfl
          rw [h1, List.length_singleton] at hlen
          omega

/-- An item id that ends in a newline is accepted and comes back without it. -/
theorem not_startCodec :
    ¬StartCodec "vote" "0x1111111111111111111111111111111111111111" (.str "42\n") := by
  intro hcodec
  have hencode : encodeStartPayload "vote" "0x1111111111111111111111111111111111111111"
      (.str "42\n") = .ok "sfv_1111111111111111111111111111111111111111_42\n" := by
    decide +kernel
  obtain ⟨-, v, -, hdecode⟩ := hcodec _ hencode
  have hread : decodeStartPayload "sfv_1111111111111111111111111111111111111111_42\n" =
      some ("vote", "0x1111111111111111111111111111111111111111", some "42") := by
    decide +kernel
  rw [hread] at hdecode
  simp [itemText, Json.toStr] at hdecode

end SherwoodMonitor.PayloadCodecs
