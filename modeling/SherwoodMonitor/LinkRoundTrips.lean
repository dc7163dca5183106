import SherwoodMonitor.LinkMessages
import SherwoodMonitor.LinkUrls

/-! What the page reads off a link is what was signed. The builders canonicalise their parameters
before and again inside the signed text; nothing of a field is lost on the way through the URL. -/
namespace SherwoodMonitor.LinkRoundTrips
open PyUnicode PyText PyNumber PyJson JsonText UrlText Models Rules Service ChainCard Effects
  FundWrites Separated Links LinkMessages LinkUrls

/-! ### Canonical values stay -/

lemma isHexOrX_of_mem {l : List Char} (hhex : ∀ c ∈ l, isHexChar c = true) :
    ∀ c ∈ '0' :: 'x' :: l, isHexOrX c = true := by
  intro c hc
  rw [List.mem_cons, List.mem_cons] at hc
  rcases hc with rfl | rfl | hc
  · decide
  · decide
  · rw [isHexOrX, hhex c hc, Bool.true_or]

lemma toNat_lt_of_isHexOrX {c : Char} (hc : isHexOrX c = true) : c.toNat < 128 := by
  rw [isHexOrX, Bool.or_eq_true, decide_eq_true_eq] at hc
  rcases hc with h | rfl
  · exact toNat_lt_of_isHexChar h
  · decide

/-- An address has no blanks at its ends. -/
lemma stripChars_of_isHexOrX {l : List Char} (hl : ∀ c ∈ l, isHexOrX c = true) :
    stripChars l = l := by
  have hspace : ∀ c ∈ l, isSpace c = false := by
    have hall : ∀ n < 128, isHexOrX (Char.ofNat n) = true → isSpace (Char.ofNat n) = false := by
      decide
    intro c hc
    have h := hall c.toNat (toNat_lt_of_isHexOrX (hl c hc))
    rw [Char.ofNat_toNat] at h
    exact h (hl c hc)
  exact stripChars_eq_self (fun c hc => hspace c (List.mem_of_head? hc))
    fun c hc => hspace c (List.mem_of_getLast? hc)

/-- A newline that an address pattern lets pass goes with the blanks. -/
lemma isAddress_strip {v : String} (h : isAddress v = true) : isAddress (strip v) = true := by
  have hcopy := h
  simp only [isAddress, isHexData, Bool.and_eq_true, decide_eq_true_eq] at hcopy
  obtain ⟨hhex, hlength⟩ := hcopy
  have hchars : ∀ c ∈ beforeDollar v, isHexOrX c = true := by
    split at hhex
    · next l hl =>
      rw [hl]
      exact isHexOrX_of_mem (List.all_eq_true.1 hhex)
    · cases hhex
  have hstrip : stripChars v.toList = beforeDollar v := by
    rw [beforeDollar] at hchars ⊢
    split_ifs at hchars ⊢ with hlast
    · obtain ⟨hne, hlast'⟩ := List.getLast?_eq_some_iff.1 hlast
      rw [hlast', stripChars_concat (by decide), List.dropLast_concat]
      rw [hlast', List.dropLast_concat] at hchars
      exact stripChars_of_isHexOrX hchars
    · exact stripChars_of_isHexOrX hchars
  have hsame : beforeDollar (strip v) = beforeDollar v := by
    rw [beforeDollar_strip, toList_strip, hstrip]
  rw [isAddress, isHexData, hsame, ← isHexData, ← isAddress, h]

/-- An address in any case. -/
lemma canonicalAddress_hex {s : String} {l : List Char} (hs : s.toList = '0' :: 'x' :: l)
    (hlen : l.length = 40) (hhex : ∀ c ∈ l, isHexChar c = true) :
    canonicalAddress s = .ok (String.ofList ('0' :: 'x' :: l.map lowerChar)) := by
  have hchars := isHexOrX_of_mem hhex
  rw [← hs] at hchars
  have hascii : ∀ c ∈ s.toList, c.toNat < 128 := fun c hc => toNat_lt_of_isHexOrX (hchars c hc)
  have hstrip : strip s = s := by
    rw [strip, stripChars_of_isHexOrX hchars, String.ofList_toList]
  have hdollar : beforeDollar s = '0' :: 'x' :: l := by
    rw [← hstrip, beforeDollar_strip, hstrip, hs]
  have haddress : isAddress s = true := by
    rw [isAddress, isHexData, hdollar]
    simp only [List.length_cons, hlen, decide_true, Bool.and_true]
    exact List.all_eq_true.2 hhex
  have hlower : lower s = String.ofList ('0' :: 'x' :: l.map lowerChar) := by
    rw [lower, lowerChars_ascii [] hascii, hs]
    rfl
  rw [canonicalAddress, hstrip, haddress, raiseIf, if_neg (by decide), hlower]
  rfl

lemma canonicalAddress_canonical {address v : String} (h : canonicalAddress address = .ok v) :
    canonicalAddress v = .ok v := by
  obtain ⟨l, hl, hlen, hhex⟩ := canonicalAddress_chars h
  have hmap : l.map lowerChar = l := by
    rw [List.map_congr_left fun c hc => lowerChar_of_isLowerHex (hhex c hc), List.map_id']
  rw [canonicalAddress_hex hl hlen fun c hc => isHexChar_of_isLowerHex (hhex c hc), hmap, ← hl,
    String.ofList_toList]

variable {keccak : String → ℕ → ℕ}

lemma lowerChar_checksumChar (digit : ℕ) {c : Char} (hc : isLowerHex c = true) :
    lowerChar (checksumChar digit c) = c := by
  have hall : ∀ n < 128, isLowerHex (Char.ofNat n) = true →
      lowerChar (Char.ofNat n).toUpper = Char.ofNat n := by
    decide
  rw [checksumChar]
  split_ifs with hup
  · have hlt := toNat_lt_of_isHexChar (isHexChar_of_isLowerHex hc)
    rw [← Char.ofNat_toNat c] at hc ⊢
    exact hall c.toNat hlt hc
  · exact lowerChar_of_isLowerHex hc

/-- Checksums only change the case of an address. -/
lemma checksumAddress_checksummed {address v : String}
    (h : checksumAddress keccak address = .ok v) : checksumAddress keccak v = .ok v := by
  simp only [checksumAddress, bind_eq_ok, pure_eq_ok] at h
  obtain ⟨canonical, hcanonical, rfl⟩ := h
  obtain ⟨l, hl, hlen, hhex⟩ := canonicalAddress_chars hcanonical
  rw [hl, List.drop_succ_cons, List.drop_succ_cons, List.drop_zero]
  obtain ⟨digits, hdigits⟩ : ∃ digits, digits =
      l.zipIdx.map fun p => checksumChar (keccak (String.ofList l) p.2) p.1 := ⟨_, rfl⟩
  change checksumAddress keccak ("0x" ++ String.ofList (l.zipIdx.map fun p =>
    checksumChar (keccak (String.ofList l) p.2) p.1)) = .ok ("0x" ++ String.ofList (l.zipIdx.map
      fun p => checksumChar (keccak (String.ofList l) p.2) p.1))
  rw [← hdigits]
  have hmap : digits.map lowerChar = l := by
    rw [hdigits, List.map_map]
    calc l.zipIdx.map (lowerChar ∘ fun p => checksumChar (keccak (String.ofList l) p.2) p.1)
        = l.zipIdx.map Prod.fst := List.map_congr_left fun p hp =>
          lowerChar_checksumChar _ (hhex p.1 (List.fst_mem_of_mem_zipIdx hp))
      _ = l := List.zipIdx_map_fst 0 l
  have hchars : ("0x" ++ String.ofList digits).toList = '0' :: 'x' :: digits := by
    simp
  have hlen' : digits.length = 40 := by rw [hdigits, List.length_map, List.length_zipIdx, hlen]
  have hhex' : ∀ c ∈ digits, isHexChar c = true := by
    intro c hc
    rw [hdigits] at hc
    obtain ⟨p, hp, rfl⟩ := List.mem_map.1 hc
    exact isHexChar_checksumChar _ (hhex p.1 (List.fst_mem_of_mem_zipIdx hp))
  have hagain := canonicalAddress_hex hchars hlen' hhex'
  have hsame : String.ofList ('0' :: 'x' :: l) = canonical := by rw [← hl, String.ofList_toList]
  rw [hmap, hsame] at hagain
  simp only [checksumAddress, hagain, bind_eq_ok, pure_eq_ok]
  refine ⟨canonical, rfl, ?_⟩
  rw [hl, List.drop_succ_cons, List.drop_succ_cons, List.drop_zero, hdigits]

lemma canonicalTg_canonical {tgUserId : Json} {tg : String} (h : canonicalTg tgUserId = .ok tg) :
    canonicalTg (.str tg) = .ok tg := by
  simp only [canonicalTg, bind_eq_ok, raiseIf_eq_ok, pure_eq_ok] at h
  obtain ⟨n, -, -, hpos, rfl⟩ := h
  simp only [canonicalTg, bind_eq_ok, raiseIf_eq_ok, pure_eq_ok, pyIntOf, pyInt, int?_toString]
  exact ⟨n, rfl, (), hpos, rfl⟩

lemma canonicalProposalId_canonical {proposalId : Json} {pid : String}
    (h : canonicalProposalId proposalId = .ok pid) : canonicalProposalId (.str pid) = .ok pid := by
  simp only [canonicalProposalId, bind_eq_ok, raiseIf_eq_ok, pure_eq_ok] at h
  obtain ⟨-, hid, rfl⟩ := h
  simp only [canonicalProposalId, bind_eq_ok, raiseIf_eq_ok, pure_eq_ok, Json.toStr, strip_strip]
  exact ⟨(), hid, trivial⟩

lemma proposalRef_canonical {proposalId : Json} {pid : String}
    (h : proposalRef proposalId = .ok pid) : proposalRef (.str pid) = .ok pid := by
  simp only [proposalRef, bind_eq_ok, raiseIf_eq_ok, pure_eq_ok] at h
  obtain ⟨-, hid, rfl⟩ := h
  simp only [proposalRef, bind_eq_ok, raiseIf_eq_ok, pure_eq_ok, Json.toStr, strip_strip]
  exact ⟨(), hid, trivial⟩

/-! ### Texts that stand for themselves -/

/-- What a reader of a URL decodes or splits at. -/
def marks : List Char := ['&', '#', '%', '+', '/', '?']

def Plain (s : String) : Prop := ∀ c ∈ marks, Free c s

lemma plain_of_chars {p : Char → Bool} {s : String} (hs : ∀ c ∈ s.toList, p c = true)
    (hp : ∀ c ∈ marks, p c = false) : Plain s :=
  fun c hc => free_of_chars hs (hp c hc)

lemma plain_canonicalAddress {address v : String} (h : canonicalAddress address = .ok v) :
    Plain v := by
  have hall : ∀ c ∈ marks, isHexOrX c = false := by decide
  exact fun c hc => free_canonicalAddress (hall c hc) h

lemma plain_checksumAddress {address v : String} (h : checksumAddress keccak address = .ok v) :
    Plain v := by
  have hall : ∀ c ∈ marks, isHexOrX c = false := by decide
  exact fun c hc => free_checksumAddress (hall c hc) h

lemma plain_toString (n : ℤ) : Plain (toString n) := by
  have hall : ∀ c ∈ marks, c.isDigit = false ∧ c ≠ '-' := by decide
  exact fun c hc => free_toString n (hall c hc).1 (hall c hc).2

lemma plain_canonicalTg {tgUserId : Json} {tg : String} (h : canonicalTg tgUserId = .ok tg) :
    Plain tg := by
  simp only [canonicalTg, bind_eq_ok, raiseIf_eq_ok, pure_eq_ok] at h
  obtain ⟨n, -, -, -, rfl⟩ := h
  exact plain_toString n

lemma plain_hexdigest (mac : Mac) (secret m : String) : Plain (mac.hexdigest secret m) :=
  plain_of_chars (mac.hex secret m) (by decide)

lemma plain_proposalRef {proposalId : Json} {pid : String} (h : proposalRef proposalId = .ok pid) :
    Plain pid := by
  simp only [proposalRef, bind_eq_ok, raiseIf_eq_ok, pure_eq_ok] at h
  obtain ⟨-, hpid, rfl⟩ := h
  simp only [isDigitText, Bool.not_eq_false, Bool.and_eq_true] at hpid
  exact plain_of_chars (fun c hc => List.all_eq_true.1 hpid.2 c hc) (by decide +kernel)

lemma plain_png {s : String} (h : Plain s) : Plain (s ++ ".png") := by
  have hall : ∀ c ∈ marks, c ∉ ".png".toList := by decide
  intro c hc hmem
  rw [String.toList_append, List.mem_append] at hmem
  exact hmem.elim (h c hc) (hall c hc)

lemma plain_fundKind {kind : String} (h : kind ∈ fundLinkKinds) : Plain kind := by
  have hall : ∀ kind ∈ fundLinkKinds, ∀ c ∈ marks, c ∉ kind.toList := by decide
  exact hall kind h

lemma plain_action {action : String} (h : action ∈ signActions) : Plain action := by
  have hall : ∀ action ∈ signActions, ∀ c ∈ marks, c ∉ action.toList := by decide
  exact hall action h

lemma plain_encodeSignBody (body : Json) : Plain (encodeSignBody body) := by
  have hall : ∀ c ∈ marks, c.isAlphanum = false ∧ c ≠ '-' ∧ c ≠ '_' := by decide
  intro c hc hmem
  rw [encodeSignBody, String.toList_ofList] at hmem
  obtain ⟨halnum, hminus, hline⟩ := hall c hc
  rcases ((b64url_parts _).1 c hmem).plain with h | h | h
  · rw [halnum] at h
    cases h
  · exact hminus h
  · exact hline h

/-! ### Reading a link -/

/-- The page can tell the path and the query of a link from its base. -/
def SoundBase (baseUrl : String) : Prop := Free '?' baseUrl ∧ Free '#' baseUrl

lemma free_base {c : Char} {baseUrl : String} (hdefault : Free c defaultAppBaseUrl)
    (h : Free c baseUrl) : Free c (base baseUrl) := by
  intro hmem
  rw [base, String.toList_ofList] at hmem
  have hmem' := ( List.rdropWhile_prefix _ _).subset hmem
  split_ifs at hmem'
  · exact hdefault hmem'
  · exact h hmem'

/-- The URL is the base with these parts of a path and these fields behind it. -/
structure Built (baseUrl url : String) (parts : List String) (items : List Item) : Prop where
  plain : ∀ p ∈ parts, Plain p
  sound : ∀ f ∈ items, f.Sound
  toList : url.toList = (base baseUrl).toList ++ (parts.map (·.toList)).flatMap ('/' :: ·) ++
    if items = [] then [] else '?' :: queryOf items

namespace Built

variable {baseUrl url : String} {parts : List String} {items : List Item}

lemma split (h : Built baseUrl url parts items) (hbase : SoundBase baseUrl) :
    splitUrl url.toList = ((base baseUrl).toList ++ (parts.map (·.toList)).flatMap ('/' :: ·),
      if items = [] then [] else queryOf items) := by
  have hfree : ∀ c, c = '?' ∨ c = '#' → c ∉ (base baseUrl).toList ++
      (parts.map (·.toList)).flatMap ('/' :: ·) := by
    intro c hc hmem
    have hmark : c ∈ marks ∧ c ≠ '/' ∧ Free c defaultAppBaseUrl := by
      rcases hc with rfl | rfl <;> exact ⟨by decide, by decide, by unfold Free; decide⟩
    have hfront : Free c baseUrl := by
      rcases hc with rfl | rfl
      · exact hbase.1
      · exact hbase.2
    rcases List.mem_append.1 hmem with hmem | hmem
    · exact free_base hmark.2.2 hfront hmem
    · obtain ⟨l, hl, hcl⟩ := List.mem_flatMap.1 hmem
      obtain ⟨p, hp, rfl⟩ := List.mem_map.1 hl
      rcases List.mem_cons.1 hcl with rfl | hcp
      · exact hmark.2.1 rfl
      · exact h.plain p hp c hmark.1 hcp
  have hpath := And.intro (hfree '?' (Or.inl rfl)) (hfree '#' (Or.inr rfl))
  rw [h.toList]
  split_ifs with hitems
  · rw [List.append_nil]
    exact splitUrl_self hpath
  · exact splitUrl_append hpath (hash_not_mem_queryOf h.sound)

lemma pathPart (h : Built baseUrl url parts items) (hbase : SoundBase baseUrl) {k : ℕ} {p : String}
    (hk : parts.reverse[k]? = some p) : pathPart url k = p := by
  have hparts : ∀ l ∈ parts.map (·.toList), ∀ c ∈ l, c ≠ '/' ∧ c ≠ '%' := by
    intro l hl c hc
    obtain ⟨q, hq, rfl⟩ := List.mem_map.1 hl
    constructor
    · rintro rfl
      exact h.plain q hq '/' (by decide) hc
    · rintro rfl
      exact h.plain q hq '%' (by decide) hc
  have hlt : k < parts.reverse.length := (List.getElem?_eq_some_iff.1 hk).1
  have hget : (segments (splitUrl url.toList).1)[k]? = some (some p.toList) := by
    rw [h.split hbase, segments_parts _ hparts, List.getElem?_append_left (by simpa using hlt),
      ← List.map_reverse, List.getElem?_map, List.getElem?_map, hk]
    rfl
  rw [LinkUrls.pathPart, hget]
  exact String.ofList_toList

lemma param (h : Built baseUrl url parts items) (hbase : SoundBase baseUrl) {name : String}
    (hname : name.toList ≠ []) : param url name =
      String.ofList (field name.toList (items.map fun f => (f.name, f.value))) := by
  rw [LinkUrls.param, h.split hbase]
  by_cases hitems : items = []
  · subst hitems
    have hfields : queryFields [] = [([], [])] := by decide
    have hnone : ([([], [])] : List (List Char × List Char)).find? (·.1 = name.toList) = none :=
      List.find?_eq_none.2 (by simpa using hname.symm)
    rw [if_pos rfl, hfields, field, hnone]
    rfl
  · rw [if_neg hitems, queryFields_queryOf hitems h.sound]

end Built

/-- A field with a plain value. -/
def plainItem (name value : String) : Item := ⟨name.toList, value.toList, value.toList⟩

lemma sound_plainItem {name value : String} (hname : IsName name.toList) (hvalue : Plain value) :
    (plainItem name value).Sound where
  name := hname
  encodes := encodes_self fun c hc hmark => by
    have hall : ∀ c ∈ ['&', '#', '%', '+'], c ∈ marks := by decide
    exact hvalue c (hall c hmark) hc

lemma toList_linkUrl {baseUrl path : String} {parts : List String} {items : List Item}
    {texts : List (String × String)}
    (hpath : path.toList = (parts.map (·.toList)).flatMap ('/' :: ·)) (hne : items ≠ [])
    (htexts : (texts.map fun f => (f.1.toList, f.2.toList)) = items.map fun f => (f.name, f.text)) :
    (linkUrl baseUrl path texts).toList =
      (base baseUrl).toList ++ (parts.map (·.toList)).flatMap ('/' :: ·) ++
        if items = [] then [] else '?' :: queryOf items := by
  have hquery : ("?" ++ String.ofList (queryOf items)).toList = '?' :: queryOf items := by simp
  rw [linkUrl, htexts, if_neg hne, ← queryOf, @String.append_assoc _ "?", String.toList_append,
    String.toList_append, hpath, hquery]

/-- The parameters of an image link as the fields of its query. -/
def imageItems (params : List (String × String)) : List Item :=
  (params.filter (·.2 ≠ "")).map fun f =>
    ⟨f.1.toList, f.2.toList, quotePlus [':', ','] f.2.toList⟩

/-- A parameter's name is written as it is. -/
def PlainName (name : String) : Prop :=
  (∀ c ∈ name.toList, c ∉ ['=', '&', '#', '%', '+']) ∧
    quotePlus [':', ','] name.toList = name.toList
  deriving Decidable

lemma built_imageUrl {baseUrl path : String} {parts : List String}
    {params : List (String × String)}
    (hpath : path.toList = (parts.map (·.toList)).flatMap ('/' :: ·))
    (hparts : ∀ p ∈ parts, Plain p) (hnames : ∀ name ∈ params.map (·.1), PlainName name) :
    Built baseUrl (imageUrl path params baseUrl) parts (imageItems params) where
  plain := hparts
  sound f hf := by
    obtain ⟨g, hg, rfl⟩ := List.mem_map.1 hf
    have hname := List.mem_map_of_mem (f := (·.1)) (List.mem_of_mem_filter hg)
    exact ⟨(hnames _ hname).1, encodes_quotePlus (by decide) g.2.toList⟩
  toList := by
    have hquery : ("?" ++ String.ofList (queryOf (imageItems params))).toList =
        '?' :: queryOf (imageItems params) := by simp
    have hitems : ((params.filter (·.2 ≠ "")).map fun f =>
        (quotePlus [':', ','] f.1.toList, quotePlus [':', ','] f.2.toList)) =
          (imageItems params).map fun f => (f.name, f.text) := by
      rw [imageItems, List.map_map]
      refine List.map_congr_left fun f hf => ?_
      have hname := List.mem_map_of_mem (f := (·.1)) (List.mem_of_mem_filter hf)
      rw [(hnames _ hname).2]
      rfl
    rw [imageUrl, hitems]
    by_cases hnil : imageItems params = []
    · rw [hnil]
      simp [hpath]
    · rw [if_neg (by simpa using hnil), if_neg hnil, ← queryOf, String.toList_append,
        String.toList_append, hpath, hquery]

/-- Parameters that are empty read the same where they are left out. -/
lemma field_imageItems {params : List (String × String)} (name : List Char)
    (hnodup : (params.map (·.1)).Nodup) :
    field name ((imageItems params).map fun f => (f.name, f.value)) =
      field name (params.map fun f => (f.1.toList, f.2.toList)) := by
  have hmap : (imageItems params).map (fun f => (f.name, f.value)) =
      (params.map fun f => (f.1.toList, f.2.toList)).filter (·.2 ≠ []) := by
    rw [imageItems, List.map_map, List.filter_map]
    have hpred : (fun f : String × String => decide (f.2 ≠ "")) =
        (fun f : List Char × List Char => decide (f.2 ≠ [])) ∘
          fun f => (f.1.toList, f.2.toList) := by
      funext f
      simp
    rw [hpred]
    rfl
  have hnodup' : ((params.map fun f => (f.1.toList, f.2.toList)).map (·.1)).Nodup := by
    have htoList := hnodup.map fun _ _ h => String.toList_injective h
    rw [List.map_map] at htoList ⊢
    exact htoList
  rw [hmap, field_filter hnodup']

/-! ### What each builder's link says -/

variable {mac : Mac} {secret baseUrl url : String}

lemma signLink_ok {m sig : String} (h : signLink mac secret m = .ok sig) :
    secret ≠ "" ∧ sig = mac.hexdigest secret m := by
  simp only [signLink, bind_eq_ok, raiseIf_eq_ok, pure_eq_ok] at h
  obtain ⟨-, hsecret, rfl⟩ := h
  exact ⟨hsecret, rfl⟩

/-- The page reads the signed text `m`, and the signature of it. -/
structure Says (mac : Mac) (secret url m : String) : Prop where
  keyed : secret ≠ ""
  text : signedText url = m
  sig : param url "sig" = mac.hexdigest secret m

/-- Two parts behind `/tg`, and fields with plain values. -/
lemma built_page {route : String} {path : String} {texts : List (String × String)}
    {items : List Item} (hpath : path = "/tg/" ++ route) (hroute : Plain route) (hne : items ≠ [])
    (htexts : (texts.map fun f => (f.1.toList, f.2.toList)) = items.map fun f => (f.name, f.text))
    (hitems : ∀ f ∈ items, f.Sound) :
    Built baseUrl (linkUrl baseUrl path texts) ["tg", route] items where
  plain := by
    have htg : Plain "tg" := (by decide : ∀ c ∈ marks, c ∉ "tg".toList)
    simp only [List.mem_cons, List.not_mem_nil, or_false]
    rintro p (rfl | rfl)
    · exact htg
    · exact hroute
  sound := hitems
  toList := toList_linkUrl (by simp [hpath]) hne htexts

lemma says_fund {kind vault tg m sig : String} {ts : ℤ} (hbase : SoundBase baseUrl)
    (hkind : kind ∈ fundLinkKinds) (hvault : Plain vault) (htg : Plain tg)
    (hm : m = kind ++ "|" ++ vault ++ "|" ++ tg ++ "|" ++ toString ts)
    (hsig : signLink mac secret m = .ok sig)
    (hurl : url = linkUrl baseUrl ("/tg/" ++ kind)
      [("fund", vault), ("tg", tg), ("ts", toString ts), ("sig", sig)]) :
    Says mac secret url m ∧ param url "ts" = toString ts := by
  obtain ⟨hsecret, rfl⟩ := signLink_ok hsig
  have hbuilt : Built baseUrl url ["tg", kind] [plainItem "fund" vault, plainItem "tg" tg,
      plainItem "ts" (toString ts), plainItem "sig" (mac.hexdigest secret m)] := by
    rw [hurl]
    refine built_page rfl (plain_fundKind hkind) (by simp) rfl ?_
    simp only [List.mem_cons, List.not_mem_nil, or_false]
    rintro f (rfl | rfl | rfl | rfl)
    · exact sound_plainItem (by unfold IsName; decide) hvault
    · exact sound_plainItem (by unfold IsName; decide) htg
    · exact sound_plainItem (by unfold IsName; decide) (plain_toString ts)
    · exact sound_plainItem (by unfold IsName; decide) (plain_hexdigest mac secret m)
  have hfund : param url "fund" = vault :=
    (hbuilt.param hbase (by simp)).trans String.ofList_toList
  have htg' : param url "tg" = tg := (hbuilt.param hbase (by simp)).trans String.ofList_toList
  have hts : param url "ts" = toString ts :=
    (hbuilt.param hbase (by simp)).trans String.ofList_toList
  have hsig' : param url "sig" = mac.hexdigest secret m :=
    (hbuilt.param hbase (by simp)).trans String.ofList_toList
  have hroute : pathPart url 1 = "tg" := hbuilt.pathPart hbase rfl
  have hpage : pathPart url 0 = kind := hbuilt.pathPart hbase rfl
  have hother : kind ≠ "vote" ∧ kind ≠ "sign" := by
    have hall : ∀ kind ∈ fundLinkKinds, kind ≠ "vote" ∧ kind ≠ "sign" := by decide
    exact hall kind hkind
  refine ⟨⟨hsecret, ?_, hsig'⟩, hts⟩
  rw [signedText, hroute, if_pos rfl, hpage, if_neg hother.1, if_neg hother.2, hfund, htg', hts, hm]

lemma says_vote {gov pid tg m sig : String} {ts : ℤ} (hbase : SoundBase baseUrl)
    (htg : Plain tg) (hm : m = "vote|" ++ gov ++ ":" ++ pid ++ "|" ++ tg ++ "|" ++ toString ts)
    (hsig : signLink mac secret m = .ok sig)
    (hurl : url = linkUrl baseUrl "/tg/vote"
      [("proposal", String.ofList (quote [':'] (gov ++ ":" ++ pid).toList)), ("tg", tg),
       ("ts", toString ts), ("sig", sig)]) :
    Says mac secret url m ∧ param url "ts" = toString ts := by
  obtain ⟨hsecret, rfl⟩ := signLink_ok hsig
  have hbuilt : Built baseUrl url ["tg", "vote"]
      [⟨"proposal".toList, (gov ++ ":" ++ pid).toList, quote [':'] (gov ++ ":" ++ pid).toList⟩,
       plainItem "tg" tg, plainItem "ts" (toString ts),
       plainItem "sig" (mac.hexdigest secret m)] := by
    rw [hurl]
    refine built_page (by decide) (by unfold Plain Free; decide) (by simp) ?_ ?_
    · simp [plainItem]
    simp only [List.mem_cons, List.not_mem_nil, or_false]
    rintro f (rfl | rfl | rfl | rfl)
    · have hname : IsName "proposal".toList := by
        unfold IsName
        decide
      exact ⟨hname, encodes_quote (by decide) _⟩
    · exact sound_plainItem (by unfold IsName; decide) htg
    · exact sound_plainItem (by unfold IsName; decide) (plain_toString ts)
    · exact sound_plainItem (by unfold IsName; decide) (plain_hexdigest mac secret m)
  have hproposal : param url "proposal" = gov ++ ":" ++ pid :=
    (hbuilt.param hbase (by simp)).trans String.ofList_toList
  have htg' : param url "tg" = tg := (hbuilt.param hbase (by simp)).trans String.ofList_toList
  have hts : param url "ts" = toString ts :=
    (hbuilt.param hbase (by simp)).trans String.ofList_toList
  have hsig' : param url "sig" = mac.hexdigest secret m :=
    (hbuilt.param hbase (by simp)).trans String.ofList_toList
  have hroute : pathPart url 1 = "tg" := hbuilt.pathPart hbase rfl
  have hpage : pathPart url 0 = "vote" := hbuilt.pathPart hbase rfl
  refine ⟨⟨hsecret, ?_, hsig'⟩, hts⟩
  rw [signedText, hroute, if_pos rfl, hpage, if_pos rfl, hproposal, htg', hts, hm]
  simp only [String.append_assoc]

/-- The fields of a sign link. -/
def signItems (v action encoded tg ts sig : String) : List Item :=
  [plainItem "fund" v, plainItem "action" action, plainItem "body" encoded, plainItem "tg" tg,
   plainItem "ts" ts, plainItem "sig" sig]

lemma sound_signItems {v action encoded tg ts sig : String} (hv : Plain v) (haction : Plain action)
    (hencoded : Plain encoded) (htg : Plain tg) (hts : Plain ts) (hsig : Plain sig) :
    ∀ f ∈ signItems v action encoded tg ts sig, f.Sound := by
  simp only [signItems, List.mem_cons, List.not_mem_nil, or_false]
  rintro f (rfl | rfl | rfl | rfl | rfl | rfl)
  · exact sound_plainItem (by unfold IsName; decide) hv
  · exact sound_plainItem (by unfold IsName; decide) haction
  · exact sound_plainItem (by unfold IsName; decide) hencoded
  · exact sound_plainItem (by unfold IsName; decide) htg
  · exact sound_plainItem (by unfold IsName; decide) hts
  · exact sound_plainItem (by unfold IsName; decide) hsig

/-- The parameters that a signing page reads besides the signature. -/
lemma says_sign {v action encoded tg m sig : String} {ts : ℤ} (hbase : SoundBase baseUrl)
    (hv : Plain v) (haction : Plain action) (hencoded : Plain encoded) (htg : Plain tg)
    (hm : m = "sign|" ++ v ++ "|" ++ action ++ "|" ++ encoded ++ "|" ++ tg ++ "|" ++ toString ts)
    (hsig : signLink mac secret m = .ok sig)
    (hurl : url = linkUrl baseUrl "/tg/sign" [("fund", v), ("action", action), ("body", encoded),
      ("tg", tg), ("ts", toString ts), ("sig", sig)]) :
    Says mac secret url m ∧ param url "ts" = toString ts ∧ param url "action" = action ∧
      param url "body" = encoded := by
  obtain ⟨hsecret, rfl⟩ := signLink_ok hsig
  have hbuilt : Built baseUrl url ["tg", "sign"]
      (signItems v action encoded tg (toString ts) (mac.hexdigest secret m)) := by
    rw [hurl]
    exact built_page (by decide) (by unfold Plain Free; decide) (by simp [signItems]) rfl
      (sound_signItems hv haction hencoded htg (plain_toString ts) (plain_hexdigest mac secret m))
  have hfund : param url "fund" = v := (hbuilt.param hbase (by simp)).trans String.ofList_toList
  have haction' : param url "action" = action :=
    (hbuilt.param hbase (by simp)).trans String.ofList_toList
  have hbody : param url "body" = encoded :=
    (hbuilt.param hbase (by simp)).trans String.ofList_toList
  have htg' : param url "tg" = tg := (hbuilt.param hbase (by simp)).trans String.ofList_toList
  have hts : param url "ts" = toString ts :=
    (hbuilt.param hbase (by simp)).trans String.ofList_toList
  have hsig' : param url "sig" = mac.hexdigest secret m :=
    (hbuilt.param hbase (by simp)).trans String.ofList_toList
  have hroute : pathPart url 1 = "tg" := hbuilt.pathPart hbase rfl
  have hpage : pathPart url 0 = "sign" := hbuilt.pathPart hbase rfl
  refine ⟨⟨hsecret, ?_, hsig'⟩, hts, haction', hbody⟩
  rw [signedText, hroute, if_pos rfl, hpage, if_neg (by decide), if_pos rfl, hfund, haction', hbody,
    htg', hts, hm]

lemma dropPng_append (s : String) : dropPng (s ++ ".png") = s := by
  have hlen : (s ++ ".png").length - 4 = s.toList.length := by
    rw [String.length_append, String.length_toList]
    exact Nat.add_sub_cancel s.length 4
  rw [dropPng, hlen, String.toList_append, List.take_left, String.ofList_toList]

/-- The routes of the pages are none of an image's vault. -/
lemma checksummed_ne {address v : String} (h : checksumAddress keccak address = .ok v) :
    v ≠ "tg" ∧ v ≠ "leaderboard" := by
  have hall : Free 't' v ∧ Free 'l' v :=
    ⟨free_checksumAddress (by decide) h, free_checksumAddress (by decide) h⟩
  constructor
  · rintro rfl
    exact hall.1 (by decide)
  · rintro rfl
    exact hall.2 (by decide)

lemma field_of_find {params : List (String × String)} {name value : String}
    (h : params.find? (·.1 = name) = some (name, value)) :
    field name.toList (params.map fun f => (f.1.toList, f.2.toList)) = value.toList := by
  have hpred : ((fun f : List Char × List Char => decide (f.1 = name.toList)) ∘
      fun f : String × String => (f.1.toList, f.2.toList)) = fun f => decide (f.1 = name) := by
    funext f
    simp [String.toList_inj]
  rw [field, List.find?_map, hpred, h]
  rfl

lemma param_image {parts : List String} {params : List (String × String)} {name value : String}
    (hbuilt : Built baseUrl url parts (imageItems params)) (hbase : SoundBase baseUrl)
    (hnodup : (params.map (·.1)).Nodup) (hname : name.toList ≠ [])
    (hfind : params.find? (·.1 = name) = some (name, value)) : param url name = value := by
  rw [hbuilt.param hbase hname, field_imageItems _ hnodup, field_of_find hfind,
    String.ofList_toList]

lemma says_receipt {address v pid author backers m sig : String} (hbase : SoundBase baseUrl)
    (hv : checksumAddress keccak address = .ok v) (hpid : Plain pid)
    (hm : m = "receipt|" ++ v ++ ":" ++ pid ++ "|" ++ author ++ "|" ++ backers)
    (hsig : signLink mac secret m = .ok sig)
    (hurl : url = imageUrl ("/tg/receipt/" ++ v ++ "/" ++ pid ++ ".png")
      [("by", author), ("backers", backers), ("sig", sig)] baseUrl) :
    Says mac secret url m := by
  obtain ⟨hsecret, rfl⟩ := signLink_ok hsig
  have hplain : Plain v := plain_checksumAddress hv
  have hbuilt : Built baseUrl url ["tg", "receipt", v, pid ++ ".png"]
      (imageItems [("by", author), ("backers", backers), ("sig", mac.hexdigest secret m)]) := by
    rw [hurl]
    have hnames : ∀ name ∈ ["by", "backers", "sig"], PlainName name := by decide
    refine built_imageUrl (by simp) ?_ hnames
    simp only [List.mem_cons, List.not_mem_nil, or_false]
    rintro p (rfl | rfl | rfl | rfl)
    · unfold Plain Free
      decide
    · unfold Plain Free
      decide
    · exact hplain
    · exact plain_png hpid
  have hnodup : ["by", "backers", "sig"].Nodup := by decide
  have hby : param url "by" = author :=
    param_image hbuilt hbase hnodup (by simp) (by simp)
  have hbackers : param url "backers" = backers :=
    param_image hbuilt hbase hnodup (by simp) (by simp)
  have hsig' : param url "sig" = mac.hexdigest secret m :=
    param_image hbuilt hbase hnodup (by simp) (by simp)
  have h₀ : pathPart url 0 = pid ++ ".png" := hbuilt.pathPart hbase rfl
  have h₁ : pathPart url 1 = v := hbuilt.pathPart hbase rfl
  have h₂ : pathPart url 2 = "receipt" := hbuilt.pathPart hbase rfl
  have hne := checksummed_ne hv
  refine ⟨hsecret, ?_, hsig'⟩
  rw [signedText, h₁, if_neg hne.1, if_neg hne.2, h₂, if_pos rfl, h₀, dropPng_append, hby, hbackers,
    hm]

lemma says_member {address v n handle joined m sig : String} (hbase : SoundBase baseUrl)
    (hv : checksumAddress keccak address = .ok v) (hn : Plain n)
    (hm : m = "member|" ++ v ++ ":" ++ n ++ "|" ++ handle ++ "|" ++ joined)
    (hsig : signLink mac secret m = .ok sig)
    (hurl : url = imageUrl ("/tg/member/" ++ v ++ "/" ++ n ++ ".png")
      [("handle", handle), ("joined", joined), ("sig", sig)] baseUrl) :
    Says mac secret url m := by
  obtain ⟨hsecret, rfl⟩ := signLink_ok hsig
  have hplain : Plain v := plain_checksumAddress hv
  have hbuilt : Built baseUrl url ["tg", "member", v, n ++ ".png"]
      (imageItems [("handle", handle), ("joined", joined), ("sig", mac.hexdigest secret m)]) := by
    rw [hurl]
    have hnames : ∀ name ∈ ["handle", "joined", "sig"], PlainName name := by decide
    refine built_imageUrl (by simp) ?_ hnames
    simp only [List.mem_cons, List.not_mem_nil, or_false]
    rintro p (rfl | rfl | rfl | rfl)
    · unfold Plain Free
      decide
    · unfold Plain Free
      decide
    · exact hplain
    · exact plain_png hn
  have hnodup : ["handle", "joined", "sig"].Nodup := by decide
  have hhandle : param url "handle" = handle :=
    param_image hbuilt hbase hnodup (by simp) (by simp)
  have hjoined : param url "joined" = joined :=
    param_image hbuilt hbase hnodup (by simp) (by simp)
  have hsig' : param url "sig" = mac.hexdigest secret m :=
    param_image hbuilt hbase hnodup (by simp) (by simp)
  have h₀ : pathPart url 0 = n ++ ".png" := hbuilt.pathPart hbase rfl
  have h₁ : pathPart url 1 = v := hbuilt.pathPart hbase rfl
  have h₂ : pathPart url 2 = "member" := hbuilt.pathPart hbase rfl
  have hne := checksummed_ne hv
  refine ⟨hsecret, ?_, hsig'⟩
  rw [signedText, h₁, if_neg hne.1, if_neg hne.2, h₂, if_neg (by decide), h₀, dropPng_append,
    hhandle, hjoined, hm]

lemma says_leaderboard {address v attrib window m sig : String} (hbase : SoundBase baseUrl)
    (hv : checksumAddress keccak address = .ok v) (hm : m = "attrib|" ++ v ++ "|" ++ attrib)
    (hsig : signLink mac secret m = .ok sig)
    (hurl : url = imageUrl ("/tg/leaderboard/" ++ v ++ ".png")
      [("window", window), ("attrib", attrib), ("sig", sig)] baseUrl) :
    Says mac secret url m := by
  obtain ⟨hsecret, rfl⟩ := signLink_ok hsig
  have hplain : Plain v := plain_checksumAddress hv
  have hbuilt : Built baseUrl url ["tg", "leaderboard", v ++ ".png"]
      (imageItems [("window", window), ("attrib", attrib), ("sig", mac.hexdigest secret m)]) := by
    rw [hurl]
    have hnames : ∀ name ∈ ["window", "attrib", "sig"], PlainName name := by decide
    refine built_imageUrl (by simp) ?_ hnames
    simp only [List.mem_cons, List.not_mem_nil, or_false]
    rintro p (rfl | rfl | rfl)
    · unfold Plain Free
      decide
    · unfold Plain Free
      decide
    · exact plain_png hplain
  have hnodup : ["window", "attrib", "sig"].Nodup := by decide
  have hattrib : param url "attrib" = attrib :=
    param_image hbuilt hbase hnodup (by simp) (by simp)
  have hsig' : param url "sig" = mac.hexdigest secret m :=
    param_image hbuilt hbase hnodup (by simp) (by simp)
  have h₀ : pathPart url 0 = v ++ ".png" := hbuilt.pathPart hbase rfl
  have h₁ : pathPart url 1 = "leaderboard" := hbuilt.pathPart hbase rfl
  refine ⟨hsecret, ?_, hsig'⟩
  rw [signedText, h₁, if_neg (by decide), if_pos rfl, h₀, dropPng_append, hattrib, hm]

/-! ### Every link -/

/-- The verifier accepts a link while it is fresh. -/
lemma Says.verify {m : String} (h : Says mac secret url m) (ts : ℤ) (now : Time)
    (maxAgeS futureSkewS : ℤ) :
    verifyLinkSignature mac secret (signedText url) (param url "sig") ts now maxAgeS futureSkewS =
      .ok (decide (-(futureSkewS : ℚ) ≤ now - ts ∧ now - ts ≤ maxAgeS)) := by
  have hascii : ¬∃ c ∈ (mac.hexdigest secret m).toList ++ (mac.hexdigest secret m).toList,
      128 ≤ c.toNat := by
    rintro ⟨c, hc, hge⟩
    have hmem : c ∈ (mac.hexdigest secret m).toList := by simpa using hc
    have hlt := toNat_lt_of_isHexChar (isHexChar_of_isLowerHex (mac.hex secret m c hmem))
    omega
  rw [verifyLinkSignature, h.text, h.sig, lower_strip_hexdigest]
  by_cases hstale : now + futureSkewS < ts ∨ (maxAgeS : ℚ) < now - ts
  · have hnot : ¬(-(futureSkewS : ℚ) ≤ now - ts ∧ now - ts ≤ maxAgeS) := by
      rintro ⟨hskew, hage⟩
      rcases hstale with hfuture | hold <;> linarith
    rw [if_pos hstale, decide_eq_false hnot]
  · have hfresh : -(futureSkewS : ℚ) ≤ now - ts ∧ now - ts ≤ maxAgeS := by
      rw [not_or, not_lt, not_lt] at hstale
      exact ⟨by linarith [hstale.1], hstale.2⟩
    rw [if_neg hstale, decide_eq_true hfresh]
    simp only [signLink, compareDigest, raiseIf, if_neg h.keyed, if_neg hascii, bind, Except.bind,
      pure, Except.pure, decide_true]

theorem decodeSignBody_encodeSignBody {floatOf : List Char → ℚ × String} {body : Json}
    (hbody : WellFormed floatOf body) :
    decodeSignBody floatOf (encodeSignBody body) = some (sortKeys body) := by
  rw [decodeSignBody, encodeSignBody, String.toList_ofList, urlsafeB64decode_padded]
  simp only [Option.bind_eq_bind, Option.bind_some, utf8?_utf8, String.ofList_toList]
  exact loads_dumps hbody

lemma says_signUrl {vault action : String} {body tgUserId : Json} {ts : ℤ}
    (hbase : SoundBase baseUrl)
    (h : signUrl mac secret baseUrl vault action body tgUserId ts = .ok url) :
    ∃ m, signLinkMessage vault action (encodeSignBody body) tgUserId ts = .ok m ∧
      Says mac secret url m ∧ param url "ts" = toString ts ∧ param url "action" = action ∧
        param url "body" = encodeSignBody body := by
  simp only [signUrl, bind_eq_ok, pure_eq_ok] at h
  obtain ⟨v, hv, tg, htg, m, hm, sig, hsig, rfl⟩ := h
  simp only [signLinkMessage, bind_eq_ok, raiseIf_eq_ok, pure_eq_ok, not_not,
    canonicalAddress_canonical hv, canonicalTg_canonical htg, Except.ok.injEq,
    exists_eq_left'] at hm
  obtain ⟨-, haction, rfl⟩ := hm
  refine ⟨_, ?_, says_sign hbase (plain_canonicalAddress hv) (plain_action haction)
    (plain_encodeSignBody body) (plain_canonicalTg htg) rfl hsig rfl⟩
  simp only [signLinkMessage, bind_eq_ok, raiseIf_eq_ok, pure_eq_ok, not_not]
  exact ⟨(), haction, v, hv, tg, htg, rfl⟩

lemma says_buildLink {kind : String} {tgUserId proposalId : Json} {fund governor : Option String}
    {ts : ℤ} (hbase : SoundBase baseUrl)
    (h : buildLink mac secret baseUrl kind tgUserId fund governor proposalId ts = .ok url) :
    ∃ m, message keccak (LinkCall.personal kind tgUserId fund governor proposalId ts).request =
        .ok m ∧ Says mac secret url m ∧ param url "ts" = toString ts := by
  simp only [buildLink, bind_eq_ok] at h
  obtain ⟨tg, htg, h⟩ := h
  by_cases hkind : kind ∈ fundLinkKinds
  · rw [if_pos hkind] at h
    have hvote : kind ≠ "vote" := by
      rintro rfl
      exact absurd hkind (by decide)
    cases fund with
    | none => cases h
    | some fund =>
      simp only [bind_eq_ok, pure_eq_ok] at h
      obtain ⟨v, hv, m, hm, sig, hsig, rfl⟩ := h
      simp only [fundLinkMessage, bind_eq_ok, raiseIf_eq_ok, pure_eq_ok, not_not,
        canonicalAddress_canonical hv, canonicalTg_canonical htg, Except.ok.injEq,
        exists_eq_left'] at hm
      obtain ⟨-, -, rfl⟩ := hm
      refine ⟨_, ?_, says_fund hbase hkind (plain_canonicalAddress hv) (plain_canonicalTg htg) rfl
        hsig rfl⟩
      simp only [LinkCall.request, if_neg hvote, message, fundLinkMessage, bind_eq_ok,
        raiseIf_eq_ok, pure_eq_ok, not_not, Option.getD_some]
      exact ⟨(), hkind, v, hv, tg, htg, rfl⟩
  · rw [if_neg hkind] at h
    by_cases hvote : kind = "vote"
    · rw [if_pos hvote] at h
      split at h
      · cases h
      · cases h
      · next governor _ _ =>
        simp only [bind_eq_ok, pure_eq_ok] at h
        obtain ⟨gov, hgov, pid, hpid, m, hm, sig, hsig, rfl⟩ := h
        simp only [voteLinkMessage, bind_eq_ok, pure_eq_ok, canonicalAddress_canonical hgov,
          canonicalProposalId_canonical hpid, canonicalTg_canonical htg, Except.ok.injEq,
          exists_eq_left'] at hm
        subst hm
        refine ⟨_, ?_, says_vote hbase (plain_canonicalTg htg) rfl hsig rfl⟩
        simp only [LinkCall.request, if_pos hvote, message, voteLinkMessage, bind_eq_ok,
          pure_eq_ok, Option.getD_some]
        exact ⟨gov, hgov, pid, hpid, tg, htg, rfl⟩
    · rw [if_neg hvote] at h
      cases h

lemma free_backersText {backers : Json} {b : String} (h : backersText backers = .ok b) :
    Free '|' b := by
  rw [backersText] at h
  split at h
  · simp only [bind_eq_ok, pure_eq_ok] at h
    obtain ⟨n, -, rfl⟩ := h
    exact free_bar_toString n
  · cases Except.ok.inj h
    exact List.not_mem_nil

lemma says_receiptImageUrl {vault : String} {proposalId author backers : Json}
    (hbase : SoundBase baseUrl)
    (h : receiptImageUrl keccak mac secret baseUrl vault proposalId author backers = .ok url) :
    ∃ m, message keccak (.receipt vault proposalId author backers) = .ok m ∧
      Says mac secret url m := by
  simp only [receiptImageUrl, bind_eq_ok] at h
  obtain ⟨v, hv, pid, hpid, m, hm, h⟩ := h
  simp only [receiptImageMessage, bind_eq_ok, pure_eq_ok, checksumAddress_checksummed hv,
    proposalRef_canonical hpid, Except.ok.injEq, exists_eq_left'] at hm
  obtain ⟨b, hb, rfl⟩ := hm
  have hparts : ∀ l ∈ ["receipt".toList, (v ++ ":" ++ pid).toList, (socialHandle author).toList,
      b.toList], '|' ∉ l := by
    have hv' : Free '|' v := free_checksumAddress (by decide) hv
    have hpid' : Free '|' pid := free_proposalRef hpid
    simp only [List.mem_cons, List.not_mem_nil, or_false]
    rintro l (rfl | rfl | rfl | rfl)
    · decide
    · simp only [String.toList_append, List.mem_append, not_or]
      exact ⟨⟨hv', by decide⟩, hpid'⟩
    · exact free_socialHandle author
    · exact free_backersText hb
  have htext : ("receipt|" ++ v ++ ":" ++ pid ++ "|" ++ socialHandle author ++ "|" ++ b).toList =
      ['|'].intercalate ["receipt".toList, (v ++ ":" ++ pid).toList,
        (socialHandle author).toList, b.toList] := by
    simp
  rw [htext, List.splitOn_intercalate '|' hparts (by simp)] at h
  simp only [bind_eq_ok, pure_eq_ok, String.ofList_toList] at h
  obtain ⟨sig, hsig, rfl⟩ := h
  refine ⟨_, ?_, says_receipt hbase hv (plain_proposalRef hpid) rfl hsig rfl⟩
  simp only [message, receiptImageMessage, bind_eq_ok, pure_eq_ok]
  exact ⟨b, hb, v, hv, pid, hpid, rfl⟩

lemma says_memberImageUrl {vault joined : String} {n handle : Json} (hbase : SoundBase baseUrl)
    (h : memberImageUrl keccak mac secret baseUrl vault n handle joined = .ok url) :
    ∃ m, message keccak (.member vault n handle joined) = .ok m ∧ Says mac secret url m := by
  simp only [memberImageUrl, bind_eq_ok, pure_eq_ok] at h
  obtain ⟨v, hv, m, hm, sig, hsig, k, hk, rfl⟩ := h
  simp only [memberImageMessage, bind_eq_ok, raiseIf_eq_ok, pure_eq_ok, hk,
    checksumAddress_checksummed hv, Except.ok.injEq, exists_eq_left'] at hm
  obtain ⟨-, hjoined, rfl⟩ := hm
  refine ⟨_, ?_, says_member hbase hv (plain_toString k) rfl hsig rfl⟩
  simp only [message, memberImageMessage, bind_eq_ok, raiseIf_eq_ok, pure_eq_ok]
  exact ⟨(), hjoined, v, hv, k, hk, rfl⟩

lemma says_leaderboardImageUrl {vault attrib window : String} (hbase : SoundBase baseUrl)
    (h : leaderboardImageUrl keccak mac secret baseUrl vault attrib window = .ok url) :
    ∃ m, message keccak (.attrib vault attrib) = .ok m ∧ Says mac secret url m := by
  simp only [leaderboardImageUrl, bind_eq_ok, pure_eq_ok] at h
  obtain ⟨v, hv, m, hm, sig, hsig, rfl⟩ := h
  simp only [attribImageMessage, bind_eq_ok, pure_eq_ok, checksumAddress_checksummed hv,
    Except.ok.injEq, exists_eq_left'] at hm
  subst hm
  refine ⟨_, ?_, says_leaderboard hbase hv rfl hsig rfl⟩
  simp only [message, attribImageMessage, bind_eq_ok, pure_eq_ok]
  exact ⟨v, hv, rfl⟩

def sampleBody : Json := .obj [("chainId", .int 8453)]

def sampleSign : LinkCall :=
  .sign "0xABCDEFabcdefabcdefabcdefabcdefabcdefabcd" "register-agent" sampleBody (.int 42)
    1762300800

def sampleSignUrl : String :=
  linkUrl "" "/tg/sign"
    [("fund", "0xabcdefabcdefabcdefabcdefabcdefabcdefabcd"), ("action", "register-agent"),
     ("body", encodeSignBody sampleBody), ("tg", "42"), ("ts", "1762300800"),
     ("sig", vectorMac.hexdigest "" "")]

lemma length_linkUrl (baseUrl path : String) (items : List (String × String)) :
    (linkUrl baseUrl path items).length = (base baseUrl).length + path.length + 1 +
      (query (items.map fun f => (f.1.toList, f.2.toList))).length := by
  simp only [linkUrl, String.length_append, String.length_ofList]
  rfl

def queryBaseUrl : String :=
  linkUrl "https://app.example/?ref=1" "/tg/join"
    [("fund", "0xabcdefabcdefabcdefabcdefabcdefabcdefabcd"), ("tg", "42"), ("ts", "1762300800"),
     ("sig", vectorMac.hexdigest "" "")]

/-- The page takes the part before the base's own query for the path. -/
lemma splitUrl_queryBaseUrl :
    (splitUrl queryBaseUrl.toList).1 = "https://app.example/".toList := by
  have hbase : (base "https://app.example/?ref=1").toList =
      "https://app.example/".toList ++ '?' :: "ref=1".toList := by decide +kernel
  have htoList : queryBaseUrl.toList = "https://app.example/".toList ++ '?' :: ("ref=1".toList ++
      ("/tg/join".toList ++ '?' :: query [("fund".toList,
        "0xabcdefabcdefabcdefabcdefabcdefabcdefabcd".toList), ("tg".toList, "42".toList),
        ("ts".toList, "1762300800".toList),
        ("sig".toList, (vectorMac.hexdigest "" "").toList)])) := by
    have hmark : ∀ l, ("?" ++ String.ofList l).toList = '?' :: l := by simp
    rw [queryBaseUrl, linkUrl, @String.append_assoc _ "?", String.toList_append,
      String.toList_append, hbase, hmark]
    simp only [List.append_assoc, List.cons_append, List.map_cons, List.map_nil]
  rw [htoList, splitUrl_append (by decide +kernel) (by decide +kernel)]

end SherwoodMonitor.LinkRoundTrips
