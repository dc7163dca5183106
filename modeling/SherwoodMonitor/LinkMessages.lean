import SherwoodMonitor.Links

/-! A signed text tells the kind of its link and all canonical parameters, so that no signature is
good for another link. -/
namespace SherwoodMonitor.LinkMessages
open PyUnicode PyText PyNumber PyJson Models Rules Service ChainCard Effects FundWrites Separated
  Links

/-! ### The characters of canonical fields -/

lemma toNat_lt_of_isHexChar {c : Char} (hc : isHexChar c = true) : c.toNat < 128 := by
  simp only [isHexChar, Bool.or_eq_true, Bool.and_eq_true, decide_eq_true_eq] at hc
  omega

lemma isLowerHex_lowerChar {c : Char} (hc : isHexChar c = true) :
    isLowerHex (lowerChar c) = true := by
  have hall : ∀ n < 128, isHexChar (Char.ofNat n) = true →
      isLowerHex (lowerChar (Char.ofNat n)) = true := by
    decide
  rw [← Char.ofNat_toNat c] at hc ⊢
  exact hall c.toNat (by simpa using toNat_lt_of_isHexChar hc) hc

lemma isHexChar_of_isLowerHex {c : Char} (hc : isLowerHex c = true) : isHexChar c = true := by
  simp only [isLowerHex, isHexChar, Bool.or_eq_true, Bool.and_eq_true, decide_eq_true_eq] at hc ⊢
  omega

lemma isHexChar_checksumChar {c : Char} (digit : ℕ) (hc : isLowerHex c = true) :
    isHexChar (checksumChar digit c) = true := by
  have hall : ∀ n < 128, isLowerHex (Char.ofNat n) = true →
      isHexChar (Char.ofNat n).toUpper = true := by
    decide
  rw [checksumChar]
  split_ifs with hup
  · have hlt := toNat_lt_of_isHexChar (isHexChar_of_isLowerHex hc)
    rw [← Char.ofNat_toNat c] at hc ⊢
    exact hall c.toNat hlt hc
  · exact isHexChar_of_isLowerHex hc

/-- A canonical address is `0x` and 40 lowercase hex digits. -/
lemma canonicalAddress_chars {address canonical : String}
    (h : canonicalAddress address = .ok canonical) :
    ∃ l, canonical.toList = '0' :: 'x' :: l ∧ l.length = 40 ∧ ∀ c ∈ l, isLowerHex c = true := by
  simp only [canonicalAddress, bind_eq_ok, raiseIf_eq_ok, pure_eq_ok] at h
  obtain ⟨-, haddress, rfl⟩ := h
  simp only [isAddress, isHexData, beforeDollar_strip, Bool.not_eq_false, Bool.and_eq_true,
    decide_eq_true_eq] at haddress
  obtain ⟨hhex, hlength⟩ := haddress
  split at hhex
  · next l hl =>
    rw [hl] at hlength
    have hascii : ∀ c ∈ '0' :: 'x' :: l, c.toNat < 128 := by
      intro c hc
      rcases List.mem_cons.1 hc with rfl | hc
      · decide
      rcases List.mem_cons.1 hc with rfl | hc
      · decide
      exact toNat_lt_of_isHexChar (List.all_eq_true.1 hhex c hc)
    refine ⟨l.map lowerChar, ?_, by simpa using hlength, ?_⟩
    · rw [toList_lower, hl, lowerChars_ascii [] hascii]
      rfl
    · intro c hc
      obtain ⟨d, hd, rfl⟩ := List.mem_map.1 hc
      exact isLowerHex_lowerChar (List.all_eq_true.1 hhex d hd)
  · cases hhex

/-- No hex digit, nor the `x` of an address. -/
def isHexOrX (c : Char) : Bool := isHexChar c || c = 'x'

variable {keccak : String → ℕ → ℕ} {sep : Char}

lemma free_canonicalAddress {address canonical : String} (hsep : isHexOrX sep = false)
    (h : canonicalAddress address = .ok canonical) : Free sep canonical := by
  obtain ⟨l, hl, -, hhex⟩ := canonicalAddress_chars h
  refine free_of_chars (p := isHexOrX) (fun c hc => ?_) hsep
  rw [hl, List.mem_cons, List.mem_cons] at hc
  rcases hc with rfl | rfl | hc
  · decide
  · decide
  · rw [isHexOrX, isHexChar_of_isLowerHex (hhex c hc), Bool.true_or]

lemma free_checksumAddress {address checksummed : String} (hsep : isHexOrX sep = false)
    (h : checksumAddress keccak address = .ok checksummed) : Free sep checksummed := by
  simp only [checksumAddress, bind_eq_ok, pure_eq_ok] at h
  obtain ⟨canonical, hcanonical, rfl⟩ := h
  obtain ⟨l, hl, -, hhex⟩ := canonicalAddress_chars hcanonical
  refine free_of_chars (p := isHexOrX) (fun c hc => ?_) hsep
  rw [hl, String.toList_append] at hc
  rcases List.mem_append.1 hc with hc | hc
  · rcases List.mem_cons.1 hc with rfl | hc
    · decide
    · obtain rfl := List.mem_singleton.1 hc
      decide
  · rw [String.toList_ofList] at hc
    obtain ⟨⟨d, i⟩, hd, rfl⟩ := List.mem_map.1 hc
    have hmem : d ∈ l := List.fst_mem_of_mem_zipIdx hd
    rw [isHexOrX, isHexChar_checksumChar _ (hhex d hmem), Bool.true_or]

lemma free_toString (n : ℤ) (hdigit : sep.isDigit = false) (hminus : sep ≠ '-') :
    Free sep (toString n) := by
  intro hmem
  cases n with
  | ofNat n =>
    rw [Int.ofNat_eq_natCast, toList_natCast] at hmem
    rw [isDigit_of_mem hmem] at hdigit
    cases hdigit
  | negSucc n =>
    rw [toList_negSucc, List.mem_cons] at hmem
    rcases hmem with rfl | hmem
    · exact hminus rfl
    · rw [isDigit_of_mem hmem] at hdigit
      cases hdigit

lemma free_bar_toString (n : ℤ) : Free '|' (toString n) :=
  free_toString n (by decide) (by decide)

lemma free_canonicalTg {tgUserId : Json} {tg : String} (h : canonicalTg tgUserId = .ok tg) :
    Free '|' tg := by
  simp only [canonicalTg, bind_eq_ok, raiseIf_eq_ok, pure_eq_ok] at h
  obtain ⟨n, -, -, -, rfl⟩ := h
  exact free_bar_toString n

lemma free_canonicalProposalId {proposalId : Json} {pid : String}
    (h : canonicalProposalId proposalId = .ok pid) : Free '|' pid := by
  simp only [canonicalProposalId, bind_eq_ok, raiseIf_eq_ok, pure_eq_ok] at h
  obtain ⟨-, hpid, rfl⟩ := h
  simp only [isProposalId, beforeDollar_strip, Bool.not_eq_false, Bool.and_eq_true] at hpid
  exact free_of_chars (fun c hc => List.all_eq_true.1 hpid.2 c hc) (by decide)

lemma free_proposalRef {proposalId : Json} {pid : String}
    (h : proposalRef proposalId = .ok pid) : Free '|' pid := by
  simp only [proposalRef, bind_eq_ok, raiseIf_eq_ok, pure_eq_ok] at h
  obtain ⟨-, hpid, rfl⟩ := h
  simp only [isDigitText, Bool.not_eq_false, Bool.and_eq_true] at hpid
  exact free_of_chars (fun c hc => List.all_eq_true.1 hpid.2 c hc) (by decide +kernel)

lemma free_socialHandle (handle : Json) : Free '|' (socialHandle handle) := by
  refine free_of_chars (p := isHandleChar) (fun c hc => ?_) (by decide)
  rw [socialHandle, String.toList_ofList] at hc
  exact (List.mem_filter.1 (List.mem_of_mem_take hc)).2

/-! ### The text of a link's parameters -/

def kindText : Canonical → String
  | .fund kind .. => kind
  | .vote .. => "vote"
  | .sign .. => "sign"
  | .receipt .. => "receipt"
  | .member .. => "member"
  | .attrib .. => "attrib"

/-- What stands after the kind. -/
def fieldsText : Canonical → String
  | .fund _ vault tg ts => vault ++ "|" ++ (tg ++ "|" ++ toString ts)
  | .vote governor proposalId tg ts =>
      governor ++ ":" ++ (proposalId ++ "|" ++ (tg ++ "|" ++ toString ts))
  | .sign vault action bodyB64 tg ts =>
      vault ++ "|" ++ (action ++ "|" ++ (bodyB64 ++ "|" ++ tg ++ "|" ++ toString ts))
  | .receipt vault proposalId author backers =>
      vault ++ ":" ++ (proposalId ++ "|" ++ (author ++ "|" ++ backers))
  | .member vault n handle joined =>
      vault ++ ":" ++ (toString n ++ "|" ++ (handle ++ "|" ++ joined))
  | .attrib vault attrib => vault ++ "|" ++ attrib

def text (c : Canonical) : String := kindText c ++ "|" ++ fieldsText c

/-- Fields that have no separator in them; the request body and the last field of an image may
have one. -/
def Framed : Canonical → Prop
  | .fund kind vault tg _ => kind ∈ fundLinkKinds ∧ Free '|' vault ∧ Free '|' tg
  | .vote governor proposalId tg _ => Free ':' governor ∧ Free '|' proposalId ∧ Free '|' tg
  | .sign vault action _ tg _ => Free '|' vault ∧ action ∈ signActions ∧ Free '|' tg
  | .receipt vault proposalId author _ =>
      Free ':' vault ∧ Free '|' proposalId ∧ Free '|' author
  | .member vault _ handle _ => Free ':' vault ∧ Free '|' handle
  | .attrib vault _ => Free '|' vault

lemma free_fundKind {kind : String} (h : kind ∈ fundLinkKinds) : Free '|' kind := by
  have hall : ∀ kind ∈ fundLinkKinds, '|' ∉ kind.toList := by decide
  exact hall kind h

lemma free_action {action : String} (h : action ∈ signActions) : Free '|' action := by
  have hall : ∀ action ∈ signActions, '|' ∉ action.toList := by decide
  exact hall action h

lemma free_kindText {c : Canonical} (hc : Framed c) : Free '|' (kindText c) := by
  cases c with
  | fund kind vault tg ts => exact free_fundKind hc.1
  | vote => exact (by decide : '|' ∉ "vote".toList)
  | sign => exact (by decide : '|' ∉ "sign".toList)
  | receipt => exact (by decide : '|' ∉ "receipt".toList)
  | member => exact (by decide : '|' ∉ "member".toList)
  | attrib => exact (by decide : '|' ∉ "attrib".toList)

/-- What is signed is the text of the canonical parameters, which are framed. -/
lemma canonical_of_message {r : Request} {m : String} (h : message keccak r = .ok m) :
    ∃ c, canonical keccak r = .ok c ∧ Framed c ∧ text c = m := by
  cases r with
  | fund kind vault tgUserId ts =>
    simp only [message, fundLinkMessage, bind_eq_ok, raiseIf_eq_ok, pure_eq_ok, not_not] at h
    obtain ⟨-, hkind, v, hv, tg, htg, rfl⟩ := h
    refine ⟨.fund kind v tg ts, ?_, ⟨hkind, free_canonicalAddress (by decide) hv,
      free_canonicalTg htg⟩, ?_⟩
    · simp [canonical, hv, htg, bind, Except.bind, pure, Except.pure]
    · simp [text, kindText, fieldsText, String.append_assoc]
  | vote governor proposalId tgUserId ts =>
    simp only [message, voteLinkMessage, bind_eq_ok, pure_eq_ok] at h
    obtain ⟨g, hg, p, hp, tg, htg, rfl⟩ := h
    refine ⟨.vote g p tg ts, ?_, ⟨free_canonicalAddress (by decide) hg,
      free_canonicalProposalId hp, free_canonicalTg htg⟩, ?_⟩
    · simp [canonical, hg, hp, htg, bind, Except.bind, pure, Except.pure]
    · simp [text, kindText, fieldsText, String.append_assoc]
  | sign vault action bodyB64 tgUserId ts =>
    simp only [message, signLinkMessage, bind_eq_ok, raiseIf_eq_ok, pure_eq_ok, not_not] at h
    obtain ⟨-, haction, v, hv, tg, htg, rfl⟩ := h
    refine ⟨.sign v action bodyB64 tg ts, ?_, ⟨free_canonicalAddress (by decide) hv, haction,
      free_canonicalTg htg⟩, ?_⟩
    · simp [canonical, hv, htg, bind, Except.bind, pure, Except.pure]
    · simp [text, kindText, fieldsText, String.append_assoc]
  | receipt vault proposalId author backers =>
    simp only [message, receiptImageMessage, bind_eq_ok, pure_eq_ok] at h
    obtain ⟨b, hb, v, hv, p, hp, rfl⟩ := h
    refine ⟨.receipt v p (socialHandle author) b, ?_, ⟨free_checksumAddress (by decide) hv,
      free_proposalRef hp, free_socialHandle author⟩, ?_⟩
    · simp [canonical, hb, hv, hp, bind, Except.bind, pure, Except.pure]
    · simp [text, kindText, fieldsText, String.append_assoc]
  | member vault n handle joined =>
    simp only [message, memberImageMessage, bind_eq_ok, pure_eq_ok] at h
    obtain ⟨-, -, v, hv, k, hk, rfl⟩ := h
    refine ⟨.member v k (socialHandle handle) joined, ?_, ⟨free_checksumAddress (by decide) hv,
      free_socialHandle handle⟩, ?_⟩
    · simp [canonical, hv, hk, bind, Except.bind, pure, Except.pure]
    · simp [text, kindText, fieldsText, String.append_assoc]
  | attrib vault attrib =>
    simp only [message, attribImageMessage, bind_eq_ok, pure_eq_ok] at h
    obtain ⟨v, hv, rfl⟩ := h
    refine ⟨.attrib v attrib, ?_, free_checksumAddress (by decide) hv, ?_⟩
    · simp [canonical, hv, bind, Except.bind, pure, Except.pure]
    · simp [text, kindText, fieldsText, String.append_assoc]

/-! ### Reading the fields back -/

lemma timed_inj {tg tg' : String} {ts ts' : ℤ} (htg : Free '|' tg) (htg' : Free '|' tg')
    (h : tg ++ "|" ++ toString ts = tg' ++ "|" ++ toString ts') : tg = tg' ∧ ts = ts' := by
  obtain ⟨htgs, htimes⟩ := joined_inj htg htg' h
  exact ⟨htgs, toString_inj htimes⟩

/-- The builders, by number; three kinds share the first. -/
def builder : Canonical → ℕ
  | .fund .. => 0
  | .vote .. => 1
  | .sign .. => 2
  | .receipt .. => 3
  | .member .. => 4
  | .attrib .. => 5

def builderOfKind (kind : String) : ℕ :=
  if kind ∈ fundLinkKinds then 0
  else (["vote", "sign", "receipt", "member", "attrib"].idxOf kind) + 1

lemma builderOfKind_kindText {c : Canonical} (hc : Framed c) :
    builderOfKind (kindText c) = builder c := by
  cases c with
  | fund kind vault tg ts => exact if_pos hc.1
  | vote => exact (by decide : builderOfKind "vote" = 1)
  | sign => exact (by decide : builderOfKind "sign" = 2)
  | receipt => exact (by decide : builderOfKind "receipt" = 3)
  | member => exact (by decide : builderOfKind "member" = 4)
  | attrib => exact (by decide : builderOfKind "attrib" = 5)

/-- Links of one kind with the same text have the same parameters; the kinds never cross. -/
theorem text_inj {c c' : Canonical} (hc : Framed c) (hc' : Framed c') (h : text c = text c') :
    c = c' := by
  obtain ⟨hkind, hfields⟩ := joined_inj (free_kindText hc) (free_kindText hc') h
  have hbuilder : builder c = builder c' := by
    rw [← builderOfKind_kindText hc, hkind, builderOfKind_kindText hc']
  cases c with
  | fund kind vault tg ts =>
    cases c' with
    | fund kind' vault' tg' ts' =>
      obtain ⟨rfl, hrest⟩ := joined_inj hc.2.1 hc'.2.1 hfields
      obtain ⟨rfl, rfl⟩ := timed_inj hc.2.2 hc'.2.2 hrest
      exact congrArg (Canonical.fund · vault tg ts) hkind
    | _ => exact absurd hbuilder (by simp [builder])
  | vote governor proposalId tg ts =>
    cases c' with
    | vote governor' proposalId' tg' ts' =>
      obtain ⟨rfl, hrest⟩ := joined_inj hc.1 hc'.1 hfields
      obtain ⟨rfl, htimed⟩ := joined_inj hc.2.1 hc'.2.1 hrest
      obtain ⟨rfl, rfl⟩ := timed_inj hc.2.2 hc'.2.2 htimed
      rfl
    | _ => exact absurd hbuilder (by simp [builder])
  | sign vault action bodyB64 tg ts =>
    cases c' with
    | sign vault' action' bodyB64' tg' ts' =>
      obtain ⟨rfl, hrest⟩ := joined_inj hc.1 hc'.1 hfields
      obtain ⟨rfl, hback⟩ := joined_inj (free_action hc.2.1) (free_action hc'.2.1) hrest
      -- the body is free text: the two fields behind it are read from the end
      obtain ⟨hfront, htimes⟩ := joined_inj_right (free_bar_toString ts) (free_bar_toString ts')
        hback
      obtain ⟨rfl, rfl⟩ := joined_inj_right hc.2.2 hc'.2.2 hfront
      obtain rfl := toString_inj htimes
      rfl
    | _ => exact absurd hbuilder (by simp [builder])
  | receipt vault proposalId author backers =>
    cases c' with
    | receipt vault' proposalId' author' backers' =>
      obtain ⟨rfl, hrest⟩ := joined_inj hc.1 hc'.1 hfields
      obtain ⟨rfl, hsocial⟩ := joined_inj hc.2.1 hc'.2.1 hrest
      obtain ⟨rfl, rfl⟩ := joined_inj hc.2.2 hc'.2.2 hsocial
      rfl
    | _ => exact absurd hbuilder (by simp [builder])
  | member vault n handle joined =>
    cases c' with
    | member vault' n' handle' joined' =>
      obtain ⟨rfl, hrest⟩ := joined_inj hc.1 hc'.1 hfields
      obtain ⟨hn, hsocial⟩ := joined_inj (free_bar_toString n) (free_bar_toString n') hrest
      obtain rfl := toString_inj hn
      obtain ⟨rfl, rfl⟩ := joined_inj hc.2 hc'.2 hsocial
      rfl
    | _ => exact absurd hbuilder (by simp [builder])
  | attrib vault attrib =>
    cases c' with
    | attrib vault' attrib' =>
      obtain ⟨rfl, rfl⟩ := joined_inj hc hc' hfields
      rfl
    | _ => exact absurd hbuilder (by simp [builder])

/-! ### Signatures -/

lemma lowerChar_of_isLowerHex {c : Char} (hc : isLowerHex c = true) : lowerChar c = c := by
  simp only [isLowerHex, Bool.or_eq_true, Bool.and_eq_true, decide_eq_true_eq] at hc
  exact lowerChar_of_ascii (by omega) (by omega)

lemma isSpace_of_isLowerHex {c : Char} (hc : isLowerHex c = true) : isSpace c = false := by
  have hrange : inRanges [(48, 57), (97, 102)] c.toNat = true := by
    simpa [isLowerHex, inRanges] using hc
  exact inRanges_disjoint (by decide) hrange

/-- The verifier's cleaning of a signature leaves an issued one alone. -/
lemma lower_strip_hexdigest (mac : Mac) (secret m : String) :
    lower (strip (mac.hexdigest secret m)) = mac.hexdigest secret m := by
  have hhex := mac.hex secret m
  have hstrip : strip (mac.hexdigest secret m) = mac.hexdigest secret m := by
    rw [strip, stripChars_eq_self (fun c hc => isSpace_of_isLowerHex (hhex c (List.mem_of_head? hc)))
      fun c hc => isSpace_of_isLowerHex (hhex c (List.mem_of_getLast? hc)), String.ofList_toList]
  have hascii : ∀ c ∈ (mac.hexdigest secret m).toList, c.toNat < 128 :=
    fun c hc => toNat_lt_of_isHexChar (isHexChar_of_isLowerHex (hhex c hc))
  rw [hstrip, lower, lowerChars_ascii [] hascii,
    List.map_congr_left fun c hc => lowerChar_of_isLowerHex (hhex c hc), List.map_id',
    String.ofList_toList]

lemma hexdigest_of_verify {mac : Mac} {secret m m' sig : String} {ts : ℤ} {now : Time}
    {maxAgeS futureSkewS : ℤ} (hsig : signLink mac secret m = .ok sig)
    (hverify : verifyLinkSignature mac secret m' sig ts now maxAgeS futureSkewS = .ok true) :
    mac.hexdigest secret m = mac.hexdigest secret m' := by
  simp only [signLink, bind_eq_ok, raiseIf_eq_ok, pure_eq_ok] at hsig
  obtain ⟨-, -, rfl⟩ := hsig
  rw [verifyLinkSignature] at hverify
  split_ifs at hverify with hfresh
  · cases Except.ok.inj hverify
  · simp only [signLink, compareDigest, bind_eq_ok, raiseIf_eq_ok, pure_eq_ok] at hverify
    obtain ⟨expected, ⟨-, -, rfl⟩, -, -, heq⟩ := hverify
    rw [lower_strip_hexdigest] at heq
    exact (of_decide_eq_true heq).symm

/-- Two links with one signed text are of one kind and have the same canonical parameters. So a
signature that verifies for another link's text, where the texts do not collide under the MAC, was
issued for that link. -/
theorem links_unambiguous {r r' : Request} {m m' : String} (hm : message keccak r = .ok m)
    (hm' : message keccak r' = .ok m') :
    (m = m' → ∃ c, canonical keccak r = .ok c ∧ canonical keccak r' = .ok c) ∧
      ∀ (mac : Mac) (secret sig : String) (ts : ℤ) (now : Time) (maxAgeS futureSkewS : ℤ),
        (mac.hexdigest secret m = mac.hexdigest secret m' → m = m') →
          signLink mac secret m = .ok sig →
            verifyLinkSignature mac secret m' sig ts now maxAgeS futureSkewS = .ok true →
              ∃ c, canonical keccak r = .ok c ∧ canonical keccak r' = .ok c := by
  have hsame : m = m' → ∃ c, canonical keccak r = .ok c ∧ canonical keccak r' = .ok c := by
    rintro rfl
    obtain ⟨c, hc, hframed, htext⟩ := canonical_of_message hm
    obtain ⟨c', hc', hframed', htext'⟩ := canonical_of_message hm'
    obtain rfl := text_inj hframed hframed' (htext.trans htext'.symm)
    exact ⟨c, hc, hc'⟩
  exact ⟨hsame, fun mac secret sig ts now maxAgeS futureSkewS hfree hsig hverify =>
    hsame (hfree (hexdigest_of_verify hsig hverify))⟩

def vectorMessage : String :=
  "deposit|0xabcdefabcdefabcdefabcdefabcdefabcdefabcd|987654321|1762300800"

/-- The HMAC of the test vector under its secret. -/
def vectorMac : Mac where
  hexdigest _ _ := "2da75792cd834a2b9bc9316e931008238928193e51268a8c43cbaedbd28e2c94"
  hex _ _ := by decide

/-- The address of a link may be written in any case. -/
theorem links_unambiguous_cases :
    ∃ c, canonical (fun _ _ => 0) (.fund "deposit" "0xAbCdEfAbCdEfAbCdEfAbCdEfAbCdEfAbCdEfAbCd"
        (.int 987654321) 1762300800) = .ok c ∧
      canonical (fun _ _ => 0) (.fund "deposit" "0xabcdefabcdefabcdefabcdefabcdefabcdefabcd"
        (.str "987654321") 1762300800) = .ok c := by
  have hm : message (fun _ _ => 0) (.fund "deposit" "0xAbCdEfAbCdEfAbCdEfAbCdEfAbCdEfAbCdEfAbCd"
      (.int 987654321) 1762300800) = .ok vectorMessage := by decide +kernel
  have hm' : message (fun _ _ => 0) (.fund "deposit" "0xabcdefabcdefabcdefabcdefabcdefabcdefabcd"
      (.str "987654321") 1762300800) = .ok vectorMessage := by decide +kernel
  refine (links_unambiguous hm hm').2 vectorMac "sherwood-test-vector-secret" _ 1762300800
    1762300860 900 300 (fun _ => rfl) rfl ?_
  decide +kernel

end SherwoodMonitor.LinkMessages
