import SherwoodMonitor.Library.PyNumber
import SherwoodMonitor.PrepareBodies
import SherwoodMonitor.DraftGuard

/-! The limits of a draft whose request is ready to send. What is checked are the legs, the capital
and the drawdown as they were parsed; what is sent is the body that a builder makes of the record. -/
namespace SherwoodMonitor.DraftLimits
open PyUnicode PyText PyNumber PyJson Models FundState Rules Service Calls Effects AtomicStore FundDisk
  FundWrites TxBuilder PrepareBodies Tools DraftGuard SherwoodMonitor.Units

/-! ### Calldata -/

def nibble (c : Char) : ℕ := (hexValue? c).getD 0

def ofNibbles (ns : List ℕ) : ℕ := ns.foldl (fun acc n => acc * 16 + n) 0

/-- The amount of an ERC-20 `approve(address,uint256)`: behind the selector a word for the spender
and one for the amount. -/
def approveAmount? (data : String) : Option ℕ :=
  let ns := ((beforeDollar data).drop 2).map nibble
  if ns.take 8 = [0, 9, 5, 14, 10, 7, 11, 3] ∧ 136 ≤ ns.length then
    some (ofNibbles ((ns.drop 72).take 64))
  else none

lemma hexChar_code {c : Char} (hc : isHexChar c = true) :
    48 ≤ c.toNat ∧ c.toNat ≤ 57 ∨ 65 ≤ c.toNat ∧ c.toNat ≤ 70 ∨ 97 ≤ c.toNat ∧ c.toNat ≤ 102 := by
  simpa [isHexChar, or_assoc] using hc

/-- Each hex digit is lowered to the digit of its value. -/
lemma lowerChar_hex {c : Char} (hc : isHexChar c = true) :
    nibble c < 16 ∧ lowerChar c = Nat.digitChar (nibble c) := by
  have hall : ∀ n < 128, isHexChar (Char.ofNat n) = true →
      nibble (Char.ofNat n) < 16 ∧
        lowerChar (Char.ofNat n) = Nat.digitChar (nibble (Char.ofNat n)) := by
    decide +kernel
  have hlt : c.toNat < 128 := by
    have hcode := hexChar_code hc
    omega
  have hself : Char.ofNat c.toNat = c := Char.ofNat_toNat c
  rw [← hself]
  exact hall c.toNat hlt (by rw [hself]; exact hc)

/-- The digits below 16 are read back. -/
lemma hexValue?_digitChar {n : ℕ} (hn : n < 16) : hexValue? (Nat.digitChar n) = some n ∧
    Nat.digitChar n ≠ '_' ∧ Nat.digitChar n ≠ 'x' ∧ Nat.digitChar n ≠ 'X' ∧
      Nat.digitChar n ≠ '+' ∧ Nat.digitChar n ≠ '-' ∧ isSpace (Nat.digitChar n) = false := by
  have hall : ∀ n < 16, hexValue? (Nat.digitChar n) = some n ∧
      Nat.digitChar n ≠ '_' ∧ Nat.digitChar n ≠ 'x' ∧ Nat.digitChar n ≠ 'X' ∧
        Nat.digitChar n ≠ '+' ∧ Nat.digitChar n ≠ '-' ∧ isSpace (Nat.digitChar n) = false := by
    decide +kernel
  exact hall n hn

lemma digitsOnto_hex {ns : List ℕ} (hns : ∀ n ∈ ns, n < 16) (acc : ℕ) :
    digitsOnto hexValue? 16 acc (ns.map Nat.digitChar) =
      some (ns.foldl (fun acc n => acc * 16 + n) acc) := by
  induction ns generalizing acc with
  | nil => rfl
  | cons n ns ih =>
    obtain ⟨hvalue, hunder, -⟩ := hexValue?_digitChar (hns n List.mem_cons_self)
    rw [List.map_cons, digitsOnto, hvalue, Option.bind_some,
      ih fun m hm => hns m (List.mem_cons_of_mem n hm)]
    · rfl
    · intro d l' hcons
      exact absurd hcons hunder

/-- A word of hex digits reads as its value. -/
lemma int16?_hex {ns : List ℕ} (hne : ns ≠ []) (hns : ∀ n ∈ ns, n < 16) :
    int16? (String.ofList (ns.map Nat.digitChar)) = some (ofNibbles ns : ℤ) := by
  have hdigit : ∀ c ∈ ns.map Nat.digitChar, ∃ n < 16, Nat.digitChar n = c := by
    intro c hc
    obtain ⟨n, hn, rfl⟩ := List.mem_map.1 hc
    exact ⟨n, hns n hn, rfl⟩
  have hspace : ∀ c ∈ ns.map Nat.digitChar, isSpace c = false := by
    intro c hc
    obtain ⟨n, hn, rfl⟩ := hdigit c hc
    exact (hexValue?_digitChar hn).2.2.2.2.2.2
  have hstrip : stripChars (ns.map Nat.digitChar) = ns.map Nat.digitChar :=
    stripChars_eq_self (fun c hc => hspace c (List.mem_of_head? hc))
      fun c hc => hspace c (List.mem_of_getLast? hc)
  have hbody : hexBody (ns.map Nat.digitChar) = ns.map Nat.digitChar := by
    rw [hexBody.eq_def]
    split
    · next x l hl =>
      have hx : x ∈ ns.map Nat.digitChar := by rw [hl]; simp
      obtain ⟨n, hn, rfl⟩ := hdigit x hx
      obtain ⟨-, -, hlow, hup, -⟩ := hexValue?_digitChar hn
      rw [if_neg (not_or.2 ⟨hlow, hup⟩), hl]
    · next x l _ hl =>
      have hx : x ∈ ns.map Nat.digitChar := by rw [hl]; simp
      obtain ⟨n, hn, rfl⟩ := hdigit x hx
      obtain ⟨-, -, hlow, hup, -⟩ := hexValue?_digitChar hn
      rw [if_neg (not_or.2 ⟨hlow, hup⟩), hl]
    · rfl
  have hdigits : digits? hexValue? 16 (ns.map Nat.digitChar) = some (ofNibbles ns) := by
    cases ns with
    | nil => exact absurd rfl hne
    | cons n ns =>
      rw [List.map_cons, digits?, (hexValue?_digitChar (hns n List.mem_cons_self)).1,
        Option.bind_some, digitsOnto_hex fun m hm => hns m (List.mem_cons_of_mem n hm), ofNibbles,
        List.foldl_cons, Nat.zero_mul, Nat.zero_add]
  rw [int16?, String.toList_ofList, hstrip, signed.eq_def]
  split
  · next l hl =>
    obtain ⟨n, hn, hc⟩ := hdigit '-' (by rw [hl]; simp)
    exact absurd hc (hexValue?_digitChar hn).2.2.2.2.2.1
  · next l hl =>
    obtain ⟨n, hn, hc⟩ := hdigit '+' (by rw [hl]; simp)
    exact absurd hc (hexValue?_digitChar hn).2.2.2.2.1
  · rw [hbody, hdigits]
    rfl

lemma toList_eq_beforeDollar (s : String) :
    ∃ tail, s.toList = beforeDollar s ++ tail ∧ ∀ c ∈ tail, c = '\n' := by
  rw [beforeDollar]
  split_ifs with hlast
  · refine ⟨['\n'], ?_, fun c hc => List.mem_singleton.1 hc⟩
    exact (List.dropLast_append_getLast? '\n' hlast).symm
  · exact ⟨[], (List.append_nil _).symm, fun c hc => absurd hc List.not_mem_nil⟩

/-- Lowered calldata, by the values of its digits. -/
lemma lower_hexData {data : String} (hdata : isHexData data = true) :
    ∃ l tail, beforeDollar data = '0' :: 'x' :: l ∧ (∀ c ∈ l, isHexChar c = true) ∧
      (lower data).toList = "0x".toList ++ (l.map nibble).map Nat.digitChar ++ tail := by
  rw [isHexData] at hdata
  split at hdata
  · next l hl =>
    have hhex : ∀ c ∈ l, isHexChar c = true := List.all_eq_true.1 hdata
    obtain ⟨tail, hall, htail⟩ := toList_eq_beforeDollar data
    have hascii : ∀ c ∈ data.toList, c.toNat < 128 := by
      intro c hc
      rw [hall, hl] at hc
      rcases List.mem_append.1 hc with hc | hc
      · rcases List.mem_cons.1 hc with rfl | hc
        · decide
        · rcases List.mem_cons.1 hc with rfl | hc
          · decide
          · have hcode := hexChar_code (hhex c hc)
            omega
      · rw [htail c hc]
        decide
    have hmap : l.map lowerChar = (l.map nibble).map Nat.digitChar := by
      rw [List.map_map]
      exact List.map_congr_left fun c hc => (lowerChar_hex (hhex c hc)).2
    refine ⟨l, tail.map lowerChar, hl, hhex, ?_⟩
    rw [toList_lower, lowerChars_ascii [] hascii, hall, hl, List.map_append, List.map_cons,
      List.map_cons, hmap]
    rfl
  · cases hdata

/-- What the rules read of calldata is the amount of the approve that it encodes. -/
lemma approveAmount_read {data : String} {n : ℤ} {m : ℕ} (hdata : isHexData data = true)
    (hread : approveAmountFromCalldata data = .ok n) (hm : approveAmount? data = some m) :
    n = m := by
  obtain ⟨l, tail, hl, hhex, hlower⟩ := lower_hexData hdata
  have hns : ∀ k ∈ l.map nibble, k < 16 := by
    intro k hk
    obtain ⟨c, hc, rfl⟩ := List.mem_map.1 hk
    exact (lowerChar_hex (hhex c hc)).1
  have hdrop : (beforeDollar data).drop 2 = l := by rw [hl]; rfl
  rw [approveAmount?, hdrop] at hm
  generalize l.map nibble = ns at hlower hns hm
  split_ifs at hm with hshape
  obtain ⟨hselector, hlength⟩ := hshape
  obtain rfl := Option.some.inj hm
  have hpre : "0x095ea7b3".toList.isPrefixOf (lower data).toList = true := by
    rw [List.isPrefixOf_iff_prefix, hlower]
    refine ⟨(ns.drop 8).map Nat.digitChar ++ tail, ?_⟩
    conv_rhs => rw [← List.take_append_drop 8 ns, hselector, List.map_append]
    rfl
  have hlong : ¬(lower data).toList.length < 10 + 128 := by
    rw [hlower]
    simp only [List.length_append, List.length_map]
    have htwo : "0x".toList.length = 2 := rfl
    omega
  have hword : ((lower data).toList.drop (10 + 64)).take 64 =
      ((ns.drop 72).take 64).map Nat.digitChar := by
    have hskip : ("0x".toList ++ (ns.map Nat.digitChar ++ tail)).drop (10 + 64) =
        (ns.map Nat.digitChar ++ tail).drop 72 := rfl
    rw [hlower, List.append_assoc, hskip,
      List.drop_append_of_le_length (by rw [List.length_map]; omega),
      List.take_append_of_le_length (by rw [List.length_drop, List.length_map]; omega),
      List.map_take, List.map_drop]
  have hvalue : int16? (String.ofList (((ns.drop 72).take 64).map Nat.digitChar)) =
      some (ofNibbles ((ns.drop 72).take 64) : ℤ) := by
    refine int16?_hex ?_ fun k hk => hns k (List.mem_of_mem_drop (List.mem_of_mem_take hk))
    intro hempty
    have hzero := congrArg List.length hempty
    rw [List.length_take, List.length_drop, List.length_nil] at hzero
    omega
  rw [approveAmountFromCalldata] at hread
  dsimp only at hread
  rw [hpre, if_neg (not_or.2 ⟨Bool.noConfusion, hlong⟩), hword, hvalue] at hread
  exact (Except.ok.inj hread).symm

/-! ### The rules -/

/-- The cap of a leg, as the rules read it. -/
def capOf (leg : Leg) : ℤ := (int? (if leg.cap = "" then "0" else leg.cap)).getD 0

def inPhase (phase : String) (legs : List Leg) : List Leg := legs.filter (·.phase = phase)

def capsIn (phase : String) (legs : List Leg) : ℤ := ((inPhase phase legs).map capOf).sum

/-- What the rules ask of one leg. -/
structure LegOk (leg : Leg) : Prop where
  phase : leg.phase = "execute" ∨ leg.phase = "settle"
  cap : 0 ≤ capOf leg
  approval : leg.hasCall = true → isHexData leg.data = true ∧
    ∃ n, approveAmountFromCalldata leg.data = .ok n ∧ n < unlimitedThreshold

lemma checkLegCall_ok {i : ℕ} {leg : Leg} {refused : Option Verdict}
    (h : checkLegCall i leg = .ok refused) :
    (∀ v ∈ refused, v.ok = false) ∧ (refused = none → leg.hasCall = true →
      isHexData leg.data = true ∧
        ∃ n, approveAmountFromCalldata leg.data = .ok n ∧ n < unlimitedThreshold) := by
  rw [checkLegCall] at h
  by_cases hempty : leg.target = "" ∧ leg.data = ""
  · rw [if_pos hempty] at h
    obtain rfl := Except.ok.inj h
    exact ⟨by simp, fun _ hcall => by simp [Leg.hasCall, hempty] at hcall⟩
  rw [if_neg hempty] at h
  by_cases htarget : (!isAddress leg.target) = true
  · rw [if_pos htarget] at h
    obtain rfl := Except.ok.inj h
    simp [deny]
  rw [if_neg htarget] at h
  by_cases hdata : (!isHexData leg.data) = true
  · rw [if_pos hdata] at h
    obtain rfl := Except.ok.inj h
    simp [deny]
  rw [if_neg hdata] at h
  obtain ⟨n, hn, h⟩ := bind_eq_ok.1 h
  by_cases hunlimited : unlimitedThreshold ≤ n
  · rw [if_pos hunlimited] at h
    obtain rfl := Except.ok.inj h
    simp [deny]
  · rw [if_neg hunlimited] at h
    obtain rfl := Except.ok.inj h
    exact ⟨by simp, fun _ _ => ⟨by simpa using hdata, n, hn, not_le.1 hunlimited⟩⟩

/-- A leg that passes adds its cap to the sum of its phase. -/
lemma checkLegsFrom_cons {maxCapital executeCaps settleCaps : ℤ} {i : ℕ} {leg : Leg}
    {legs : List Leg} {v : Verdict} (hv : v.ok = true)
    (h : checkLegsFrom maxCapital i executeCaps settleCaps (leg :: legs) = .ok v) :
    LegOk leg ∧
      checkLegsFrom maxCapital (i + 1) (executeCaps + capsIn "execute" [leg])
        (settleCaps + capsIn "settle" [leg]) legs = .ok v := by
  have hdeny : ∀ {code reason : String} {p : Prop},
      (pure (deny code reason) : Except Exc Verdict) = .ok v → p := by
    intro code reason p hpure
    obtain rfl := Except.ok.inj hpure
    cases hv
  rw [checkLegsFrom] at h
  by_cases hphase : leg.phase ≠ "execute" ∧ leg.phase ≠ "settle"
  · rw [if_pos hphase] at h
    exact hdeny h
  rw [if_neg hphase] at h
  extract_lets next at h
  have hnext : ∃ unlimited, next unlimited = .ok v := by
    by_cases happrove : leg.kind = "approve" ∧ leg.amount ≠ ""
    · rw [if_pos happrove] at h
      obtain ⟨unlimited, -, h⟩ := bind_eq_ok.1 h
      exact ⟨unlimited, h⟩
    · rw [if_neg happrove] at h
      exact ⟨false, h⟩
  clear h
  obtain ⟨unlimited, h⟩ := hnext
  dsimp only [next] at h
  by_cases hunlimited : unlimited = true
  · rw [if_pos hunlimited] at h
    exact hdeny h
  rw [if_neg hunlimited] at h
  obtain ⟨refused, hcall, h⟩ := bind_eq_ok.1 h
  obtain ⟨hrefused, happrovals⟩ := checkLegCall_ok hcall
  cases refused with
  | some refusal =>
    obtain rfl := Except.ok.inj h
    rw [hrefused _ rfl] at hv
    cases hv
  | none =>
    have hcap : capOf leg = (int? (if leg.cap = "" then "0" else leg.cap)).getD 0 := rfl
    dsimp only at h
    cases hread : int? (if leg.cap = "" then "0" else leg.cap) with
    | none =>
      rw [hread] at h
      exact hdeny h
    | some cap =>
      rw [hread, Option.getD_some] at hcap
      rw [hread] at h
      dsimp only at h
      by_cases hnegative : cap < 0
      · rw [if_pos hnegative] at h
        exact hdeny h
      rw [if_neg hnegative] at h
      have hok : LegOk leg :=
        ⟨by tauto, by omega, happrovals rfl⟩
      refine ⟨hok, ?_⟩
      by_cases hexecute : leg.phase = "execute"
      · rw [if_pos hexecute] at h
        simpa [capsIn, inPhase, hexecute, hcap] using h
      · rw [if_neg hexecute] at h
        have hsettle : leg.phase = "settle" := hok.phase.resolve_left hexecute
        simpa [capsIn, inPhase, hsettle, hcap] using h

lemma capsIn_cons (phase : String) (leg : Leg) (legs : List Leg) :
    capsIn phase (leg :: legs) = capsIn phase [leg] + capsIn phase legs := by
  rw [capsIn, inPhase, ← List.singleton_append, List.filter_append, List.map_append,
    List.sum_append]
  rfl

lemma checkLegsFrom_ok {maxCapital executeCaps settleCaps : ℤ} {i : ℕ} {legs : List Leg}
    {v : Verdict} (hv : v.ok = true)
    (h : checkLegsFrom maxCapital i executeCaps settleCaps legs = .ok v) :
    (∀ leg ∈ legs, LegOk leg) ∧ executeCaps + capsIn "execute" legs ≤ maxCapital ∧
      settleCaps + capsIn "settle" legs ≤ maxCapital := by
  induction legs generalizing i executeCaps settleCaps with
  | nil =>
    have hzero : ∀ phase, capsIn phase [] = 0 := fun _ => rfl
    rw [checkLegsFrom] at h
    obtain rfl := Except.ok.inj h
    rw [hzero, hzero, add_zero, add_zero]
    split_ifs at hv with hexecute hsettle
    · cases hv
    · cases hv
    · exact ⟨fun leg hleg => absurd hleg List.not_mem_nil, not_lt.1 hexecute, not_lt.1 hsettle⟩
  | cons leg legs ih =>
    obtain ⟨hleg, hrest⟩ := checkLegsFrom_cons hv h
    obtain ⟨hlegs, hexecute, hsettle⟩ := ih hrest
    rw [capsIn_cons "execute" leg legs, capsIn_cons "settle" leg legs, ← add_assoc, ← add_assoc]
    exact ⟨List.forall_mem_cons.2 ⟨hleg, hlegs⟩, hexecute, hsettle⟩

/-- What the rules ask of the capital and the drawdown of a draft. -/
structure EnvelopeOk (fund : Fund) (maxCapital maxDrawdownBps : ℤ) : Prop where
  positive : 0 < maxCapital
  ceiling : ∀ text, fund.maxCapital = some text → ∃ n, int? text = some n ∧ maxCapital ≤ n
  drawdown : 0 ≤ maxDrawdownBps ∧ maxDrawdownBps ≤ 10000
  drawdownCeiling : ∀ n, fund.maxDrawdownBps = some n → maxDrawdownBps ≤ n

lemma int?_of_pyInt {text : String} {n : ℤ} (h : pyInt text = .ok n) : int? text = some n := by
  rw [pyInt] at h
  cases hread : int? text with
  | none =>
    rw [hread] at h
    cases h
  | some m =>
    rw [hread] at h
    rw [Except.ok.inj h]

lemma checkEnvelope_ok {s : FundState} {maxCapital maxDrawdownBps : ℤ} {v : Verdict}
    (hv : v.ok = true) (h : checkEnvelope s maxCapital maxDrawdownBps = .ok v) :
    EnvelopeOk s.fund maxCapital maxDrawdownBps := by
  have hdeny : ∀ {code reason : String} {p : Prop},
      (pure (deny code reason) : Except Exc Verdict) = .ok v → p := by
    intro code reason p hpure
    obtain rfl := Except.ok.inj hpure
    cases hv
  rw [checkEnvelope] at h
  by_cases hpositive : maxCapital ≤ 0
  · rw [if_pos hpositive] at h
    exact hdeny h
  rw [if_neg hpositive] at h
  extract_lets next at h
  have hnext : ∃ above, next above = .ok v ∧
      ∀ text, s.fund.maxCapital = some text →
        ∃ n, int? text = some n ∧ above = decide (n < maxCapital) := by
    cases hmax : s.fund.maxCapital with
    | none =>
      rw [hmax] at h
      exact ⟨false, h, fun text htext => nomatch htext⟩
    | some text =>
      rw [hmax] at h
      obtain ⟨n, hn, h⟩ := bind_eq_ok.1 h
      refine ⟨_, h, fun text' htext => ⟨n, ?_, rfl⟩⟩
      obtain rfl := Option.some.inj htext
      exact int?_of_pyInt hn
  clear h
  obtain ⟨above, h, habove⟩ := hnext
  dsimp only [next] at h
  by_cases htrue : above = true
  · rw [if_pos htrue] at h
    exact hdeny h
  rw [if_neg htrue] at h
  by_cases hdrawdown : ¬(0 ≤ maxDrawdownBps ∧ maxDrawdownBps ≤ 10000)
  · rw [if_pos hdrawdown] at h
    exact hdeny h
  rw [if_neg hdrawdown] at h
  by_cases hceiling : s.fund.maxDrawdownBps.any (· < maxDrawdownBps) = true
  · rw [if_pos hceiling] at h
    exact hdeny h
  refine ⟨not_le.1 hpositive, ?_, not_not.1 hdrawdown, ?_⟩
  · intro text htext
    obtain ⟨n, hread, rfl⟩ := habove text htext
    exact ⟨n, hread, by simpa using htrue⟩
  · intro n hn
    simpa [hn] using hceiling

lemma checkDraft_limits {s : FundState} {agent topic : String} {maxCapital maxDrawdownBps : ℤ}
    {legs : List Leg} {now : Time} {v : Verdict} (hv : v.ok = true)
    (h : checkDraft s agent topic maxCapital maxDrawdownBps legs now = .ok v) :
    EnvelopeOk s.fund maxCapital maxDrawdownBps ∧ (∀ leg ∈ legs, LegOk leg) ∧
      capsIn "execute" legs ≤ maxCapital ∧ capsIn "settle" legs ≤ maxCapital := by
  rw [checkDraft] at h
  split_ifs at h with hgates hmine hfull
  · obtain rfl := Except.ok.inj h
    simp [hv] at hgates
  · obtain rfl := Except.ok.inj h
    cases hv
  · obtain rfl := Except.ok.inj h
    cases hv
  rcases hclaim : claimOf s agent now with _ | ⟨i, claim⟩
  · rw [hclaim] at h
    obtain rfl := Except.ok.inj h
    cases hv
  rw [hclaim] at h
  dsimp only at h
  by_cases htopic : normalizeTopic claim.topic ≠ normalizeTopic topic
  · rw [if_pos htopic] at h
    obtain rfl := Except.ok.inj h
    cases hv
  rw [if_neg htopic] at h
  obtain ⟨envelope, henvelope, h⟩ := bind_eq_ok.1 h
  obtain ⟨checked, hchecked, h⟩ := bind_eq_ok.1 h
  obtain rfl := Except.ok.inj h
  rw [firstFailure_ok, List.forall_mem_cons, List.forall_mem_singleton] at hv
  rw [checkLegs] at hchecked
  by_cases hempty : legs.isEmpty = true
  · rw [if_pos hempty] at hchecked
    obtain rfl := Except.ok.inj hchecked
    cases hv.2
  rw [if_neg hempty] at hchecked
  obtain ⟨hlegs, hexecute, hsettle⟩ := checkLegsFrom_ok hv.2 hchecked
  rw [zero_add] at hexecute hsettle
  exact ⟨checkEnvelope_ok hv.1 henvelope, hlegs, hexecute, hsettle⟩

/-! ### The arguments -/

lemma exists_of_mem_mapM {α β : Type} {f : α → Except Exc β} {l : List α} {bs : List β}
    (h : l.mapM f = .ok bs) {b : β} (hb : b ∈ bs) : ∃ a ∈ l, f a = .ok b := by
  induction l generalizing bs with
  | nil =>
    rw [List.mapM_nil] at h
    obtain rfl := Except.ok.inj h
    cases hb
  | cons a l ih =>
    rw [List.mapM_cons] at h
    obtain ⟨b', hb', h⟩ := bind_eq_ok.1 h
    obtain ⟨bs', hbs', h⟩ := bind_eq_ok.1 h
    obtain rfl := Except.ok.inj h
    rcases List.mem_cons.1 hb with rfl | hb
    · exact ⟨a, List.mem_cons_self, hb'⟩
    · obtain ⟨a', ha', hread⟩ := ih hbs' hb
      exact ⟨a', List.mem_cons_of_mem a ha', hread⟩

lemma cap_of_parse {args : Args} {s : FundState} {d : Draft} (h : parseDraftArgs args s = .ok d)
    {leg : Leg} (hleg : leg ∈ d.legs) : ∃ n : ℤ, leg.cap = toString n := by
  simp only [parseDraftArgs, bind_eq_ok, pure_eq_ok] at h
  obtain ⟨_, -, legs, hlegs, _, -, _, -, _, -, _, -, rfl⟩ := h
  rw [parseLegs.eq_def] at hlegs
  split at hlegs
  · obtain ⟨item, -, hitem⟩ := exists_of_mem_mapM hlegs hleg
    simp only [parseLeg, bind_eq_ok, pure_eq_ok] at hitem
    obtain ⟨-, -, n, -, -, -, rfl⟩ := hitem
    exact ⟨n, rfl⟩
  · cases hlegs

/-! ### What is sent -/

def field (key : String) : Json → Json
  | .obj fields => Json.lookup key fields
  | _ => .null

/-- The calls of a phase: one for each of its legs, and for each the cap that the leg was given.
The caps make at most the capital, and no call is an unlimited approval. -/
structure PhaseWithin (legs : List Leg) (calls caps : Json) (maxCapital : ℤ) : Prop where
  calls : calls = .arr (legs.map rawCall)
  caps : ∃ ns : List ℕ, legs.map (·.cap) = ns.map (fun n : ℕ => toString (n : ℤ)) ∧
    caps = .arr (ns.map fun n : ℕ => .str (toString (n : ℤ))) ∧ (ns.sum : ℤ) ≤ maxCapital
  approvals : ∀ leg ∈ legs, ∀ amount, approveAmount? leg.data = some amount → amount < 2 ^ 255

/-- The body of a proposal with its own calls, against the record and the fund's ceilings. -/
structure RawWithin (fund : Fund) (record : ProposalRecord) (body : Json)
    (maxCapital maxDrawdownBps : ℤ) : Prop where
  envelope : field "envelope" body = .obj [("maxCapital", .str (toString maxCapital)),
    ("maxDrawdownBps", .int maxDrawdownBps)]
  ceilings : EnvelopeOk fund maxCapital maxDrawdownBps
  phases : ∀ leg ∈ record.legs, leg.phase = "execute" ∨ leg.phase = "settle"
  execute : PhaseWithin (inPhase "execute" record.legs) (field "executeCalls" body)
    (field "executeCallCaps" body) maxCapital
  settle : PhaseWithin (inPhase "settle" record.legs) (field "settlementCalls" body)
    (field "settlementCallCaps" body) maxCapital

/-- The body of a portfolio, in the same way. -/
structure PortfolioWithin (fund : Fund) (record : ProposalRecord) (body : Json)
    (maxCapital maxDrawdownBps : ℤ) : Prop where
  capital : field "maxCapital" body = .str (toString maxCapital)
  drawdown : field "maxDrawdownBps" body = .int maxDrawdownBps
  ceilings : EnvelopeOk fund maxCapital maxDrawdownBps
  legs : field "legs" body = .arr ((inPhase "execute" record.legs).map legJson)
  count : 1 ≤ (inPhase "execute" record.legs).length ∧
    (inPhase "execute" record.legs).length ≤ 20
  weights : ∀ leg ∈ inPhase "execute" record.legs, 0 < leg.weightBps
  total : ((inPhase "execute" record.legs).map (·.weightBps)).sum = 10000

/-- The draft's request keeps to the limits of its route. -/
def Within (fund : Fund) (r : DraftResult) : Prop :=
  ∃ maxCapital maxDrawdownBps,
    r.prepare.route = "propose" ∧
        RawWithin fund r.proposal r.prepare.body maxCapital maxDrawdownBps ∨
      r.prepare.route = "propose-portfolio" ∧
        PortfolioWithin fund r.proposal r.prepare.body maxCapital maxDrawdownBps

lemma phaseWithin_of_ok {phase : String} {legs : List Leg} {maxCapital : ℤ}
    (hlegs : ∀ leg ∈ legs, LegOk leg) (hcaps : ∀ leg ∈ legs, ∃ n : ℤ, leg.cap = toString n)
    (hcalls : ∀ leg ∈ legs, leg.hasCall = true) (hsum : capsIn phase legs ≤ maxCapital) :
    PhaseWithin (inPhase phase legs) (.arr ((inPhase phase legs).map rawCall))
      (.arr ((inPhase phase legs).map fun leg => .str leg.cap)) maxCapital := by
  have hcap : ∀ leg ∈ inPhase phase legs, leg.cap = toString ((capOf leg).toNat : ℤ) ∧
      ((capOf leg).toNat : ℤ) = capOf leg := by
    intro leg hleg
    have hmem : leg ∈ legs := List.mem_of_mem_filter hleg
    obtain ⟨n, hn⟩ := hcaps leg hmem
    have hne : toString n ≠ "" := by
      intro hempty
      have hread := int?_toString n
      rw [hempty] at hread
      cases hread
    have hread : capOf leg = n := by rw [capOf, hn, if_neg hne, int?_toString, Option.getD_some]
    have hnat := Int.toNat_of_nonneg (hlegs leg hmem).cap
    exact ⟨by rw [hnat, hread, hn], hnat⟩
  refine ⟨rfl, ⟨(inPhase phase legs).map fun leg => (capOf leg).toNat, ?_, ?_, ?_⟩, ?_⟩
  · rw [List.map_map]
    exact List.map_congr_left fun leg hleg => (hcap leg hleg).1
  · rw [List.map_map]
    exact congrArg Json.arr (List.map_congr_left fun leg hleg => congrArg Json.str (hcap leg hleg).1)
  · refine le_trans (le_of_eq ?_) hsum
    rw [capsIn, Nat.cast_list_sum, List.map_map]
    exact congrArg List.sum (List.map_congr_left fun leg hleg => (hcap leg hleg).2)
  · intro leg hleg amount hamount
    have hmem : leg ∈ legs := List.mem_of_mem_filter hleg
    obtain ⟨hdata, n, hread, hlt⟩ := (hlegs leg hmem).approval (hcalls leg hmem)
    have hvalue := approveAmount_read hdata hread hamount
    rw [unlimitedThreshold] at hlt
    omega

lemma draftProposal_prepare {s s' : FundState} {agent : String} {d : Draft} {now : Time}
    {r : DraftResult} (h : draftProposal agent d now s = .ok (r, s')) :
    ∃ proposer, r.prepare = if isPortfolio r.proposal then
        portfolioPayload s.fund r.proposal proposer d.metadataUri
      else proposePayload s.fund r.proposal d.strategy d.metadataUri := by
  simp only [draftProposal, bind_eq_ok, require_eq_ok, refuseIf_eq_ok, agentNamed_ok, pure_eq_ok,
    Prod.mk.injEq] at h
  obtain ⟨-, -, v, -, -, -, a, -, rfl, -⟩ := h
  exact ⟨a.address, rfl⟩

/-- The legs of a portfolio are all its execute legs. -/
lemma symbolLegs_of_isPortfolio {record : ProposalRecord} (h : isPortfolio record = true) :
    symbolLegs record = inPhase "execute" record.legs := by
  simp only [isPortfolio, Bool.and_eq_true, List.all_eq_true, List.mem_filter,
    decide_eq_true_eq] at h
  refine List.filter_congr fun leg hleg => ?_
  by_cases hphase : leg.phase = "execute"
  · simp [hphase, (h.1.2 leg ⟨hleg, hphase⟩).1]
  · simp [hphase]

lemma callLegs_eq {record : ProposalRecord} (h : ∀ leg ∈ record.legs, leg.hasCall = true)
    (phase : String) : callLegs phase record = inPhase phase record.legs :=
  List.filter_congr fun leg hleg => by simp [h leg hleg]

/-- Whatever the fund was when the arguments were read, a draft recorded with a ready request is
within the limits of the fund as it then was. -/
lemma within_of_draft {args : Args} {agent : String} {s₀ s s' : FundState} {d : Draft} {now : Time}
    {r : DraftResult} (hparse : parseDraftArgs args s₀ = .ok d)
    (hdraft : draftProposal agent d now s = .ok (r, s')) (hready : r.prepare.ready = true) :
    Within s.fund r := by
  obtain ⟨v, hv, hok, i, a, claim, -, hrecord, -⟩ := draftProposal_ok hdraft
  obtain ⟨henvelope, hlegs, hexecute, hsettle⟩ := checkDraft_limits hok hv
  obtain ⟨proposer, hprepare⟩ := draftProposal_prepare hdraft
  have hdlegs : r.proposal.legs = d.legs := by rw [hrecord]; rfl
  have hcapital : r.proposal.maxCapital = toString d.maxCapital := by rw [hrecord]; rfl
  have hdrawdown : r.proposal.maxDrawdownBps = d.maxDrawdownBps := by rw [hrecord]; rfl
  rw [← hdlegs] at hlegs hexecute hsettle
  have hcaps : ∀ leg ∈ r.proposal.legs, ∃ n : ℤ, leg.cap = toString n := fun leg hleg =>
    cap_of_parse hparse (by rwa [hdlegs] at hleg)
  refine ⟨d.maxCapital, d.maxDrawdownBps, ?_⟩
  by_cases hroute : isPortfolio r.proposal = true
  · rw [if_pos hroute] at hprepare
    rw [hprepare] at hready
    have hbody := portfolioPayload_body hready
    obtain ⟨-, hok, -⟩ := portfolioPayload_ready.1 hready
    have hall := symbolLegs_of_isPortfolio hroute
    have hcount := hok.count
    have hweights := hok.weights
    have htotal := hok.total
    rw [hall] at hcount hweights htotal
    refine Or.inr ⟨by rw [hprepare, hbody], ?_⟩
    rw [hprepare, hbody]
    refine ⟨?_, ?_, henvelope, ?_, hcount, hweights, htotal⟩
    · rw [← hcapital]
      rfl
    · rw [← hdrawdown, portfolioBody, portfolioFields, metadataFields]
      split_ifs <;> rfl
    · rw [← hall]
      rfl
  · rw [if_neg hroute] at hprepare
    rw [hprepare] at hready
    obtain ⟨hmissing, -, hbody⟩ := proposePayload_ready hready
    obtain ⟨-, -, -, hcalls⟩ := proposeMissing_nil hmissing
    refine Or.inl ⟨by rw [hprepare, hbody], ?_⟩
    rw [hprepare, hbody, callLegs_eq hcalls, callLegs_eq hcalls, hcapital, hdrawdown]
    exact ⟨rfl, henvelope, fun leg hleg => (hlegs leg hleg).phase,
      phaseWithin_of_ok hlegs hcaps hcalls hexecute, phaseWithin_of_ok hlegs hcaps hcalls hsettle⟩

variable {rt : Runtime} {args : Args} {clock : ℕ → Clock} {disk : Disk}

/-- Every draft that the tool records with a ready request keeps to the limits of its route. -/
theorem draft_within_limits {name : String} {s : FundState} {r : DraftResult}
    (hname : rt.fundFor (Json.lookup "fund" args) disk = .ok name)
    (hstate : disk.find name = some s)
    (hrun : ((fundDraftProposal rt args clock).run disk).result = .ok (.draft r))
    (hready : r.prepare.ready = true) : Within s.fund r := by
  by_cases hparses : Parses rt args disk
  · obtain ⟨⟨name', agent, d⟩, hplan⟩ := hparses
    obtain ⟨hname', state, hfind, hd, -⟩ := draftPlan_ok.1 hplan
    obtain rfl : name = name' := Except.ok.inj (hname.symm.trans hname')
    obtain rfl : s = state := Option.some.inj (hstate.symm.trans hfind)
    rcases @run_of_plan _ _ _ clock _ _ _ _ hplan hstate with
      ⟨result, mid, hdraft, hres⟩ | ⟨e, -, hres⟩
    · rw [hres] at hrun
      obtain rfl : result = r := by
        injection hrun with hreply
        injection hreply
      exact within_of_draft hd hdraft hready
    · rw [hres] at hrun
      cases hrun
  · obtain ⟨e, -, hrun'⟩ := @run_of_not_parses _ _ _ clock hparses
    rw [hrun'] at hrun
    cases hrun

def spenderWord : String := "000000000000000000000000000000000000000000000000000000000000dEaD"

/-- A draft with one call, an approval of 500 base units. -/
def approveCall : Args :=
  [("topic", .str "TSLA momentum"), ("thesis", .str "earnings"),
    ("legs", .arr [.obj [("summary", .str "approve USDG"), ("kind", .str "approve"),
      ("target", .str "0x000000000000000000000000000000000000dEaD"),
      ("data", .str ("0x095EA7B3" ++ spenderWord ++
        "00000000000000000000000000000000000000000000000000000000000001f4")),
      ("cap", .str "400")]]),
    ("max_capital", .str "500"), ("max_drawdown_bps", .int 1000),
    ("strategy_duration_seconds", .int 3600),
    ("strategy", .str "0x000000000000000000000000000000000000bEEF"),
    ("metadata_uri", .str "ipfs://bafy")]

def sampleRun : Outcome Disk Exc ToolEvent ToolReply :=
  (fundDraftProposal sampleRuntime approveCall fun _ => ⟨1020, 1020⟩).run claimedDisk

def readyOnPropose : Except Exc ToolReply → Bool
  | .ok (.draft r) => r.prepare.ready && decide (r.prepare.route = "propose")
  | _ => false

theorem draft_within_limits_sample :
    ∃ r, sampleRun.result = .ok (.draft r) ∧ r.prepare.route = "propose" ∧
      Within sampleState.fund r := by
  have hready : readyOnPropose sampleRun.result = true := by
    decide +kernel
  have hname : sampleRuntime.fundFor (Json.lookup "fund" approveCall) claimedDisk = .ok "alpha" := by
    decide +kernel
  obtain ⟨s, hs⟩ : ∃ s, claimedDisk.find "alpha" = some s := ⟨_, rfl⟩
  have hfund : s.fund = sampleState.fund := by
    have hsame : (claimedDisk.find "alpha").map (·.fund) = some sampleState.fund := by
      decide +kernel
    rw [hs] at hsame
    exact Option.some.inj hsame
  cases hrun : sampleRun.result with
  | error e =>
    rw [hrun] at hready
    cases hready
  | ok reply =>
    cases reply with
    | draft r =>
      rw [hrun] at hready
      obtain ⟨hready, hroute⟩ : r.prepare.ready = true ∧ r.prepare.route = "propose" := by
        simpa [readyOnPropose] using hready
      have hwithin := @draft_within_limits sampleRuntime approveCall (fun _ => ⟨1020, 1020⟩)
        claimedDisk "alpha" s r hname hs hrun hready
      exact ⟨r, rfl, hroute, hfund ▸ hwithin⟩
    | _ =>
      rw [hrun] at hready
      cases hready

end SherwoodMonitor.DraftLimits
