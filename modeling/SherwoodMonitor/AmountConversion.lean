import SherwoodMonitor.Library.PyNumber
import SherwoodMonitor.Library.UrlText
import SherwoodMonitor.Units

/-! Where the conversion of amounts is exact. A numeral is scaled in a context of 100 digits and
bounded exponents; what it loses there decides whether it is read as what it denotes. -/
namespace SherwoodMonitor.AmountConversion
open PyUnicode PyText PyNumber UrlText Decimals Models SherwoodMonitor.Units

/-! ### Numerals -/

/-- The sign, the coefficient and the number of fraction digits of the numeral that a text is. -/
def numeral? (text : String) : Option (Bool × ℕ × ℕ) :=
  (decimalParts? (withoutSeparators text)).map fun parts =>
    (parts.1, digitsValue (parts.2.1 ++ parts.2.2), parts.2.2.length)

/-- The value of the numeral that a text is. -/
def denotes? (text : String) : Option ℚ :=
  (numeral? text).map fun parts =>
    (if parts.1 then -(parts.2.1 : ℚ) else parts.2.1) / 10 ^ parts.2.2

/-- How many digits of a scaled numeral are rounded away: all but 100, and those behind the least
exponent. -/
def lost (c f d : ℕ) : ℕ := max (numDigits c - 100) (f - d - 1000098)

/-- A scaled numeral with more than a million digits before the point, or rounded up to so many. -/
def TooLarge (c f d : ℕ) : Prop :=
  f + 1000000 < numDigits c + d ∨
    numDigits c + d = f + 1000000 ∧ 2 * 10 ^ numDigits c ≤ 2 * c + 10 ^ lost c f d

/-- An integer is within the range and loses no digit but zeros; any other number is out of range or
far enough from every integer. -/
def Exact (c f d : ℕ) : Prop :=
  if 10 ^ (f - d) ∣ c then
    d ≤ 2000198 ∧ (c ≠ 0 → numDigits c + d ≤ f + 1000000 ∧ 10 ^ lost c f d ∣ c)
  else 2000198 < d ∨ TooLarge c f d ∨ Far c (f - d) (lost c f d)

/-! ### Scaling -/

lemma dropped_eq {neg : Bool} {c f d : ℕ} {e : ℤ} (he : e = d - f) :
    (⟨neg, c, e⟩ : Dec).dropped context = lost c f d := by
  rw [Dec.dropped, Dec.kept, Context.etiny, lost]
  simp only [context]
  omega

lemma overflows_iff {neg : Bool} {c f d : ℕ} {e : ℤ} (he : e = d - f) :
    (⟨neg, c, e⟩ : Dec).Overflows context ↔ c ≠ 0 ∧ TooLarge c f d := by
  rw [Dec.Overflows, dropped_eq he, TooLarge]
  simp only [context]
  refine and_congr Iff.rfl (or_congr ?_ (and_congr ?_ Iff.rfl)) <;> push_cast <;> omega

/-- The value that a scaled numeral is rounded to. -/
lemma fix_context {neg : Bool} {c f d : ℕ} {e : ℤ} (he : e = d - f) :
    (c ≠ 0 ∧ TooLarge c f d) ∧ (⟨neg, c, e⟩ : Dec).fix context = .error .overflow ∨
    ¬(c ≠ 0 ∧ TooLarge c f d) ∧ ∃ y, (⟨neg, c, e⟩ : Dec).fix context = .ok y ∧ y.neg = neg ∧
      y.coeff < 10 ^ 100 ∧
        y.magnitude = (dropDigits c (lost c f d) : ℚ) * 10 ^ (e + lost c f d) := by
  have hcases := Dec.fix_cases context ⟨neg, c, e⟩
  rwa [overflows_iff he, dropped_eq he] at hcases

/-- Zeros that are lost do not carry. -/
lemma tooLarge_iff {c f d : ℕ} (hc : c ≠ 0) (hlost : 10 ^ lost c f d ∣ c) :
    TooLarge c f d ↔ f + 1000000 < numDigits c + d := by
  refine or_iff_left fun ⟨_, hcarry⟩ => ?_
  have hlt := lt_pow_numDigits c
  have hle : 10 ^ lost c f d ≤ c := Nat.le_of_dvd (Nat.pos_of_ne_zero hc) hlost
  have hpow : 10 ^ lost c f d ∣ 10 ^ numDigits c :=
    pow_dvd_pow 10 ((Nat.pow_lt_pow_iff_right (by decide)).1 (hle.trans_lt hlt)).le
  have hgap : 10 ^ lost c f d ≤ 10 ^ numDigits c - c :=
    Nat.le_of_dvd (by omega) (Nat.dvd_sub hpow hlost)
  have hpos : 0 < 10 ^ lost c f d := by positivity
  omega

lemma exists_scaled_iff {a d f : ℕ} : (∃ n, a * 10 ^ d = n * 10 ^ f) ↔ 10 ^ (f - d) ∣ a := by
  rcases le_total f d with hle | hle
  · obtain ⟨k, rfl⟩ := Nat.exists_eq_add_of_le hle
    simp only [Nat.sub_eq_zero_of_le hle, pow_zero, one_dvd, iff_true]
    exact ⟨a * 10 ^ k, by ring⟩
  · obtain ⟨k, rfl⟩ := Nat.exists_eq_add_of_le hle
    have hpos : 0 < 10 ^ d := by positivity
    rw [Nat.add_sub_cancel_left]
    constructor
    · rintro ⟨n, hn⟩
      refine ⟨n, Nat.eq_of_mul_eq_mul_right hpos ?_⟩
      rw [hn]
      ring
    · rintro ⟨n, rfl⟩
      exact ⟨n, by ring⟩

/-! ### Reading -/

/-- The conversion of a scaled number to an integer, where its sign is that of an integer. -/
lemma toInt_iff {y : Dec} (hsign : y.neg = true → y.magnitude = 0) {N : ℤ} :
    y.same y.toIntegralValue = true ∧ y.toInt = N ↔ ∃ n : ℕ, N = n ∧ y.magnitude = n := by
  have hself : ∀ n : ℕ, y.magnitude = n → (if y.neg then -(n : ℤ) else n) = n := by
    intro n hn
    split_ifs with hneg
    · have hzero : (n : ℚ) = 0 := hn.symm.trans (hsign hneg)
      have hn0 : n = 0 := by exact_mod_cast hzero
      rw [hn0]
      rfl
    · rfl
  constructor
  · rintro ⟨hsame, rfl⟩
    obtain ⟨n, hn⟩ : ∃ n : ℕ, y.toInt = if y.neg then -(n : ℤ) else n := ⟨_, rfl⟩
    have hmag := y.same_toIntegralValue_iff.1 ⟨hsame, hn⟩
    exact ⟨n, hn.trans (hself n hmag), hmag⟩
  · rintro ⟨n, rfl, hmag⟩
    obtain ⟨hsame, hint⟩ := y.same_toIntegralValue_iff.2 hmag
    exact ⟨hsame, hint.trans (hself n hmag)⟩

/-- What is read of a numeral that is not negative. -/
lemma toBaseUnits_ok {text : String} {neg : Bool} {c f d : ℕ} {N : ℤ}
    (htext : numeral? text = some (neg, c, f)) (hsign : neg = true → c = 0) :
    toBaseUnits text d = .ok N ↔ (d ≤ 2000198 ∧ ¬(c ≠ 0 ∧ TooLarge c f d)) ∧
      ∃ n : ℕ, N = n ∧ dropDigits c (lost c f d) * 10 ^ (lost c f d + d) = n * 10 ^ f := by
  obtain ⟨⟨sign, ip, fp⟩, hparts, hnumeral⟩ := Option.map_eq_some_iff.1 htext
  obtain ⟨rfl, rfl, rfl⟩ : sign = neg ∧ digitsValue (ip ++ fp) = c ∧ fp.length = f := by
    simpa using hnumeral
  generalize hc : digitsValue (ip ++ fp) = c at *
  generalize hf : fp.length = f at *
  have hpositive : ¬(sign = true ∧ c ≠ 0 ∧ (!false) = true) := fun h => h.2.1 (hsign h.1)
  have hjump : (context.maxJump : ℤ) < |(d : ℤ)| ↔ ¬d ≤ 2000198 := by
    rw [Nat.abs_cast, not_le]
    exact Int.ofNat_lt
  unfold toBaseUnits
  rw [hparts]
  dsimp only
  rw [hc, hf, if_neg hpositive, Dec.scaleb]
  by_cases hd : d ≤ 2000198
  · rw [if_neg (fun h => hjump.1 h hd)]
    rcases @fix_context sign c f d (-f + d) (by ring) with
      ⟨hlarge, herror⟩ | ⟨hfits, y, hy, hneg, -, hmag⟩
    · dsimp only
      rw [herror]
      simp [hlarge]
    · dsimp only
      rw [hy]
      have hzero : y.neg = true → y.magnitude = 0 := by
        intro hy'
        have hdrop : dropDigits 0 (lost 0 f d) = 0 := dropDigits_eq rfl (by simp) (by simp)
        rw [hmag, hsign (hneg.symm.trans hy'), hdrop, Nat.cast_zero, zero_mul]
      have hvalue : ∀ n : ℕ, y.magnitude = n ↔
          dropDigits c (lost c f d) * 10 ^ (lost c f d + d) = n * 10 ^ f := by
        intro n
        have hunits := mul_zpow_eq_iff (a := dropDigits c (lost c f d)) (b := n)
          (p := lost c f d + d) (q := f) (i := -f + d + lost c f d) (j := 0) (by push_cast; ring)
        rw [hmag, ← hunits, zpow_zero, mul_one]
      have hread : (if y.same y.toIntegralValue = true then .ok y.toInt
          else (.error (.raised .units (reprText text ++ " has more than " ++ toString d ++
            " decimal places")) : Except Exc ℤ)) = .ok N ↔
          y.same y.toIntegralValue = true ∧ y.toInt = N := by
        split_ifs with hsame <;> simp [hsame]
      refine hread.trans ((toInt_iff hzero).trans ?_)
      simp only [hvalue, hd, hfits, not_false_eq_true, and_self, true_and]
  · rw [if_pos (hjump.2 hd)]
    simp [hd]

/-- What a numeral that is not negative denotes. -/
lemma denotes_iff {text : String} {neg : Bool} {c f d : ℕ} {N : ℤ}
    (htext : numeral? text = some (neg, c, f)) (hsign : neg = true → c = 0) :
    (∃ v, denotes? text = some v ∧ 0 ≤ v ∧ v * 10 ^ d = N) ↔
      ∃ n : ℕ, N = n ∧ c * 10 ^ d = n * 10 ^ f := by
  have hpow : (10 : ℚ) ^ f ≠ 0 := pow_ne_zero f (by norm_num)
  have hvalue : denotes? text = some ((c : ℚ) / 10 ^ f) := by
    rw [denotes?, htext, Option.map_some]
    cases neg with
    | false => rfl
    | true => simp [hsign rfl]
  have hscaled : ∀ n : ℕ, (c : ℚ) / 10 ^ f * 10 ^ d = n ↔ c * 10 ^ d = n * 10 ^ f := by
    intro n
    rw [div_mul_eq_mul_div, div_eq_iff hpow]
    exact_mod_cast Iff.rfl
  have hpos : (0 : ℚ) ≤ c / 10 ^ f := by positivity
  rw [hvalue]
  constructor
  · rintro ⟨v, hv, -, hN⟩
    obtain rfl := Option.some.inj hv
    have hN0 : 0 ≤ N := by
      have hcast : (0 : ℚ) ≤ N := by
        rw [← hN]
        positivity
      exact_mod_cast hcast
    obtain ⟨n, rfl⟩ := Int.eq_ofNat_of_zero_le hN0
    exact ⟨n, rfl, (hscaled n).1 (by exact_mod_cast hN)⟩
  · rintro ⟨n, rfl, hn⟩
    exact ⟨_, rfl, hpos, by exact_mod_cast (hscaled n).2 hn⟩

lemma toBaseUnits_negative {text : String} {c f d : ℕ} {N : ℤ}
    (htext : numeral? text = some (true, c, f)) (hc : c ≠ 0) : toBaseUnits text d ≠ .ok N := by
  obtain ⟨⟨sign, ip, fp⟩, hparts, hnumeral⟩ := Option.map_eq_some_iff.1 htext
  obtain ⟨rfl, rfl, rfl⟩ : sign = true ∧ digitsValue (ip ++ fp) = c ∧ fp.length = f := by
    simpa using hnumeral
  unfold toBaseUnits
  rw [hparts]
  dsimp only
  rw [if_pos ⟨rfl, hc, rfl⟩]
  exact fun h => (nomatch h)

lemma toBaseUnits_no_numeral {text : String} {d : ℕ} {N : ℤ} (htext : numeral? text = none) :
    toBaseUnits text d ≠ .ok N := by
  have hparts : decimalParts? (withoutSeparators text) = none := Option.map_eq_none_iff.1 htext
  unfold toBaseUnits
  rw [hparts]
  exact fun h => (nomatch h)

/-- A text is read exactly where it denotes a value that is not negative and an integer in base
units, and then as that integer. -/
def ReadsExactly (text : String) (d : ℕ) : Prop :=
  ∀ n : ℤ, toBaseUnits text d = .ok n ↔
    ∃ v, denotes? text = some v ∧ 0 ≤ v ∧ v * 10 ^ d = n

/-- What rounding to the context has to keep of the numeral. -/
lemma exact_iff {c f d : ℕ} :
    (∀ n : ℕ, ((d ≤ 2000198 ∧ ¬(c ≠ 0 ∧ TooLarge c f d)) ∧
        dropDigits c (lost c f d) * 10 ^ (lost c f d + d) = n * 10 ^ f) ↔
      c * 10 ^ d = n * 10 ^ f) ↔ Exact c f d := by
  have hpos : 0 < 10 ^ d := by positivity
  have hunits : ∀ a n : ℕ, a * 10 ^ (lost c f d + d) = n * 10 ^ f ↔
      a * 10 ^ lost c f d * 10 ^ d = n * 10 ^ f := by
    intro a n
    rw [pow_add, ← Nat.mul_assoc]
  simp only [hunits]
  rw [Exact]
  split_ifs with hint
  · obtain ⟨m, hm⟩ := exists_scaled_iff.2 hint
    constructor
    · intro h
      obtain ⟨⟨hd, hfits⟩, hkept⟩ := (h m).2 hm
      have hlost : 10 ^ lost c f d ∣ c :=
        dropDigits_mul_eq_iff.1 (Nat.eq_of_mul_eq_mul_right hpos (hkept.trans hm.symm))
      refine ⟨hd, fun hc => ⟨?_, hlost⟩⟩
      rw [tooLarge_iff hc hlost] at hfits
      omega
    · rintro ⟨hd, hkeeps⟩ n
      have hlost : 10 ^ lost c f d ∣ c := by
        by_cases hc : c = 0
        · rw [hc]
          exact dvd_zero _
        · exact (hkeeps hc).2
      have hfits : ¬(c ≠ 0 ∧ TooLarge c f d) := by
        rintro ⟨hc, hlarge⟩
        have hrange := (hkeeps hc).1
        rw [tooLarge_iff hc hlost] at hlarge
        omega
      rw [dropDigits_mul_eq_iff.2 hlost]
      exact and_iff_right ⟨hd, hfits⟩
  · have hnone : ∀ n, ¬c * 10 ^ d = n * 10 ^ f := fun n hn => hint (exists_scaled_iff.1 ⟨n, hn⟩)
    have hc : c ≠ 0 := by
      rintro rfl
      exact hint (dvd_zero _)
    have hfar : Far c (f - d) (lost c f d) ↔
        ¬∃ n, dropDigits c (lost c f d) * 10 ^ lost c f d * 10 ^ d = n * 10 ^ f := by
      rw [exists_scaled_iff, pow_dvd_dropDigits_iff, not_not]
    simp only [hnone, iff_false]
    rw [hfar, ← not_le]
    constructor
    · intro h
      by_contra hcon
      simp only [not_or, not_not] at hcon
      obtain ⟨hd, hlarge, n, hn⟩ := hcon
      exact h n ⟨⟨hd, fun h => hlarge h.2⟩, hn⟩
    · rintro (hd | hlarge | hno) n ⟨⟨hd', hfits⟩, hn⟩
      · exact hd hd'
      · exact hfits ⟨hc, hlarge⟩
      · exact hno ⟨n, hn⟩

lemma readsExactly_iff (text : String) (d : ℕ) :
    ReadsExactly text d ↔ ∀ neg c f, numeral? text = some (neg, c, f) → (neg = true → c = 0) →
      Exact c f d := by
  cases htext : numeral? text with
  | none =>
    have hnone : denotes? text = none := by rw [denotes?, htext, Option.map_none]
    refine iff_of_true (fun n => ?_) fun _ _ _ h => (nomatch h)
    rw [hnone]
    exact iff_of_false (toBaseUnits_no_numeral htext) fun ⟨_, h, _⟩ => (nomatch h)
  | some parts =>
    obtain ⟨neg, c, f⟩ := parts
    by_cases hsign : neg = true → c = 0
    · have hexact : ReadsExactly text d ↔ Exact c f d := by
        rw [← exact_iff]
        constructor
        · intro h n
          have hn := h n
          rw [toBaseUnits_ok htext hsign, denotes_iff htext hsign] at hn
          simpa using hn
        · intro h N
          rw [toBaseUnits_ok htext hsign, denotes_iff htext hsign]
          constructor
          · rintro ⟨hfits, n, rfl, hn⟩
            exact ⟨n, rfl, (h n).1 ⟨hfits, hn⟩⟩
          · rintro ⟨n, rfl, hn⟩
            obtain ⟨hfits, hkept⟩ := (h n).2 hn
            exact ⟨hfits, n, rfl, hkept⟩
      rw [hexact]
      constructor
      · rintro h neg' c' f' heq -
        obtain ⟨-, rfl, rfl⟩ : neg = neg' ∧ c = c' ∧ f = f' := by simpa using heq
        exact h
      · exact fun h => h neg c f rfl hsign
    · obtain ⟨rfl, hc⟩ := Classical.not_imp.1 hsign
      refine iff_of_true (fun n => iff_of_false (toBaseUnits_negative htext hc) ?_) ?_
      · rintro ⟨v, hv, hpos, -⟩
        rw [denotes?, htext, Option.map_some] at hv
        obtain rfl := Option.some.inj hv
        have hcpos : (0 : ℚ) < c := by exact_mod_cast Nat.pos_of_ne_zero hc
        have hneg : (-(c : ℚ)) / 10 ^ f < 0 := div_neg_of_neg_of_pos (by linarith) (by positivity)
        exact absurd hpos (not_le.2 hneg)
      · rintro neg' c' f' heq hsign'
        obtain ⟨rfl, rfl, -⟩ : true = neg' ∧ c = c' ∧ f = f' := by simpa using heq
        exact absurd (hsign' rfl) hc

/-! ### Formatting -/

lemma foldl_digits {l : List Char} (hl : ∀ c ∈ l, c.isDigit = true) (acc : ℕ) :
    l.foldl (fun acc c => acc * 10 + (decimalValue? c).getD 0) acc =
      Nat.ofDigitChars 10 l acc := by
  induction l generalizing acc with
  | nil => rw [List.foldl_nil, Nat.ofDigitChars_nil]
  | cons c l ih =>
    rw [List.foldl_cons, decimalValue?_of_isDigit (hl c List.mem_cons_self), Option.getD_some,
      ih fun d hd => hl d (List.mem_cons_of_mem c hd), Nat.ofDigitChars_cons, Nat.mul_comm acc]
    rfl

lemma digitsValue_toDigits (n : ℕ) : digitsValue (Nat.toDigits 10 n) = n := by
  rw [digitsValue, foldl_digits fun c hc => isDigit_of_mem hc, Nat.ofDigitChars_ten_toDigits]

lemma digitsValue_zero_cons (l : List Char) : digitsValue ('0' :: l) = digitsValue l := by
  rw [digitsValue, List.foldl_cons]
  rfl

lemma digitsValue_zeros_append (k : ℕ) (l : List Char) :
    digitsValue (List.replicate k '0' ++ l) = digitsValue l := by
  induction k with
  | zero => rfl
  | succ k ih => rw [List.replicate_succ, List.cons_append, digitsValue_zero_cons, ih]

lemma digitsValue_append_zeros (l : List Char) (k : ℕ) :
    digitsValue (l ++ List.replicate k '0') = digitsValue l * 10 ^ k := by
  induction k with
  | zero => rw [List.replicate_zero, List.append_nil, pow_zero, Nat.mul_one]
  | succ k ih =>
    have hzero : (decimalValue? '0').getD 0 = 0 := by decide
    rw [List.replicate_succ', ← List.append_assoc, digitsValue, List.foldl_append, ← digitsValue, ih,
      List.foldl_cons, List.foldl_nil, hzero, pow_succ, ← Nat.mul_assoc, Nat.add_zero]

lemma rdropWhile_append_cons {p : Char → Bool} {c : Char} (hc : p c = false) (a b : List Char) :
    (a ++ c :: b).rdropWhile p = a ++ c :: b.rdropWhile p := by
  induction b using List.reverseRecOn with
  | nil =>
    rw [List.rdropWhile_concat, hc, List.rdropWhile_nil]
    rfl
  | append_singleton b d ih =>
    rw [← List.cons_append, ← List.append_assoc, List.rdropWhile_concat, List.rdropWhile_concat]
    split_ifs with hd
    · exact ih
    · rw [List.append_assoc]
      rfl

/-- The text of a numeral without a sign: digits, and behind a point further digits. -/
structure DigitText (ip fp : List Char) : Prop where
  some_digit : ip ≠ []
  digits : ∀ c ∈ ip ++ fp, c.isDigit = true

def DigitText.chars (ip fp : List Char) : List Char := if fp = [] then ip else ip ++ '.' :: fp

lemma DigitText.mem_chars {ip fp : List Char} (h : DigitText ip fp) {c : Char}
    (hc : c ∈ DigitText.chars ip fp) : c.isDigit = true ∨ c = '.' := by
  rw [DigitText.chars] at hc
  split_ifs at hc
  · exact Or.inl (h.digits c (List.mem_append_left fp hc))
  · rw [List.mem_append, List.mem_cons] at hc
    rcases hc with hc | rfl | hc
    · exact Or.inl (h.digits c (List.mem_append_left fp hc))
    · exact Or.inr rfl
    · exact Or.inl (h.digits c (List.mem_append_right ip hc))

lemma DigitText.numeral {ip fp : List Char} (h : DigitText ip fp) :
    numeral? (String.ofList (DigitText.chars ip fp)) =
      some (false, digitsValue (ip ++ fp), fp.length) := by
  have hother : ∀ {d : Char}, d.isDigit = false → d ≠ '.' → d ∉ DigitText.chars ip fp := by
    intro d hdigit hpoint hd
    rcases h.mem_chars hd with hd | rfl
    · exact absurd (hd.symm.trans hdigit) (by decide)
    · exact hpoint rfl
  have hspace : ∀ c ∈ DigitText.chars ip fp, isSpace c = false := by
    intro c hc
    rcases h.mem_chars hc with hc | rfl
    · exact isSpace_of_isDigit hc
    · decide
  have hstrip : stripChars (DigitText.chars ip fp) = DigitText.chars ip fp :=
    stripChars_eq_self (fun c hc => hspace c (List.mem_of_head? hc))
      fun c hc => hspace c (List.mem_of_getLast? hc)
  have hclean : withoutSeparators (String.ofList (DigitText.chars ip fp)) =
      String.ofList (DigitText.chars ip fp) := by
    rw [withoutSeparators, strip, String.toList_ofList, String.toList_ofList, hstrip,
      List.filter_eq_self.2]
    intro c hc
    have hcomma : c ≠ ',' := fun heq => hother (by decide) (by decide) (heq ▸ hc)
    have hunder : c ≠ '_' := fun heq => hother (by decide) (by decide) (heq ▸ hc)
    simp [hcomma, hunder]
  have hline : beforeDollar (String.ofList (DigitText.chars ip fp)) = DigitText.chars ip fp := by
    rw [beforeDollar, String.toList_ofList, if_neg]
    exact fun hlast => hother (by decide) (by decide) (List.mem_of_getLast? hlast)
  have hminus : ¬(DigitText.chars ip fp).head? = some '-' := fun hhead =>
    hother (by decide) (by decide) (List.mem_of_head? hhead)
  have hpoint : ∀ d ∈ ip, decide (d = '.') = false := by
    intro d hd
    rw [decide_eq_false_iff_not]
    exact ne_of_isDigit (h.digits d (List.mem_append_left fp hd)) (by decide)
  have hvalues : ∀ l : List Char, (∀ c ∈ l, c.isDigit = true) →
      l.all (fun c => (decimalValue? c).isSome) = true := by
    intro l hl
    rw [List.all_eq_true]
    intro c hc
    rw [decimalValue?_of_isDigit (hl c hc)]
    rfl
  have hip := hvalues ip fun c hc => h.digits c (List.mem_append_left fp hc)
  have hfp := hvalues fp fun c hc => h.digits c (List.mem_append_right ip hc)
  have hparts : decimalParts? (String.ofList (DigitText.chars ip fp)) = some (false, ip, fp) := by
    rw [decimalParts?, hline]
    simp only [hminus, if_false]
    rw [DigitText.chars]
    by_cases hnone : fp = []
    · subst hnone
      rw [if_pos rfl, splitAtFirst_self hpoint]
      simp [h.some_digit, hip]
    · rw [if_neg hnone, splitAtFirst_append fp hpoint (by decide)]
      simp [h.some_digit, hip, hnone, hfp]
  rw [numeral?, hclean, hparts]
  rfl

lemma DigitText.rdropWhile_point {ip fp : List Char} (h : DigitText ip fp) :
    ip.rdropWhile (· = '.') = ip := by
  rw [List.rdropWhile_eq_self_iff]
  intro hne
  have hdigit := h.digits _ (List.mem_append_left fp (List.getLast_mem hne))
  simpa using ne_of_isDigit hdigit (by decide : '.'.isDigit = false)

/-- Trimming a fraction takes its last zeros and, with the last digit, the point. -/
lemma trimZeros_fraction {ip fp : List Char} (h : DigitText ip fp) :
    ∃ fp' k, fp = fp' ++ List.replicate k '0' ∧
      trimZeros (ip ++ '.' :: fp) = DigitText.chars ip fp' := by
  have hzeros : fp.rtakeWhile (· = '0') = List.replicate (fp.rtakeWhile (· = '0')).length '0' :=
    List.eq_replicate_of_mem fun c hc => by simpa using List.mem_rtakeWhile_imp hc
  have hsplit : fp = fp.rdropWhile (· = '0') ++
      List.replicate (fp.rtakeWhile (· = '0')).length '0' := by
    rw [← hzeros, List.rdropWhile_append_rtakeWhile]
  refine ⟨_, _, hsplit, ?_⟩
  have hmem : '.' ∈ ip ++ '.' :: fp := by simp
  have hsome : DigitText.chars ip (fp.rdropWhile (· = '0')) ≠ [] := by
    rw [DigitText.chars]
    split_ifs
    · exact h.some_digit
    · simp
  have htrim : ((ip ++ '.' :: fp).rdropWhile (· = '0')).rdropWhile (· = '.') =
      DigitText.chars ip (fp.rdropWhile (· = '0')) := by
    rw [rdropWhile_append_cons (by decide), DigitText.chars]
    split_ifs with hnone
    · rw [hnone, List.rdropWhile_concat, if_pos (by decide), h.rdropWhile_point]
    · rw [List.rdropWhile_eq_self_iff]
      intro hne
      have hlast : (ip ++ '.' :: fp.rdropWhile (· = '0')).getLast hne =
          (fp.rdropWhile (· = '0')).getLast hnone := by
        rw [List.getLast_append_of_ne_nil _ (List.cons_ne_nil _ _), List.getLast_cons hnone]
      have hmem := (List.rdropWhile_prefix (· = '0') (l := fp)).subset (List.getLast_mem hnone)
      have hdigit := h.digits _ (List.mem_append_right ip hmem)
      rw [hlast]
      simpa using ne_of_isDigit hdigit (by decide : '.'.isDigit = false)
  rw [trimZeros, if_pos hmem, htrim, if_neg hsome]

lemma trimZeros_digits {ip : List Char} (h : DigitText ip []) : trimZeros ip = ip := by
  have hpoint : '.' ∉ ip := fun hmem =>
    absurd (h.digits '.' (List.mem_append_left [] hmem)) (by decide)
  rw [trimZeros, if_neg hpoint, if_neg h.some_digit]

/-- Where the exponent is negative, the digits are written around a point. -/
lemma fixed_fraction {y : Dec} (hneg : y.neg = false) {exp : ℤ} (hexp : exp < 0)
    (hy : (if y.coeff = 0 then min y.exp 0 else y.exp) = exp) :
    ∃ ip fp, DigitText ip fp ∧ y.fixed = ip ++ '.' :: fp ∧ digitsValue (ip ++ fp) = y.coeff ∧
      (fp.length : ℤ) = -exp := by
  have hdigits : ∀ c ∈ Nat.toDigits 10 y.coeff, c.isDigit = true := fun c hc => isDigit_of_mem hc
  have hlen : 0 < (Nat.toDigits 10 y.coeff).length := Nat.length_toDigits_pos
  rw [Dec.fixed]
  simp only [hneg, hy, Bool.false_eq_true, if_false, if_neg (not_le.2 hexp)]
  split_ifs with hpoint
  · refine ⟨['0'], List.replicate (-((Nat.toDigits 10 y.coeff).length + exp)).toNat '0' ++
      Nat.toDigits 10 y.coeff, ⟨List.cons_ne_nil _ _, ?_⟩, rfl, ?_, ?_⟩
    · intro c hc
      rw [List.singleton_append, List.mem_cons, List.mem_append] at hc
      rcases hc with rfl | hc | hc
      · decide
      · rw [List.eq_of_mem_replicate hc]
        decide
      · exact hdigits c hc
    · rw [List.singleton_append, digitsValue_zero_cons, digitsValue_zeros_append,
        digitsValue_toDigits]
    · rw [List.length_append, List.length_replicate]
      omega
  · refine ⟨_, _, ⟨?_, ?_⟩, rfl, ?_, ?_⟩
    · rw [← List.length_pos_iff, List.length_take]
      omega
    · rw [List.take_append_drop]
      exact hdigits
    · rw [List.take_append_drop, digitsValue_toDigits]
    · rw [List.length_drop]
      omega

/-- The trimmed text of a number is a numeral of its value. -/
lemma numeral_fixed {y : Dec} (hneg : y.neg = false) :
    ∃ c f : ℕ, numeral? (String.ofList (trimZeros y.fixed)) = some (false, c, f) ∧
      (c : ℚ) * 10 ^ (-f : ℤ) = y.magnitude := by
  obtain ⟨exp, hy⟩ : ∃ exp, (if y.coeff = 0 then min y.exp 0 else y.exp) = exp := ⟨_, rfl⟩
  have hmag : y.magnitude = (y.coeff : ℚ) * 10 ^ exp := by
    rw [Dec.magnitude, ← hy]
    split_ifs with hzero
    · rw [hzero, Nat.cast_zero, zero_mul, zero_mul]
    · rfl
  rw [hmag]
  by_cases hexp : 0 ≤ exp
  · have hbody : y.fixed = Nat.toDigits 10 y.coeff ++ List.replicate exp.toNat '0' := by
      rw [Dec.fixed]
      simp only [hneg, hy, Bool.false_eq_true, if_false, if_pos hexp]
    have htext : DigitText (Nat.toDigits 10 y.coeff ++ List.replicate exp.toNat '0') [] := by
      refine ⟨fun hnil => Nat.toDigits_ne_nil (List.append_eq_nil_iff.1 hnil).1, fun c hc => ?_⟩
      rw [List.append_nil, List.mem_append] at hc
      rcases hc with hc | hc
      · exact isDigit_of_mem hc
      · rw [List.eq_of_mem_replicate hc]
        decide
    have hnumeral := htext.numeral
    rw [DigitText.chars, if_pos rfl, List.append_nil, digitsValue_append_zeros,
      digitsValue_toDigits] at hnumeral
    refine ⟨_, _, by rw [hbody, trimZeros_digits htext, hnumeral], ?_⟩
    rw [mul_zpow_eq_iff (p := 0) (q := exp.toNat) (by rw [List.length_nil]; omega), pow_zero,
      Nat.mul_one]
  · obtain ⟨ip, fp, htext, hbody, hvalue, hlength⟩ := fixed_fraction hneg (not_le.1 hexp) hy
    obtain ⟨fp', k, rfl, htrim⟩ := trimZeros_fraction htext
    have htext' : DigitText ip fp' := ⟨htext.some_digit, fun c hc => htext.digits c (by
      rw [← List.append_assoc]
      exact List.mem_append_left _ hc)⟩
    refine ⟨_, _, by rw [hbody, htrim, htext'.numeral], ?_⟩
    rw [← List.append_assoc, digitsValue_append_zeros] at hvalue
    rw [List.length_append, List.length_replicate] at hlength
    rw [mul_zpow_eq_iff (p := k) (q := 0) (by push_cast at hlength ⊢; omega), hvalue, pow_zero,
      Nat.mul_one]

/-! ### Exactness -/

lemma numDigits_mul_pow {a k : ℕ} (ha : a ≠ 0) : numDigits (a * 10 ^ k) = numDigits a + k := by
  rw [numDigits, Nat.mul_comm, Nat.digits_base_pow_mul (by decide) (Nat.pos_of_ne_zero ha),
    List.length_append, List.length_replicate, numDigits, Nat.add_comm]

/-- A numeral that is a number of 100 digits, moved by a power of ten, has no more digits than that
but zeros. -/
lemma pow_sub_dvd {c q : ℕ} {i j : ℤ} (hq : q < 10 ^ 100)
    (h : (c : ℚ) * 10 ^ i = (q : ℚ) * 10 ^ j) : 10 ^ (numDigits c - 100) ∣ c := by
  rcases le_total i j with hle | hle
  · rw [mul_zpow_eq_iff (p := 0) (q := (j - i).toNat) (by omega), pow_zero, Nat.mul_one] at h
    by_cases hzero : q = 0
    · rw [h, hzero, Nat.zero_mul]
      exact dvd_zero _
    · have hdigits := numDigits_le.2 hq
      rw [h, numDigits_mul_pow hzero]
      exact Dvd.dvd.mul_left (pow_dvd_pow 10 (by omega)) q
  · rw [mul_zpow_eq_iff (p := (i - j).toNat) (q := 0) (by omega), pow_zero, Nat.mul_one] at h
    have hpos : 0 < 10 ^ (i - j).toNat := by positivity
    have hdigits : numDigits c ≤ 100 :=
      numDigits_le.2 (((Nat.le_mul_of_pos_right c hpos).trans h.le).trans_lt hq)
    rw [Nat.sub_eq_zero_of_le hdigits, pow_zero]
    exact one_dvd c

/-- What is read of a numeral of 100 digits that denotes `M`. -/
lemma read_formatted {text : String} {y : Dec} {c f d M N : ℕ}
    (htext : numeral? text = some (false, c, f)) (hcoeff : y.coeff < 10 ^ 100)
    (hvalue : (c : ℚ) * 10 ^ (-f : ℤ) = y.magnitude) (hscaled : c * 10 ^ d = M * 10 ^ f) :
    toBaseUnits text d = .ok N ↔
      d ≤ 2000198 ∧ M = N ∧ (N ≠ 0 → numDigits N ≤ 1000000) := by
  have hlost : 10 ^ lost c f d ∣ c := by
    rw [lost]
    rcases max_cases (numDigits c - 100) (f - d - 1000098) with ⟨hmax, -⟩ | ⟨hmax, -⟩
    · rw [hmax]
      exact pow_sub_dvd hcoeff hvalue
    · rw [hmax]
      exact (pow_dvd_pow 10 (Nat.sub_le _ _)).trans (exists_scaled_iff.1 ⟨M, hscaled⟩)
  have hpos : 0 < 10 ^ f := by positivity
  have hsame : (∃ n : ℕ, (N : ℤ) = n ∧
      dropDigits c (lost c f d) * 10 ^ (lost c f d + d) = n * 10 ^ f) ↔ M = N := by
    rw [pow_add, ← Nat.mul_assoc, dropDigits_mul_eq_iff.2 hlost, hscaled]
    constructor
    · rintro ⟨n, hn, heq⟩
      rw [Nat.eq_of_mul_eq_mul_right hpos heq]
      exact_mod_cast hn.symm
    · rintro rfl
      exact ⟨M, rfl, rfl⟩
  rw [toBaseUnits_ok htext fun h => (nomatch h), hsame, and_assoc, and_comm (a := ¬_)]
  refine and_congr Iff.rfl (and_congr_right ?_)
  rintro rfl
  have hzero : c ≠ 0 ↔ M ≠ 0 := by
    have htwo : 0 < 10 ^ d := by positivity
    constructor
    · rintro hc rfl
      rw [Nat.zero_mul] at hscaled
      exact hc ((Nat.mul_eq_zero.1 hscaled).resolve_right htwo.ne')
    · rintro hM rfl
      rw [Nat.zero_mul] at hscaled
      exact hM ((Nat.mul_eq_zero.1 hscaled.symm).resolve_right hpos.ne')
  rw [not_and, hzero]
  refine forall_congr' fun hM => ?_
  have hdigits : numDigits c + d = numDigits M + f := by
    rw [← numDigits_mul_pow (hzero.2 hM), hscaled, numDigits_mul_pow hM]
  rw [tooLarge_iff (hzero.2 hM) hlost, hdigits]
  omega

/-- The text of an integer amount is read back as it. -/
def RoundTrips (n d : ℕ) : Prop :=
  ∃ text, formatUnits n d = .ok text ∧ toBaseUnits text d = .ok n

lemma roundTrips_iff (n d : ℕ) :
    RoundTrips n d ↔ d ≤ 2000198 ∧
      (n ≠ 0 → numDigits n ≤ 1000000 ∧ 10 ^ lost n d 0 ∣ n) := by
  have hjump : (context.maxJump : ℤ) < |-(d : ℤ)| ↔ ¬d ≤ 2000198 := by
    rw [abs_neg, Nat.abs_cast, not_le]
    exact Int.ofNat_lt
  have hnumber : (⟨decide ((n : ℤ) < 0), (n : ℤ).natAbs, 0⟩ : Dec) = ⟨false, n, 0⟩ := by simp
  rw [RoundTrips]
  unfold formatUnits
  dsimp only
  rw [hnumber, Dec.scaleb]
  by_cases hd : d ≤ 2000198
  · rw [if_neg (fun h => hjump.1 h hd)]
    dsimp only
    rcases @fix_context false n d 0 (0 + -d) (by push_cast; ring)
      with ⟨⟨hn, hlarge⟩, herror⟩ | ⟨hfits, y, hy, hneg, hcoeff, hmag⟩
    · rw [herror]
      refine iff_of_false (fun ⟨_, h, _⟩ => (nomatch h)) fun ⟨_, hkeeps⟩ => ?_
      obtain ⟨hdigits, hlost⟩ := hkeeps hn
      rw [tooLarge_iff hn hlost] at hlarge
      omega
    · rw [hy]
      obtain ⟨c, f, htext, hvalue⟩ := numeral_fixed hneg
      have hscaled : c * 10 ^ d = dropDigits n (lost n d 0) * 10 ^ lost n d 0 * 10 ^ f := by
        rw [Nat.mul_assoc, ← pow_add]
        exact (mul_zpow_eq_iff (by push_cast; ring)).1 (hvalue.trans hmag)
      have hread := read_formatted (N := n) htext hcoeff hvalue hscaled
      simp only [Except.ok.injEq, exists_eq_left', hread]
      constructor
      · rintro ⟨-, hkept, hdigits⟩
        have hlost := dropDigits_mul_eq_iff.1 hkept
        exact ⟨hd, fun hn => ⟨hdigits hn, hlost⟩⟩
      · rintro ⟨-, hkeeps⟩
        have hlost : 10 ^ lost n d 0 ∣ n := by
          by_cases hn : n = 0
          · rw [hn]
            exact dvd_zero _
          · exact (hkeeps hn).2
        exact ⟨hd, dropDigits_mul_eq_iff.2 hlost, fun hn => (hkeeps hn).1⟩
  · rw [if_pos (hjump.2 hd)]
    exact iff_of_false (fun ⟨_, h, _⟩ => (nomatch h)) fun h => hd h.1

/-- Conversion is exact where nothing but zeros is lost of a scaled numeral and its exponent stays in
range; texts that are no numeral and negative numerals are refused. -/
theorem amounts_exact_iff (text : String) (n d : ℕ) :
    (ReadsExactly text d ↔
      ∀ neg c f, numeral? text = some (neg, c, f) → (neg = true → c = 0) → Exact c f d) ∧
    (RoundTrips n d ↔ d ≤ 2000198 ∧
      (n ≠ 0 → numDigits n ≤ 1000000 ∧ 10 ^ lost n d 0 ∣ n)) :=
  ⟨readsExactly_iff text d, roundTrips_iff n d⟩

/-- The digit that is lost of `10 ^ 100 + 1` is not zero. -/
lemma lost_digit : ¬10 ^ lost (10 ^ 100 + 1) 0 0 ∣ 10 ^ 100 + 1 := by
  have hdigits : numDigits (10 ^ 100 + 1) = 101 :=
    le_antisymm (numDigits_le.2 (by norm_num)) (lt_numDigits.2 (by norm_num))
  rw [lost, hdigits]
  norm_num

theorem not_amounts_exact :
    (¬∀ (text : String) (d : ℕ), ReadsExactly text d) ∧ ¬∀ n d : ℕ, RoundTrips n d := by
  constructor
  · intro h
    have htext : DigitText (Nat.toDigits 10 (10 ^ 100 + 1)) [] :=
      ⟨Nat.toDigits_ne_nil, fun c hc => isDigit_of_mem (by simpa using hc)⟩
    have hnumeral := htext.numeral
    rw [List.append_nil, digitsValue_toDigits, List.length_nil] at hnumeral
    have hexact := (readsExactly_iff _ 0).1 (h _ 0) false _ _ hnumeral fun hneg => (nomatch hneg)
    rw [Exact, if_pos (by simp)] at hexact
    exact lost_digit (hexact.2 (Nat.succ_ne_zero _)).2
  · intro h
    exact lost_digit (((roundTrips_iff _ _).1 (h (10 ^ 100 + 1) 0)).2 (Nat.succ_ne_zero _)).2

end SherwoodMonitor.AmountConversion
