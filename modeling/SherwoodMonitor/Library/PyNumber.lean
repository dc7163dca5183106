import SherwoodMonitor.Library.PyText

/-! The decimal text of an integer: `int` reads it back, `strip` leaves it alone, and it is a digit
text when the integer is not negative. -/
namespace SherwoodMonitor.PyNumber
open PyUnicode PyText

lemma toNat_of_isDigit {c : Char} (hc : c.isDigit = true) : 48 ≤ c.toNat ∧ c.toNat ≤ 57 := by
  simpa [Char.isDigit, UInt32.le_iff_toNat_le] using hc

lemma isSpace_of_isDigit {c : Char} (hc : c.isDigit = true) : isSpace c = false := by
  have hrange : inRanges [(48, 57)] c.toNat = true := by
    simpa [inRanges] using toNat_of_isDigit hc
  exact inRanges_disjoint (by decide) hrange

lemma decimalValue?_of_isDigit {c : Char} (hc : c.isDigit = true) :
    decimalValue? c = some (c.toNat - 48) := by
  have hrange := toNat_of_isDigit hc
  rw [decimalValue?, decimalZeros, List.find?_cons_of_pos (by simpa using hrange)]
  rfl

lemma ne_of_isDigit {c d : Char} (hc : c.isDigit = true) (hd : d.isDigit = false) : c ≠ d := by
  rintro rfl
  rw [hc] at hd
  exact absurd hd (by decide)

lemma digitsOnto_eq {l : List Char} (hl : ∀ c ∈ l, c.isDigit = true) (acc : ℕ) :
    digitsOnto decimalValue? 10 acc l = some (Nat.ofDigitChars 10 l acc) := by
  induction l generalizing acc with
  | nil => rw [digitsOnto, Nat.ofDigitChars_nil]
  | cons c l ih =>
    have hc : c.isDigit = true := hl c List.mem_cons_self
    have hne : c ≠ '_' := ne_of_isDigit hc (by decide)
    rw [digitsOnto, decimalValue?_of_isDigit hc, Option.bind_some,
      ih (fun d hd => hl d (List.mem_cons_of_mem c hd)), Nat.ofDigitChars_cons, Nat.mul_comm acc]
    · rfl
    · intro d l' hcons
      exact absurd hcons hne

lemma isDigit_of_mem {n : ℕ} {c : Char} (hc : c ∈ Nat.toDigits 10 n) : c.isDigit = true :=
  Nat.isDigit_of_mem_toDigits (by decide) (by decide) hc

lemma digits?_toDigits (n : ℕ) : digits? decimalValue? 10 (Nat.toDigits 10 n) = some n := by
  have hvalue := Nat.ofDigitChars_ten_toDigits (n := n)
  have hall : ∀ c ∈ Nat.toDigits 10 n, c.isDigit = true := fun c hc => isDigit_of_mem hc
  cases hl : Nat.toDigits 10 n with
  | nil => exact absurd hl Nat.toDigits_ne_nil
  | cons c l =>
    rw [hl] at hvalue hall
    rw [digits?, decimalValue?_of_isDigit (hall c List.mem_cons_self), Option.bind_some,
      digitsOnto_eq fun d hd => hall d (List.mem_cons_of_mem c hd)]
    rw [Nat.ofDigitChars_cons] at hvalue
    simpa using hvalue

lemma toList_natCast (n : ℕ) : (toString (n : ℤ)).toList = Nat.toDigits 10 n := by
  have htext : toString (n : ℤ) = toString n := rfl
  rw [htext, Nat.toString_eq_ofList_toDigits, String.toList_ofList]

lemma toList_negSucc (n : ℕ) :
    (toString (Int.negSucc n)).toList = '-' :: Nat.toDigits 10 (n + 1) := by
  have htext : toString (Int.negSucc n) = "-" ++ toString (n + 1) := rfl
  rw [htext, String.toList_append, Nat.toString_eq_ofList_toDigits, String.toList_ofList]
  simp

/-- Before digits and after them nothing is stripped. -/
lemma stripChars_digits (pre : List Char) {n : ℕ} (hpre : ∀ c ∈ pre.head?, isSpace c = false) :
    stripChars (pre ++ Nat.toDigits 10 n) = pre ++ Nat.toDigits 10 n := by
  refine stripChars_eq_self (fun c hc => ?_) fun c hc => ?_
  · cases pre with
    | nil => exact isSpace_of_isDigit (isDigit_of_mem (List.mem_of_head? hc))
    | cons d pre => exact hpre c hc
  · rw [List.getLast?_append_of_ne_nil _ Nat.toDigits_ne_nil] at hc
    exact isSpace_of_isDigit (isDigit_of_mem (List.mem_of_getLast? hc))

lemma stripChars_toString (n : ℤ) : stripChars (toString n).toList = (toString n).toList := by
  cases n with
  | ofNat n =>
    rw [Int.ofNat_eq_natCast, toList_natCast]
    exact stripChars_digits [] (by simp)
  | negSucc n =>
    rw [toList_negSucc]
    refine stripChars_digits ['-'] fun c hc => ?_
    obtain rfl : '-' = c := by simpa using hc
    decide

lemma strip_toString (n : ℤ) : strip (toString n) = toString n := by
  rw [strip, stripChars_toString, String.ofList_toList]

theorem int?_toString (n : ℤ) : int? (toString n) = some n := by
  rw [int?, stripChars_toString]
  cases n with
  | ofNat n =>
    rw [Int.ofNat_eq_natCast, toList_natCast]
    cases hl : Nat.toDigits 10 n with
    | nil => exact absurd hl Nat.toDigits_ne_nil
    | cons c l =>
      have hc : c.isDigit = true := isDigit_of_mem (n := n) (by rw [hl]; exact List.mem_cons_self)
      have hdigits := digits?_toDigits n
      rw [hl] at hdigits
      rw [signed, hdigits]
      · rfl
      · rintro l' ⟨⟩
        exact absurd hc (by decide)
      · rintro l' ⟨⟩
        exact absurd hc (by decide)
  | negSucc n =>
    rw [toList_negSucc, signed, digits?_toDigits]
    rfl

lemma toString_inj {n m : ℤ} (h : toString n = toString m) : n = m := by
  have hread := int?_toString n
  rw [h, int?_toString] at hread
  exact (Option.some.inj hread).symm

lemma isDigit_of_ascii {c : Char} (hc : c.isDigit = true) : isDigit c = true := by
  rw [isDigit, decimalValue?_of_isDigit hc]
  rfl

theorem isDigitText_toString (n : ℤ) : isDigitText (toString n) = true ↔ 0 ≤ n := by
  cases n with
  | ofNat n =>
    have hne : (Nat.toDigits 10 n).isEmpty = false := by simp [Nat.toDigits_ne_nil]
    have hall : (Nat.toDigits 10 n).all isDigit = true :=
      List.all_eq_true.2 fun c hc => isDigit_of_ascii (isDigit_of_mem hc)
    rw [isDigitText, Int.ofNat_eq_natCast, toList_natCast, hne, hall]
    simp
  | negSucc n =>
    have hminus : isDigit '-' = false := by decide +kernel
    rw [isDigitText, toList_negSucc]
    simp [hminus]

lemma toNat_of_mem_toString {n : ℤ} {c : Char} (hc : c ∈ (toString n).toList) : c.toNat < 65 := by
  have hdigit : ∀ {k : ℕ}, c ∈ Nat.toDigits 10 k → c.toNat < 65 := fun hk => by
    have hbound := (toNat_of_isDigit (isDigit_of_mem hk)).2
    omega
  cases n with
  | ofNat n =>
    rw [Int.ofNat_eq_natCast, toList_natCast] at hc
    exact hdigit hc
  | negSucc n =>
    rw [toList_negSucc] at hc
    rcases List.mem_cons.1 hc with rfl | hc
    · decide
    · exact hdigit hc

lemma lower_toString (n : ℤ) : lower (toString n) = toString n := by
  rw [lower, lowerChars_eq_self, String.ofList_toList]
  intro c hc
  have hbound := toNat_of_mem_toString hc
  omega

/-- A number is the lowercase of itself alone. -/
lemma eq_of_lower_toString {x : String} {n : ℤ} (h : lower x = toString n) : x = toString n := by
  have hchars := congrArg String.toList h
  rw [toList_lower] at hchars
  exact String.toList_injective (eq_of_lowerChars hchars fun c hc => toNat_of_mem_toString hc)

/-! ### `hex` -/

/-- `hex(n)`. -/
def hex (n : ℤ) : String :=
  (if n < 0 then "-0x" else "0x") ++ String.ofList (Nat.toDigits 16 n.natAbs)

lemma digitChar_inj {n m : ℕ} (hn : n < 16) (hm : m < 16) (h : Nat.digitChar n = Nat.digitChar m) :
    n = m := by
  have hall : ∀ n < 16, ∀ m < 16, Nat.digitChar n = Nat.digitChar m → n = m := by decide
  exact hall n hn m hm h

lemma toDigits_inj {n m : ℕ} (h : Nat.toDigits 16 n = Nat.toDigits 16 m) : n = m := by
  induction n using Nat.strong_induction_on generalizing m with
  | _ n ih =>
    by_cases hn : n < 16 <;> by_cases hm : m < 16
    · rw [Nat.toDigits_of_lt_base hn, Nat.toDigits_of_lt_base hm] at h
      exact digitChar_inj hn hm (List.singleton_inj.1 h)
    · rw [Nat.toDigits_of_lt_base hn, Nat.toDigits_of_base_le (by decide) (Nat.le_of_not_lt hm)] at h
      have hlen := congrArg List.length h
      have hpos := Nat.length_toDigits_pos (b := 16) (n := m / 16)
      simp only [List.length_append, List.length_singleton] at hlen
      omega
    · rw [Nat.toDigits_of_lt_base hm, Nat.toDigits_of_base_le (by decide) (Nat.le_of_not_lt hn)] at h
      have hlen := congrArg List.length h
      have hpos := Nat.length_toDigits_pos (b := 16) (n := n / 16)
      simp only [List.length_append, List.length_singleton] at hlen
      omega
    · rw [Nat.toDigits_of_base_le (by decide) (Nat.le_of_not_lt hn),
        Nat.toDigits_of_base_le (by decide) (Nat.le_of_not_lt hm)] at h
      obtain ⟨hhigh, hlow⟩ := List.append_inj' h rfl
      have hq : n / 16 = m / 16 := ih (n / 16) (by omega) hhigh
      have hr : n % 16 = m % 16 := digitChar_inj (Nat.mod_lt _ (by decide)) (Nat.mod_lt _ (by decide))
        (List.singleton_inj.1 hlow)
      omega

lemma hex_inj {n m : ℤ} (h : hex n = hex m) : n = m := by
  have hlist := congrArg String.toList h
  rw [hex, hex] at hlist
  simp only [String.toList_append, String.toList_ofList] at hlist
  by_cases hn : n < 0 <;> by_cases hm : m < 0 <;> simp only [hn, hm, if_true, if_false] at hlist
  · have habs := toDigits_inj (List.append_cancel_left hlist)
    omega
  · exact absurd (List.cons.inj hlist).1 (by decide)
  · exact absurd (List.cons.inj hlist).1 (by decide)
  · have habs := toDigits_inj (List.append_cancel_left hlist)
    omega

end SherwoodMonitor.PyNumber
