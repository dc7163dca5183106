import Mathlib.Data.Nat.Digits.Lemmas
import Mathlib.Data.Rat.Cast.Order
import Mathlib.Tactic.FieldSimp
import Mathlib.Tactic.Linarith
import Mathlib.Tactic.Ring

/-! Decimal arithmetic of a fixed precision: a sign, a coefficient and an exponent, rounded half-even
to the digits of the context and kept within its exponents. -/
namespace SherwoodMonitor.Decimals

/-! ### Dropping digits -/

def numDigits (n : ℕ) : ℕ := (Nat.digits 10 n).length

lemma lt_pow_numDigits (n : ℕ) : n < 10 ^ numDigits n := Nat.lt_base_pow_length_digits (by decide)

lemma lt_numDigits {n k : ℕ} : k < numDigits n ↔ 10 ^ k ≤ n :=
  Nat.lt_digits_length_iff (by decide) n

lemma numDigits_le {n k : ℕ} : numDigits n ≤ k ↔ n < 10 ^ k := by
  rw [← not_lt, lt_numDigits, not_le]

/-- `n` without its last `s` digits, rounded half-even. -/
def dropDigits (n s : ℕ) : ℕ :=
  let q := n / 10 ^ s
  let r := n % 10 ^ s
  if 10 ^ s < 2 * r ∨ (2 * r = 10 ^ s ∧ q % 2 = 1) then q + 1 else q

@[simp] lemma dropDigits_zero (n : ℕ) : dropDigits n 0 = n := by
  simp [dropDigits, Nat.mod_one]

/-- What is kept is nearest, and even where two are nearest. -/
lemma dropDigits_near (n s : ℕ) :
    2 * (dropDigits n s * 10 ^ s) ≤ 2 * n + 10 ^ s ∧ 2 * n ≤ 2 * (dropDigits n s * 10 ^ s) + 10 ^ s ∧
      (2 * (dropDigits n s * 10 ^ s) = 2 * n + 10 ^ s → dropDigits n s % 2 = 0) ∧
      (2 * n = 2 * (dropDigits n s * 10 ^ s) + 10 ^ s → dropDigits n s % 2 = 0) := by
  have hpos : 0 < 10 ^ s := by positivity
  have hdiv := Nat.div_add_mod n (10 ^ s)
  have hmod := Nat.mod_lt n hpos
  rw [dropDigits]
  generalize hT : 10 ^ s = T at *
  generalize n % T = r at *
  generalize n / T = q at *
  have hsucc : (q + 1) * T = T * q + T := by ring
  have hmul : q * T = T * q := Nat.mul_comm q T
  split_ifs with hup
  · rw [hsucc]
    generalize T * q = m at *
    refine ⟨by omega, by omega, fun h => ?_, fun h => by omega⟩
    rcases hup with hup | ⟨-, hodd⟩ <;> omega
  · rw [hmul]
    generalize T * q = m at *
    refine ⟨by omega, by omega, fun h => by omega, fun h => ?_⟩
    have htie : 2 * r = T := by omega
    by_contra hodd
    exact hup (Or.inr ⟨htie, by omega⟩)

/-- An even number that is nearest is the one kept. -/
lemma dropDigits_eq {n s m : ℕ} (heven : m % 2 = 0) (hhigh : 2 * (m * 10 ^ s) ≤ 2 * n + 10 ^ s)
    (hlow : 2 * n ≤ 2 * (m * 10 ^ s) + 10 ^ s) : dropDigits n s = m := by
  obtain ⟨hq, hq', htie, htie'⟩ := dropDigits_near n s
  have hpos : 0 < 10 ^ s := by positivity
  generalize dropDigits n s = q at *
  generalize 10 ^ s = T at *
  rcases lt_trichotomy q m with hlt | heq | hgt
  · have hle : (q + 1) * T ≤ m * T := Nat.mul_le_mul_right T hlt
    have hsucc : (q + 1) * T = q * T + T := by ring
    have hqeven := htie' (by omega)
    have hsame : (q + 1) * T = m * T := by omega
    have hm := Nat.eq_of_mul_eq_mul_right hpos hsame
    omega
  · exact heq
  · have hle : (m + 1) * T ≤ q * T := Nat.mul_le_mul_right T hgt
    have hsucc : (m + 1) * T = m * T + T := by ring
    have hqeven := htie (by omega)
    have hsame : (m + 1) * T = q * T := by omega
    have hm := Nat.eq_of_mul_eq_mul_right hpos hsame
    omega

/-- Nothing is lost of a number that ends in so many zeros, and of no other. -/
lemma dropDigits_mul_eq_iff {n s : ℕ} : dropDigits n s * 10 ^ s = n ↔ 10 ^ s ∣ n := by
  constructor
  · intro h
    exact ⟨dropDigits n s, by rw [Nat.mul_comm, h]⟩
  · intro h
    have hpos : 0 < 10 ^ s := by positivity
    have hr : n % 10 ^ s = 0 := Nat.mod_eq_zero_of_dvd h
    rw [dropDigits, hr, if_neg (by omega)]
    exact Nat.div_mul_cancel h

lemma dropDigits_le {n s k : ℕ} (h : numDigits n ≤ k + s) : dropDigits n s ≤ 10 ^ k := by
  have hlt : n < 10 ^ k * 10 ^ s := by
    rw [← pow_add]
    exact numDigits_le.1 h
  have hnear := (dropDigits_near n s).1
  have hpos : 0 < 10 ^ s := by positivity
  by_contra hgt
  have hle : (10 ^ k + 1) * 10 ^ s ≤ dropDigits n s * 10 ^ s :=
    Nat.mul_le_mul_right _ (Nat.lt_of_not_le hgt)
  have hsucc : (10 ^ k + 1) * 10 ^ s = 10 ^ k * 10 ^ s + 10 ^ s := by ring
  omega

/-- A number is rounded up to one more digit. -/
lemma pow_le_dropDigits_iff {n s k : ℕ} (hk : 0 < k) (h : numDigits n ≤ k + s) :
    10 ^ k ≤ dropDigits n s ↔ 2 * 10 ^ (k + s) ≤ 2 * n + 10 ^ s := by
  have hnear := dropDigits_near n s
  rw [pow_add]
  constructor
  · intro hle
    have hmul := Nat.mul_le_mul_right (10 ^ s) hle
    omega
  · intro hle
    have hlt : n < 10 ^ k * 10 ^ s := by
      rw [← pow_add]
      exact numDigits_le.1 h
    refine (dropDigits_eq ?_ hle (by omega)).ge
    exact Nat.mod_eq_zero_of_dvd (dvd_pow (by decide) hk.ne')

/-- No multiple of `10 ^ k` lies within half a unit of the last digit kept. -/
def Far (n k s : ℕ) : Prop := 10 ^ s < 2 * (n % 10 ^ k) ∧ 10 ^ s < 2 * (10 ^ k - n % 10 ^ k)

instance (n k s : ℕ) : Decidable (Far n k s) := inferInstanceAs (Decidable (_ ∧ _))

/-- Rounding makes a multiple of `10 ^ k` of a number exactly where one is near. -/
lemma pow_dvd_dropDigits_iff {n k s : ℕ} : 10 ^ k ∣ dropDigits n s * 10 ^ s ↔ ¬Far n k s := by
  have hpow : ∀ m : ℕ, 0 < 10 ^ m := fun m => by positivity
  have hdiv := Nat.div_add_mod n (10 ^ k)
  have hmod := Nat.mod_lt n (hpow k)
  rw [Far]
  constructor
  · rintro ⟨m, hm⟩ ⟨hlow, hhigh⟩
    obtain ⟨hnear, hnear', -, -⟩ := dropDigits_near n s
    rw [hm] at hnear hnear'
    generalize hr : n % 10 ^ k = r at *
    generalize hq : n / 10 ^ k = q at *
    have hT := hpow k
    generalize 10 ^ k = T at *
    rcases Nat.lt_or_ge q m with hlt | hge
    · have hle : T * (q + 1) ≤ T * m := Nat.mul_le_mul_left T hlt
      have hsucc : T * (q + 1) = T * q + T := by ring
      omega
    · have hle : T * m ≤ T * q := Nat.mul_le_mul_left T hge
      omega
  · intro hnear
    by_cases hks : k ≤ s
    · exact Dvd.dvd.mul_left (pow_dvd_pow 10 hks) _
    · obtain ⟨j, rfl⟩ : ∃ j, k = s + (j + 1) := ⟨k - s - 1, by omega⟩
      -- the near multiple is even, counted in the units that are kept
      have hround : ∀ m, 2 * (10 ^ (s + (j + 1)) * m) ≤ 2 * n + 10 ^ s →
          2 * n ≤ 2 * (10 ^ (s + (j + 1)) * m) + 10 ^ s →
          10 ^ (s + (j + 1)) ∣ dropDigits n s * 10 ^ s := by
        intro m hhigh hlow
        have hunits : 10 ^ (s + (j + 1)) * m = 10 ^ (j + 1) * m * 10 ^ s := by ring
        rw [hunits] at hhigh hlow
        have heven : 10 ^ (j + 1) * m % 2 = 0 :=
          Nat.mod_eq_zero_of_dvd (Dvd.dvd.mul_right (dvd_pow (by decide) (by omega)) m)
        rw [dropDigits_eq heven hhigh hlow, ← hunits]
        exact dvd_mul_right _ _
      rw [not_and_or, not_lt, not_lt] at hnear
      rcases hnear with hnear | hnear
      · exact hround (n / 10 ^ (s + (j + 1))) (by omega) (by omega)
      · refine hround (n / 10 ^ (s + (j + 1)) + 1) ?_ ?_ <;> rw [Nat.mul_add, Nat.mul_one] <;> omega

/-- Two numbers are compared by their coefficients, counted in the same unit. -/
lemma mul_zpow_eq_iff {a b p q : ℕ} {i j : ℤ} (h : i + q = j + p) :
    (a : ℚ) * 10 ^ i = (b : ℚ) * 10 ^ j ↔ a * 10 ^ p = b * 10 ^ q := by
  have hten : (10 : ℚ) ≠ 0 := by norm_num
  have hpow : (10 : ℚ) ^ i * 10 ^ q = 10 ^ j * 10 ^ p := by
    rw [← zpow_natCast, ← zpow_natCast, ← zpow_add₀ hten, ← zpow_add₀ hten, h]
  have hq : (10 : ℚ) ^ q ≠ 0 := pow_ne_zero q hten
  have hj : (10 : ℚ) ^ j ≠ 0 := zpow_ne_zero j hten
  calc (a : ℚ) * 10 ^ i = (b : ℚ) * 10 ^ j
      ↔ (a : ℚ) * 10 ^ i * 10 ^ q = (b : ℚ) * 10 ^ j * 10 ^ q := (mul_left_inj' hq).symm
    _ ↔ 10 ^ j * ((a : ℚ) * 10 ^ p) = 10 ^ j * ((b : ℚ) * 10 ^ q) := by
        rw [mul_assoc, hpow]
        exact iff_of_eq (by ring_nf)
    _ ↔ (a : ℚ) * 10 ^ p = (b : ℚ) * 10 ^ q := mul_right_inj' hj
    _ ↔ a * 10 ^ p = b * 10 ^ q := by exact_mod_cast Iff.rfl

/-! ### Contexts -/

structure Context where
  prec : ℕ
  emax : ℕ
  prec_pos : 0 < prec
  emax_pos : 0 < emax

namespace Context

/-- The exponent of the last digit of the least numbers. -/
def etiny (ctx : Context) : ℤ := 1 - ctx.emax - ctx.prec

/-- The farthest that an exponent can be moved. -/
def maxJump (ctx : Context) : ℕ := 2 * (ctx.emax + ctx.prec)

end Context

structure Dec where
  neg : Bool
  coeff : ℕ
  exp : ℤ

inductive Signal
  | invalidOperation
  | overflow
  deriving DecidableEq

namespace Dec

variable (ctx : Context) (x : Dec)

/-- The exponent of the last digit that is kept. -/
def kept : ℤ := max (numDigits x.coeff + x.exp - ctx.prec) ctx.etiny

/-- How many digits are not kept. -/
def dropped : ℕ := (x.kept ctx - x.exp).toNat

/-- Rounding to the context. -/
def fix : Except Signal Dec :=
  if x.coeff = 0 then .ok { x with exp := max ctx.etiny (min x.exp ctx.emax) }
  else if ctx.emax < numDigits x.coeff + x.exp - 1 then .error .overflow
  else if x.exp < x.kept ctx then
    let coeff := dropDigits x.coeff (x.dropped ctx)
    if ctx.prec < numDigits coeff then
      if ctx.emax < x.kept ctx + ctx.prec then .error .overflow
      else .ok ⟨x.neg, coeff / 10, x.kept ctx + 1⟩
    else .ok ⟨x.neg, coeff, x.kept ctx⟩
  else .ok x

/-- The number with its exponent moved by `n`. -/
def scaleb (n : ℤ) : Except Signal Dec :=
  if ctx.maxJump < |n| then .error .invalidOperation
  else fix ctx { x with exp := x.exp + n }

/-- The number without its sign. -/
def magnitude : ℚ := x.coeff * 10 ^ x.exp

/-- Beyond the largest exponent, or rounded up beyond it. -/
def Overflows : Prop :=
  x.coeff ≠ 0 ∧ ((ctx.emax + 1 : ℤ) < numDigits x.coeff + x.exp ∨
    numDigits x.coeff + x.exp = ctx.emax + 1 ∧
      2 * 10 ^ numDigits x.coeff ≤ 2 * x.coeff + 10 ^ x.dropped ctx)

/-- The nearest integer. -/
def toIntegralValue : Dec :=
  if 0 ≤ x.exp then x else ⟨x.neg, dropDigits x.coeff (-x.exp).toNat, 0⟩

/-- `int(x)`. -/
def toInt : ℤ :=
  let n : ℕ := if 0 ≤ x.exp then x.coeff * 10 ^ x.exp.toNat else x.coeff / 10 ^ (-x.exp).toNat
  if x.neg then -n else n

/-- The coefficient, counted in units of `10 ^ e`. -/
def unitsOf (e : ℤ) : ℤ := (if x.neg then -(x.coeff : ℤ) else x.coeff) * 10 ^ (x.exp - e).toNat

/-- `format(x, "f")`. -/
def fixed : List Char :=
  let digits := Nat.toDigits 10 x.coeff
  let exp := if x.coeff = 0 then min x.exp 0 else x.exp
  let point := digits.length + exp
  let body :=
    if 0 ≤ exp then digits ++ List.replicate exp.toNat '0'
    else if point ≤ 0 then '0' :: '.' :: (List.replicate (-point).toNat '0' ++ digits)
    else digits.take point.toNat ++ '.' :: digits.drop point.toNat
  if x.neg then '-' :: body else body

/-- `x == y`. -/
def same (y : Dec) : Bool := x.unitsOf (min x.exp y.exp) = y.unitsOf (min x.exp y.exp)

/-! ### Values -/

lemma magnitude_eq_natCast {n : ℕ} :
    x.magnitude = n ↔ x.coeff * 10 ^ x.exp.toNat = n * 10 ^ (-x.exp).toNat := by
  have h := mul_zpow_eq_iff (a := x.coeff) (b := n) (i := x.exp) (j := 0) (p := x.exp.toNat)
    (q := (-x.exp).toNat) (by omega)
  rwa [zpow_zero, mul_one] at h

/-- What equals its nearest integer is one, and is read as it. -/
lemma same_toIntegralValue_iff {n : ℕ} :
    x.same x.toIntegralValue = true ∧ x.toInt = (if x.neg then -(n : ℤ) else n) ↔
      x.magnitude = n := by
  have hsign : ∀ m : ℕ, (if x.neg then -(m : ℤ) else m) = (if x.neg then -(n : ℤ) else n) ↔
      m = n := by
    intro m
    cases x.neg <;> simp
  rw [magnitude_eq_natCast]
  by_cases hexp : 0 ≤ x.exp
  · have hzero : (-x.exp).toNat = 0 := by omega
    rw [toIntegralValue, if_pos hexp, toInt, if_pos hexp, hsign, hzero]
    simp [same]
  · have hzero : x.exp.toNat = 0 := by omega
    have hmin : min x.exp 0 = x.exp := by omega
    have hpos : 0 < 10 ^ (-x.exp).toNat := by positivity
    have hsame : x.same x.toIntegralValue = true ↔ 10 ^ (-x.exp).toNat ∣ x.coeff := by
      rw [← dropDigits_mul_eq_iff, same, toIntegralValue, if_neg hexp, unitsOf, unitsOf]
      simp only [hmin, sub_self, Int.toNat_zero, pow_zero, mul_one, zero_sub, decide_eq_true_eq]
      have hcast : ((dropDigits x.coeff (-x.exp).toNat : ℕ) : ℤ) * 10 ^ (-x.exp).toNat =
          ((dropDigits x.coeff (-x.exp).toNat * 10 ^ (-x.exp).toNat : ℕ) : ℤ) := by
        push_cast
        rfl
      cases x.neg <;> simp only [Bool.false_eq_true, if_false, if_true, neg_mul, neg_inj, hcast] <;>
        exact ⟨fun h => (Int.natCast_inj.1 h).symm, fun h => Int.natCast_inj.2 h.symm⟩
    rw [hsame, toInt, if_neg hexp, hsign, hzero, pow_zero, mul_one]
    constructor
    · rintro ⟨hdvd, rfl⟩
      exact (Nat.div_mul_cancel hdvd).symm
    · intro h
      exact ⟨⟨n, by rw [h, Nat.mul_comm]⟩, by rw [h, Nat.mul_div_cancel _ hpos]⟩

theorem fix_cases :
    x.Overflows ctx ∧ x.fix ctx = .error .overflow ∨
    ¬x.Overflows ctx ∧ ∃ y, x.fix ctx = .ok y ∧ y.neg = x.neg ∧ y.coeff < 10 ^ ctx.prec ∧
      y.magnitude = dropDigits x.coeff (x.dropped ctx) * 10 ^ (x.exp + x.dropped ctx) := by
  have hprec := ctx.prec_pos
  have hemax := ctx.emax_pos
  have hpow : 0 < 10 ^ ctx.prec := by positivity
  rw [fix, Overflows]
  by_cases hzero : x.coeff = 0
  · refine Or.inr ⟨fun h => h.1 hzero, _, if_pos hzero, rfl, by simp [hzero], ?_⟩
    have hdrop : dropDigits 0 (x.dropped ctx) = 0 := dropDigits_eq rfl (by simp) (by simp)
    simp [magnitude, hzero, hdrop]
  have hkept : x.kept ctx = max (numDigits x.coeff + x.exp - ctx.prec) ctx.etiny := rfl
  have hetiny : ctx.etiny = 1 - ctx.emax - ctx.prec := rfl
  have hdropped : (x.dropped ctx : ℤ) = max 0 (x.kept ctx - x.exp) := by
    rw [dropped, Int.toNat_eq_max, max_comm]
  have hdigits : numDigits x.coeff ≤ ctx.prec + x.dropped ctx := by omega
  have hlt := lt_pow_numDigits x.coeff
  rw [if_neg hzero]
  by_cases hover : (ctx.emax : ℤ) < numDigits x.coeff + x.exp - 1
  · rw [if_pos hover]
    exact Or.inl ⟨⟨hzero, Or.inl (by omega)⟩, rfl⟩
  rw [if_neg hover]
  by_cases hround : x.exp < x.kept ctx
  · have hexp : x.exp + x.dropped ctx = x.kept ctx := by omega
    rw [if_pos hround]
    by_cases hcarry : ctx.prec < numDigits (dropDigits x.coeff (x.dropped ctx))
    · have hup : dropDigits x.coeff (x.dropped ctx) = 10 ^ ctx.prec :=
        le_antisymm (dropDigits_le hdigits) (lt_numDigits.1 hcarry)
      have hcarried := (pow_le_dropDigits_iff hprec hdigits).1 hup.ge
      have hall : numDigits x.coeff = ctx.prec + x.dropped ctx :=
        le_antisymm hdigits (by_contra fun h => by
          have hle : 10 ^ numDigits x.coeff * 10 ≤ 10 ^ (ctx.prec + x.dropped ctx) := by
            rw [← pow_succ]
            exact Nat.pow_le_pow_right (by decide) (by omega)
          have hunit : 10 ^ x.dropped ctx ≤ 10 ^ (ctx.prec + x.dropped ctx) :=
            Nat.pow_le_pow_right (by decide) (by omega)
          omega)
      rw [if_pos hcarry]
      by_cases hbeyond : (ctx.emax : ℤ) < x.kept ctx + ctx.prec
      · rw [if_pos hbeyond]
        exact Or.inl ⟨⟨hzero, Or.inr ⟨by omega, by rwa [hall]⟩⟩, rfl⟩
      · rw [if_neg hbeyond]
        refine Or.inr ⟨fun h => by omega, _, rfl, rfl, ?_, ?_⟩
        · rw [hup]
          exact Nat.div_lt_self hpow (by decide)
        · obtain ⟨k, hk⟩ : ∃ k, ctx.prec = k + 1 := ⟨ctx.prec - 1, by omega⟩
          have hten : (10 : ℚ) ≠ 0 := by norm_num
          rw [magnitude, hup, hexp, hk, pow_succ, Nat.mul_div_cancel _ (by decide),
            zpow_add₀ hten]
          push_cast
          ring
    · rw [if_neg hcarry]
      refine Or.inr ⟨fun h => ?_, _, rfl, rfl, numDigits_le.1 (not_lt.1 hcarry), by
        rw [magnitude, hexp]⟩
      rcases h.2 with hbeyond | ⟨hlast, hup⟩
      · omega
      · have hall : numDigits x.coeff = ctx.prec + x.dropped ctx := by omega
        rw [hall] at hup
        exact hcarry (lt_numDigits.2 ((pow_le_dropDigits_iff hprec hdigits).2 hup))
  · have hnone : x.dropped ctx = 0 := by omega
    rw [if_neg hround, hnone, dropDigits_zero, pow_zero]
    refine Or.inr ⟨fun h => by omega, x, rfl, rfl, numDigits_le.1 (by omega), ?_⟩
    rw [magnitude, Nat.cast_zero, add_zero]

end Dec

end SherwoodMonitor.Decimals
