import Mathlib.Algebra.Order.Ring.Rat
import SherwoodMonitor.Library.PyNumber

/-! Numbers written by a format specification: grouped by thousands, and with a fixed number of
decimals, rounded half-even. -/
namespace SherwoodMonitor.NumberText
open PyNumber

/-- `round(q)`. -/
def roundHalfEven (q : ℚ) : ℤ :=
  let rest := q - q.floor
  if rest < 1 / 2 ∨ (rest = 1 / 2 ∧ q.floor % 2 = 0) then q.floor else q.floor + 1

/-- A comma behind every three digits of a number written backwards. -/
def commas : List Char → List Char
  | a :: b :: c :: d :: rest => a :: b :: c :: ',' :: commas (d :: rest)
  | l => l

def plainDigits (n : ℕ) : List Char := Nat.toDigits 10 n

def grouped (n : ℕ) : List Char := (commas (Nat.toDigits 10 n).reverse).reverse

def sign (negative : Bool) : List Char := if negative then ['-'] else []

/-- `{n:,}`. -/
def groupedInt (n : ℤ) : List Char := sign (n < 0) ++ grouped n.natAbs

/-- `{n:0{width}d}` of a number that is not negative. -/
def padded (width n : ℕ) : List Char := (plainDigits n).leftpad width '0'

/-- `{q:.{decimals}f}`, or `{q:,.{decimals}f}` with the digits before the point grouped. -/
def fixed (digits : ℕ → List Char) (decimals : ℕ) (q : ℚ) : List Char :=
  let n := (roundHalfEven (|q| * 10 ^ decimals)).toNat
  sign (q < 0) ++ digits (n / 10 ^ decimals) ++
    if decimals = 0 then [] else '.' :: padded decimals (n % 10 ^ decimals)

/-- `.rstrip("0").rstrip(".")`. -/
def trimZeros (l : List Char) : List Char := (l.rdropWhile (· = '0')).rdropWhile (· = '.')

/-! ### Their characters -/

def IsNumberChar (c : Char) : Prop := c.isDigit = true ∨ c ∈ ['-', ',', '.']

def NumberChars (l : List Char) : Prop := ∀ c ∈ l, IsNumberChar c

lemma NumberChars.append {l l' : List Char} (h : NumberChars l) (h' : NumberChars l') :
    NumberChars (l ++ l') := fun c hc => (List.mem_append.1 hc).elim (h c) (h' c)

lemma NumberChars.cons {c : Char} {l : List Char} (hc : IsNumberChar c) (h : NumberChars l) :
    NumberChars (c :: l) := List.forall_mem_cons.2 ⟨hc, h⟩

lemma NumberChars.of_subset {l l' : List Char} (h : NumberChars l) (hsub : l' ⊆ l) :
    NumberChars l' := fun c hc => h c (hsub hc)

lemma numberChars_plainDigits (n : ℕ) : NumberChars (plainDigits n) :=
  fun _ hc => Or.inl (isDigit_of_mem hc)

lemma numberChars_commas {l : List Char} (h : NumberChars l) : NumberChars (commas l) := by
  fun_induction commas l with
  | case1 a b c d rest ih =>
    rw [NumberChars, List.forall_mem_cons, List.forall_mem_cons, List.forall_mem_cons] at h
    obtain ⟨ha, hb, hc, hrest⟩ := h
    exact .cons ha (.cons hb (.cons hc (.cons (Or.inr (by simp)) (ih hrest))))
  | case2 => exact h

lemma numberChars_grouped (n : ℕ) : NumberChars (grouped n) := by
  have hdigits := (numberChars_plainDigits n).of_subset (List.reverse_subset.2 (List.Subset.refl _))
  exact (numberChars_commas hdigits).of_subset (List.reverse_subset.2 (List.Subset.refl _))

lemma numberChars_sign (negative : Bool) : NumberChars (sign negative) := by
  cases negative with
  | true => exact .cons (Or.inr (by simp)) (fun _ h => (nomatch h))
  | false => exact fun _ h => (nomatch h)

lemma numberChars_groupedInt (n : ℤ) : NumberChars (groupedInt n) :=
  (numberChars_sign _).append (numberChars_grouped _)

lemma numberChars_padded (width n : ℕ) : NumberChars (padded width n) := by
  intro c hc
  rw [padded, List.leftpad] at hc
  rcases List.mem_append.1 hc with hc | hc
  · exact Or.inl (by rw [List.eq_of_mem_replicate hc]; rfl)
  · exact numberChars_plainDigits n c hc

lemma numberChars_fixed {digits : ℕ → List Char} (hdigits : ∀ n, NumberChars (digits n))
    (decimals : ℕ) (q : ℚ) : NumberChars (fixed digits decimals q) := by
  rw [fixed]
  refine ((numberChars_sign _).append (hdigits _)).append ?_
  split_ifs
  · exact fun _ h => (nomatch h)
  · exact .cons (Or.inr (by simp)) (numberChars_padded _ _)

lemma numberChars_trimZeros {l : List Char} (h : NumberChars l) : NumberChars (trimZeros l) :=
  h.of_subset (((List.rdropWhile_prefix _ _).trans (List.rdropWhile_prefix _ _)).subset)

lemma numberChars_toString (n : ℤ) : NumberChars (toString n).toList := by
  cases n with
  | ofNat n => exact toList_natCast n ▸ numberChars_plainDigits n
  | negSucc n =>
    rw [toList_negSucc]
    exact .cons (Or.inr (by simp)) (numberChars_plainDigits _)

end SherwoodMonitor.NumberText
