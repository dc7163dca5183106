import Mathlib.Data.Rat.Floor
import Mathlib.Order.Bounds.Basic
import SherwoodMonitor.Library.PyNumber
import SherwoodMonitor.Rules

/-! The integer arithmetic of bonds and vetoes (`fund/rules.py`): rounding up by a negated floor
division and comparing by cross-multiplication meet at the same integers. -/
namespace SherwoodMonitor.BondAndVeto
open PyText PyNumber Models Rules SherwoodMonitor.Units

/-- `ceil(supply * bps / 10000)`. -/
def vetoThresholdShares (totalSupply thresholdBps : ℤ) : ℤ :=
  ceilDiv (totalSupply * thresholdBps) 10000

def isVetoed (againstShares totalSupply thresholdBps : ℤ) : Bool :=
  if totalSupply ≤ 0 then false else totalSupply * thresholdBps ≤ againstShares * 10000

/-- `check_bond_approve` on an amount that is not unlimited. -/
def checkBondValue (value quote : ℤ) (policy : BondPolicy) : Verdict :=
  let ceiling := approveAmountFor quote policy
  if value < quote then
    deny "approve_too_small" ("approval " ++ toString value ++ " is below the bond quote " ++
      toString quote)
  else if ceiling < value then
    deny "approve_too_wide" ("approval " ++ toString value ++ " is above quote + buffer (" ++
      toString ceiling ++ "); re-quote, never widen")
  else allow

def unlimitedApprove : Verdict :=
  deny "unlimited_approve" "the bond approval must be exact: quote + 5%, never unlimited"

/-- `check_bond_approve` on an `int`. -/
def checkBondApprove (amount quote : ℤ) (policy : BondPolicy) : Verdict :=
  if unlimitedThreshold ≤ amount then unlimitedApprove else checkBondValue amount quote policy

/-- `check_bond_approve` on a `str`. -/
def checkBondApproveText (amount : String) (quote : ℤ) (policy : BondPolicy) :
    Except Exc Verdict := do
  if ← isUnlimited amount then return unlimitedApprove
  else
    let value ← pyInt amount
    return checkBondValue value quote policy

/-! ### Rounding up -/

lemma ceilDiv_le_iff {a b n : ℤ} (hb : 0 < b) : ceilDiv a b ≤ n ↔ a ≤ n * b := by
  rw [ceilDiv, neg_le, Int.le_ediv_iff_mul_le hb, neg_mul, neg_le_neg_iff]

lemma isLeast_ceilDiv {a b : ℤ} (hb : 0 < b) : IsLeast {n : ℤ | (a : ℚ) / b ≤ n} (ceilDiv a b) := by
  have hmem : ∀ n : ℤ, (a : ℚ) / b ≤ n ↔ ceilDiv a b ≤ n := by
    intro n
    rw [ceilDiv_le_iff hb, div_le_iff₀ (by exact_mod_cast hb)]
    exact_mod_cast Iff.rfl
  exact ⟨(hmem _).2 le_rfl, fun n hn => (hmem n).1 hn⟩

/-- The approval is the least integer that covers the quote and its buffer. -/
lemma isLeast_approveAmountFor (quote : ℤ) (policy : BondPolicy) :
    IsLeast {n : ℤ | (quote : ℚ) * (1 + policy.approveBufferBps / 10000) ≤ n}
      (approveAmountFor quote policy) := by
  have hquot : (quote : ℚ) * (1 + policy.approveBufferBps / 10000) =
      ((quote * (10000 + policy.approveBufferBps) : ℤ) : ℚ) / (10000 : ℤ) := by
    push_cast
    ring
  rw [hquot]
  exact isLeast_ceilDiv (by decide)

lemma isLeast_gap (quote woodBalance : ℤ) (policy : BondPolicy) :
    IsLeast {gap : ℤ | 0 ≤ gap ∧ approveAmountFor quote policy ≤ woodBalance + gap}
      (planBond quote woodBalance policy).gap := by
  have hgap : (planBond quote woodBalance policy).gap =
      max 0 (approveAmountFor quote policy - woodBalance) := rfl
  rw [hgap]
  constructor
  · have hcovers := le_max_right 0 (approveAmountFor quote policy - woodBalance)
    exact ⟨le_max_left _ _, by linarith⟩
  · rintro gap ⟨hpos, hcovers⟩
    exact max_le hpos (by linarith)

lemma checkBondApprove_ok {amount quote : ℤ} {policy : BondPolicy} :
    (checkBondApprove amount quote policy).ok = true ↔
      quote ≤ amount ∧ amount ≤ approveAmountFor quote policy ∧ amount < 2 ^ 255 := by
  rw [checkBondApprove, unlimitedApprove, denyIf_ok, checkBondValue, denyIf_ok, denyIf_ok,
    unlimitedThreshold, not_le, not_lt, not_lt]
  simp only [allow_ok, and_true]
  tauto

lemma isUnlimited_toString (n : ℤ) :
    isUnlimited (toString n) = .ok (decide (unlimitedThreshold ≤ n)) := by
  have hword : toString n ∉ unlimitedWords := by
    intro hmem
    have hletters : ∀ w ∈ unlimitedWords, ∃ c ∈ w.toList, 65 ≤ c.toNat := by decide
    obtain ⟨c, hc, hletter⟩ := hletters _ hmem
    have hsmall := toNat_of_mem_toString hc
    omega
  have hhex : startsWith (toString n) "0x" = false := by
    rw [Bool.eq_false_iff]
    intro hstarts
    rw [startsWith, List.isPrefixOf_iff_prefix] at hstarts
    exact absurd (toNat_of_mem_toString (hstarts.subset (by decide : 'x' ∈ "0x".toList)))
      (by decide)
  simp only [isUnlimited, strip_toString, lower_toString, if_neg hword, hhex]
  by_cases hn : 0 ≤ n
  · rw [(isDigitText_toString n).2 hn, pyInt, int?_toString]
    rfl
  · have hdigits : isDigitText (toString n) = false := by
      rw [Bool.eq_false_iff, ne_eq, isDigitText_toString]
      exact hn
    have hlow : ¬unlimitedThreshold ≤ n := by
      rw [unlimitedThreshold]
      omega
    rw [hdigits, decide_eq_false hlow]
    rfl

/-- The decimal text of an amount is judged as the amount. -/
lemma checkBondApproveText_toString (amount quote : ℤ) (policy : BondPolicy) :
    checkBondApproveText (toString amount) quote policy =
      .ok (checkBondApprove amount quote policy) := by
  rw [checkBondApproveText, isUnlimited_toString, checkBondApprove, pyInt, int?_toString]
  by_cases hbig : unlimitedThreshold ≤ amount <;>
    simp [hbig, bind, Except.bind, pure, Except.pure]

lemma isVetoed_iff {againstShares totalSupply thresholdBps : ℤ} :
    isVetoed againstShares totalSupply thresholdBps = true ↔
      0 < totalSupply ∧ vetoThresholdShares totalSupply thresholdBps ≤ againstShares := by
  rw [isVetoed, vetoThresholdShares, ceilDiv_le_iff (by decide)]
  split_ifs with h
  · simp [h]
  · simp [not_le.1 h]

/-! ### The boundaries -/

theorem bond_and_veto_exact (quote woodBalance : ℤ) (policy : BondPolicy) :
    IsLeast {n : ℤ | (quote : ℚ) * (1 + policy.approveBufferBps / 10000) ≤ n}
        (approveAmountFor quote policy) ∧
      IsLeast {gap : ℤ | 0 ≤ gap ∧ approveAmountFor quote policy ≤ woodBalance + gap}
        (planBond quote woodBalance policy).gap ∧
      (planBond quote woodBalance policy).approveAmount = approveAmountFor quote policy ∧
      (∀ amount : ℤ, (checkBondApprove amount quote policy).ok = true ↔
        quote ≤ amount ∧ amount ≤ approveAmountFor quote policy ∧ amount < 2 ^ 255) ∧
      (∀ amount : ℤ, checkBondApproveText (toString amount) quote policy =
        .ok (checkBondApprove amount quote policy)) ∧
      ∀ againstShares totalSupply thresholdBps : ℤ,
        isVetoed againstShares totalSupply thresholdBps = true ↔
          0 < totalSupply ∧ vetoThresholdShares totalSupply thresholdBps ≤ againstShares :=
  ⟨isLeast_approveAmountFor quote policy, isLeast_gap quote woodBalance policy, rfl,
    fun _ => checkBondApprove_ok, fun amount => checkBondApproveText_toString amount quote policy,
    fun _ _ _ => isVetoed_iff⟩

end SherwoodMonitor.BondAndVeto
