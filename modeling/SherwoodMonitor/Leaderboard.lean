import Mathlib.Data.Prod.Lex
import Mathlib.Data.String.Basic
import SherwoodMonitor.Library.Grouping
import SherwoodMonitor.Library.Ranking
import SherwoodMonitor.Effects

/-! The leaderboard: the receipts that have an idea author gathered by author, ranked by P&L. -/
namespace SherwoodMonitor.Leaderboard
open PyText Models Service Effects Grouping Ranking

structure Row where
  tgId : String
  pnlBps : ℤ := 0
  ideas : ℤ := 0
  wins : ℤ := 0
  deriving DecidableEq

/-- What a receipt whose P&L reads as `pnl` adds to its author's row. -/
def Row.add (r : SettleReceipt) (pnl : ℤ) (row : Row) : Row :=
  { row with
    pnlBps := row.pnlBps + r.pnlBps
    ideas := row.ideas + 1
    wins := row.wins + if 0 < pnl then 1 else 0 }

def addReceipt (rows : List (String × Row)) (r : SettleReceipt) :
    Except Exc (List (String × Row)) :=
  if r.ideaBy = "" then pure rows
  else do
    let pnl ← pyInt r.pnl
    pure (upsert { tgId := r.ideaBy } (Row.add r pnl) r.ideaBy rows)

def sortKey (x : Row) : ℤ ×ₗ ℤ ×ₗ String := toLex (-x.pnlBps, toLex (-x.ideas, x.tgId))

/-- `FundService.leaderboard` on the loaded state. -/
def leaderboard (state : FundState) : Except Exc (List Row) := do
  let rows ← state.receipts.foldlM addReceipt []
  pure (rank sortKey (rows.map (·.2)))

/-- The receipts that count. -/
def authored (receipts : List SettleReceipt) : List SettleReceipt :=
  receipts.filter fun r => r.ideaBy ≠ ""

/-- A receipt that is skipped or whose P&L is the text of an integer. -/
def Reads (r : SettleReceipt) : Prop := r.ideaBy = "" ∨ (int? r.pnl).isSome

def pnlOf (r : SettleReceipt) : ℤ := (int? r.pnl).getD 0

def tally (receipts : List SettleReceipt) : List (String × Row) :=
  group (·.ideaBy) (fun a => { tgId := a }) (fun r => Row.add r (pnlOf r)) (authored receipts)

def rowsOf (receipts : List SettleReceipt) : List Row := (tally receipts).map (·.2)

lemma addReceipt_eq_ok {rows rows' : List (String × Row)} {r : SettleReceipt} :
    addReceipt rows r = .ok rows' ↔
      Reads r ∧ rows' = if r.ideaBy ≠ "" then
        step (·.ideaBy) (fun a => { tgId := a }) (fun r => Row.add r (pnlOf r)) rows r else rows := by
  rw [addReceipt, Reads, pyInt]
  by_cases hauthor : r.ideaBy = ""
  · rw [if_pos hauthor, pure_eq_ok, if_neg (not_not.2 hauthor)]
    exact ⟨fun h => ⟨Or.inl hauthor, h.symm⟩, fun h => h.2.symm⟩
  · rw [if_neg hauthor, if_pos hauthor, bind_eq_ok]
    cases hpnl : int? r.pnl with
    | none => simp [hauthor]
    | some n =>
      simp only [Except.ok.injEq, exists_eq_left', pure_eq_ok, Option.isSome_some, or_true,
        true_and, step, pnlOf, hpnl, Option.getD_some]
      exact eq_comm

lemma foldlM_eq_ok {α β : Type} {f : β → α → Except Exc β} {P : α → Prop} {g : β → α → β}
    (hf : ∀ b a c, f b a = .ok c ↔ P a ∧ c = g b a) (l : List α) (b c : β) :
    l.foldlM f b = .ok c ↔ (∀ a ∈ l, P a) ∧ c = l.foldl g b := by
  induction l generalizing b with
  | nil => simp [pure, Except.pure, eq_comm]
  | cons a l ih =>
    rw [List.foldlM_cons, List.forall_mem_cons, List.foldl_cons]
    cases h : f b a with
    | error e =>
      have hno : ¬P a := fun hp => by simp [(hf b a _).2 ⟨hp, rfl⟩] at h
      simp [bind, Except.bind, hno]
    | ok b' =>
      obtain ⟨hp, rfl⟩ := (hf b a b').1 h
      simp [bind, Except.bind, hp, ih]

/-- The leaderboard is the tally of the authored receipts, ranked. -/
lemma leaderboard_eq_ok {state : FundState} {rows : List Row} :
    leaderboard state = .ok rows ↔
      (∀ r ∈ state.receipts, Reads r) ∧ rows = rank sortKey (rowsOf state.receipts) := by
  have hfold := foldlM_eq_ok (fun rows r rows' => @addReceipt_eq_ok rows rows' r) state.receipts []
  have htally : state.receipts.foldl (fun rows r => if r.ideaBy ≠ "" then
      step (·.ideaBy) (fun a => ({ tgId := a } : Row)) (fun r => Row.add r (pnlOf r)) rows r
      else rows) [] = tally state.receipts := by
    rw [tally, group, authored, List.foldl_filter]
    simp
  rw [htally] at hfold
  rw [leaderboard]
  cases h : state.receipts.foldlM addReceipt [] with
  | error e =>
    have hno : ¬∀ r ∈ state.receipts, Reads r := fun hr => by simp [(hfold _).2 ⟨hr, rfl⟩] at h
    simp [bind, Except.bind, hno]
  | ok table =>
    obtain ⟨hr, rfl⟩ := (hfold table).1 h
    simp only [bind, Except.bind, pure, Except.pure, Except.ok.injEq]
    exact ⟨fun heq => ⟨hr, heq.symm⟩, fun heq => heq.2.symm⟩

/-- What the row of an author holds. -/
def rowOf (receipts : List SettleReceipt) (a : String) : Row :=
  { tgId := a
    pnlBps := ((receipts.filter fun r => r.ideaBy = a).map (·.pnlBps)).sum
    ideas := (receipts.filter fun r => r.ideaBy = a).length
    wins := (receipts.filter fun r => r.ideaBy = a ∧ 0 < pnlOf r).length }

lemma foldl_add (l : List SettleReceipt) (row : Row) :
    l.foldl (fun row r => Row.add r (pnlOf r) row) row =
      { row with
        pnlBps := row.pnlBps + (l.map (·.pnlBps)).sum
        ideas := row.ideas + l.length
        wins := row.wins + (l.filter fun r => 0 < pnlOf r).length } := by
  induction l generalizing row with
  | nil => simp
  | cons r l ih =>
    rw [List.foldl_cons, ih]
    by_cases hwon : 0 < pnlOf r <;> simp [Row.add, hwon] <;> omega

lemma mem_authored {receipts : List SettleReceipt} {r : SettleReceipt} :
    r ∈ authored receipts ↔ r ∈ receipts ∧ r.ideaBy ≠ "" := by
  rw [authored, List.mem_filter, decide_eq_true_eq]

lemma filter_authored {receipts : List SettleReceipt} {a : String} (ha : a ≠ "") :
    (authored receipts).filter (fun r => r.ideaBy = a) = receipts.filter fun r => r.ideaBy = a := by
  rw [authored, List.filter_filter]
  refine List.filter_congr fun r _ => ?_
  by_cases hr : r.ideaBy = a
  · simp [hr, ha]
  · simp [hr]

lemma mem_tally {receipts : List SettleReceipt} {a : String} {row : Row} :
    (a, row) ∈ tally receipts ↔
      (∃ r ∈ authored receipts, r.ideaBy = a) ∧ row = rowOf receipts a := by
  rw [tally, mem_group, foldl_add, rowOf]
  refine and_congr_right ?_
  rintro ⟨r, hr, rfl⟩
  rw [filter_authored (mem_authored.1 hr).2, List.filter_filter]
  simp only [Int.zero_add, Bool.decide_and, Bool.and_comm]

lemma tally_perm {l l' : List SettleReceipt} (h : l.Perm l') : (tally l).Perm (tally l') := by
  refine group_perm ?_ (h.filter _)
  intro a b row
  simp only [Row.add, Row.mk.injEq, true_and]
  omega

lemma mem_rowsOf {receipts : List SettleReceipt} {x : Row} :
    x ∈ rowsOf receipts ↔
      (∃ r ∈ authored receipts, r.ideaBy = x.tgId) ∧ x = rowOf receipts x.tgId := by
  rw [rowsOf, List.mem_map]
  constructor
  · rintro ⟨⟨a, row⟩, hmem, rfl⟩
    obtain ⟨hauthor, rfl⟩ := mem_tally.1 hmem
    exact ⟨hauthor, rfl⟩
  · rintro ⟨hauthor, hx⟩
    exact ⟨(x.tgId, x), mem_tally.2 ⟨hauthor, hx⟩, rfl⟩

lemma tgIds_rowsOf (receipts : List SettleReceipt) :
    (rowsOf receipts).map (·.tgId) = (tally receipts).map (·.1) := by
  rw [rowsOf, List.map_map]
  refine List.map_congr_left fun p hp => ?_
  rw [Function.comp_apply, (mem_tally.1 hp).2, rowOf]

lemma nodup_tgIds (receipts : List SettleReceipt) : ((rowsOf receipts).map (·.tgId)).Nodup := by
  rw [tgIds_rowsOf]
  exact nodup_group

lemma eq_of_tgId {receipts : List SettleReceipt} {x y : Row} (hx : x ∈ rowsOf receipts)
    (hy : y ∈ rowsOf receipts) (h : x.tgId = y.tgId) : x = y := by
  rw [(mem_rowsOf.1 hx).2, (mem_rowsOf.1 hy).2, h]

/-- No two rows tie: the sort key ends in the id. -/
lemma sortKey_inj {receipts : List SettleReceipt} :
    ∀ x ∈ rowsOf receipts, ∀ y ∈ rowsOf receipts, sortKey x = sortKey y → x = y := by
  intro x hx y hy h
  simp only [sortKey, EmbeddingLike.apply_eq_iff_eq, Prod.mk.injEq] at h
  exact eq_of_tgId hx hy h.2.2

lemma sum_rowsOf {v : Row → ℤ} {w : SettleReceipt → ℤ} (receipts : List SettleReceipt)
    (hfresh : ∀ a, v { tgId := a } = 0) (hadd : ∀ r row, v (Row.add r (pnlOf r) row) = v row + w r) :
    ((rowsOf receipts).map v).sum = ((authored receipts).map w).sum := by
  rw [rowsOf, List.map_map]
  exact sum_group hfresh hadd

lemma sum_boole (p : SettleReceipt → Prop) [DecidablePred p] (l : List SettleReceipt) :
    (l.map fun r => if p r then (1 : ℤ) else 0).sum = (l.filter p).length := by
  induction l with
  | nil => rfl
  | cons r l ih =>
    rw [List.map_cons, List.sum_cons, ih]
    by_cases hr : p r <;> simp [hr, add_comm]

/-- The leaderboard does not depend on the order of the receipts, is there when the P&L of every
receipt with an author reads, has exactly one row for each author, and its ideas, wins and P&L add
up to those of all receipts that have an author. -/
theorem leaderboard_laws (state : FundState) :
    (∀ receipts, receipts.Perm state.receipts → ∀ rows,
      leaderboard { state with receipts } = .ok rows ↔ leaderboard state = .ok rows) ∧
    ((∃ rows, leaderboard state = .ok rows) ↔
      ∀ r ∈ authored state.receipts, ∃ n, pyInt r.pnl = .ok n) ∧
    ∀ rows, leaderboard state = .ok rows →
      (rows.map (·.tgId)).Nodup ∧
      (∀ a, a ∈ rows.map (·.tgId) ↔ ∃ r ∈ authored state.receipts, r.ideaBy = a) ∧
      (rows.map (·.ideas)).sum = (authored state.receipts).length ∧
      (rows.map (·.wins)).sum = ((authored state.receipts).filter fun r => 0 < pnlOf r).length ∧
      (rows.map (·.pnlBps)).sum = ((authored state.receipts).map (·.pnlBps)).sum := by
  refine ⟨?_, ?_, ?_⟩
  · intro receipts hperm rows
    have hrank : rank sortKey (rowsOf receipts) = rank sortKey (rowsOf state.receipts) :=
      rank_eq_of_perm sortKey_inj ((tally_perm hperm).map _)
    rw [leaderboard_eq_ok, leaderboard_eq_ok, hrank]
    simp only [hperm.mem_iff]
  · simp only [leaderboard_eq_ok, exists_and_left, exists_eq, and_true, mem_authored, Reads]
    refine forall_congr' fun r => ?_
    rw [pyInt]
    cases int? r.pnl <;> simp
  · intro rows hrows
    obtain ⟨-, rfl⟩ := leaderboard_eq_ok.1 hrows
    have hperm := rank_perm sortKey (rowsOf state.receipts)
    refine ⟨?_, ?_, ?_, ?_, ?_⟩
    · exact (hperm.map _).nodup_iff.2 (nodup_tgIds _)
    · intro a
      rw [(hperm.map _).mem_iff, tgIds_rowsOf, tally, mem_keys_group]
    · rw [(hperm.map _).sum_eq, @sum_rowsOf _ (fun _ => 1) _ (fun _ => rfl) (fun _ _ => rfl)]
      simp
    · rw [(hperm.map _).sum_eq, @sum_rowsOf _ (fun r => if 0 < pnlOf r then 1 else 0) _ (fun _ => rfl)
        (fun _ _ => rfl), sum_boole]
    · rw [(hperm.map _).sum_eq, @sum_rowsOf _ (·.pnlBps) _ (fun _ => rfl) (fun _ _ => rfl)]

/-- A receipt of the fund, with the author and the amounts given. -/
def receiptBy (ideaBy pnl : String) (pnlBps : ℤ) : SettleReceipt :=
  { proposalId := "p-1", agent := "alpha", asset := "USDG", pnl, pnlBps, ideaBy }

def sampleReceipts : List SettleReceipt :=
  [receiptBy "77" "41" 820, receiptBy "" "5" 10, receiptBy "8" "-3" (-60), receiptBy "8" "9" 880]

theorem leaderboard_laws_sample :
    leaderboard { sampleState with receipts := sampleReceipts.reverse } =
      .ok [⟨"8", 820, 2, 1⟩, ⟨"77", 820, 1, 1⟩] :=
  ((leaderboard_laws { sampleState with receipts := sampleReceipts }).1 _ (List.reverse_perm _) _).2
    rfl

end SherwoodMonitor.Leaderboard
