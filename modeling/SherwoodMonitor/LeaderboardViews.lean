import SherwoodMonitor.Leaderboard
import SherwoodMonitor.Library.PyNumber

/-! The two views of the leaderboard: the slash command lists the first ten rows as the service
ranks them, the Telegram card ranks the rows again, with the author ids as numbers. -/
namespace SherwoodMonitor.LeaderboardViews
open PyText PyNumber Models Service Effects Ranking Leaderboard

variable {state : FundState} {receipts : List SettleReceipt} {a b : String}

/-- The author ids that the reply of `/leaderboard` lists. -/
def slashAuthors (state : FundState) : Except Exc (List String) := do
  let rows ← leaderboard state
  pure ((rows.take 10).map (·.tgId))

structure LeaderRow where
  tgId : ℤ
  pnlBps : ℤ
  ideas : ℤ
  wins : ℤ
  deriving DecidableEq

/-- `_int_or_none` of a text. -/
def intOrNone (value : String) : Option ℤ := if value = "" then none else int? value

/-- `CallbackFundGateway.leaderboard`: a row whose id is no number is skipped. -/
def gatewayRows (rows : List Row) : List LeaderRow :=
  rows.filterMap fun r => (intOrNone r.tgId).map fun tg => ⟨tg, r.pnlBps, r.ideas, r.wins⟩

def cardKey (r : LeaderRow) : ℤ ×ₗ ℤ ×ₗ ℤ := toLex (-r.pnlBps, toLex (-r.ideas, r.tgId))

/-- The rows that `render_leaderboard` lists. -/
def ranked (rows : List LeaderRow) : List LeaderRow := (rank cardKey rows).take 10

/-- The author ids that the leaderboard card lists. -/
def cardAuthors (state : FundState) : Except Exc (List ℤ) := do
  let rows ← leaderboard state
  pure ((ranked (gatewayRows rows)).map (·.tgId))

/-- Both views list the same authors in the same order, or neither has a leaderboard to list. -/
def Agree (state : FundState) : Prop :=
  slashAuthors state = (cardAuthors state).map fun ids => ids.map toString

/-- The idea authors are canonical numeric ids. -/
def Canonical (receipts : List SettleReceipt) : Prop :=
  ∀ r ∈ authored receipts, ∃ n : ℤ, r.ideaBy = toString n

def number (a : String) : ℤ := (int? a).getD 0

def authors (receipts : List SettleReceipt) : List String :=
  ((authored receipts).map (·.ideaBy)).dedup

def Tied (receipts : List SettleReceipt) (a b : String) : Prop :=
  (rowOf receipts a).pnlBps = (rowOf receipts b).pnlBps ∧
    (rowOf receipts a).ideas = (rowOf receipts b).ideas

/-- More P&L, or as much from more ideas, or a tie and the lower id. -/
def Ahead (receipts : List SettleReceipt) (a b : String) : Prop :=
  (rowOf receipts b).pnlBps < (rowOf receipts a).pnlBps ∨
    (rowOf receipts a).pnlBps = (rowOf receipts b).pnlBps ∧
      ((rowOf receipts b).ideas < (rowOf receipts a).ideas ∨
        (rowOf receipts a).ideas = (rowOf receipts b).ideas ∧ number a < number b)

instance : DecidableRel (Ahead receipts) := fun _ _ => by
  unfold Ahead
  infer_instance

/-- Of two tied authors whose ids order differently as texts and as numbers, the one with the lower
number has ten authors ahead of it. -/
def TiesOutside (receipts : List SettleReceipt) : Prop :=
  ∀ a ∈ authors receipts, ∀ b ∈ authors receipts, Tied receipts a b → a < b →
    number b < number a → 10 ≤ ((authors receipts).filter (Ahead receipts · b)).length

/-- The order of the card, on the service's rows. -/
def numberKey (x : Row) : ℤ ×ₗ ℤ ×ₗ ℤ := toLex (-x.pnlBps, toLex (-x.ideas, number x.tgId))

lemma mem_authors : a ∈ authors receipts ↔ ∃ r ∈ authored receipts, r.ideaBy = a := by
  rw [authors, List.mem_dedup, List.mem_map]

lemma nodup_authors : (authors receipts).Nodup := List.nodup_dedup _

@[simp] lemma rowOf_tgId : (rowOf receipts a).tgId = a := rfl

lemma rowsOf_perm (receipts : List SettleReceipt) :
    (rowsOf receipts).Perm ((authors receipts).map (rowOf receipts)) := by
  have hids : ((rowsOf receipts).map (·.tgId)).Perm (authors receipts) := by
    rw [List.perm_ext_iff_of_nodup (nodup_tgIds receipts) nodup_authors]
    intro a
    rw [mem_authors, tgIds_rowsOf, tally, Grouping.mem_keys_group]
  have hrows : (rowsOf receipts).map (fun x => rowOf receipts x.tgId) = rowsOf receipts := by
    conv_rhs => rw [← List.map_id (rowsOf receipts)]
    exact List.map_congr_left fun x hx => (mem_rowsOf.1 hx).2.symm
  have hmap := hids.map (rowOf receipts)
  rw [List.map_map] at hmap
  exact hrows ▸ hmap

lemma number_of_author (hcanon : Canonical receipts) (ha : a ∈ authors receipts) :
    intOrNone a = some (number a) ∧ toString (number a) = a := by
  obtain ⟨r, hr, rfl⟩ := mem_authors.1 ha
  obtain ⟨n, hn⟩ := hcanon r hr
  rw [intOrNone, if_neg (mem_authored.1 hr).2, number, hn, int?_toString]
  exact ⟨rfl, rfl⟩

/-- The two orders can differ only on tied authors. -/
lemma sortKey_lt_and_numberKey_lt :
    sortKey (rowOf receipts a) < sortKey (rowOf receipts b) ∧
        numberKey (rowOf receipts b) < numberKey (rowOf receipts a) ↔
      Tied receipts a b ∧ a < b ∧ number b < number a := by
  simp only [sortKey, numberKey, Prod.Lex.toLex_lt_toLex, Tied, neg_lt_neg_iff, neg_inj, rowOf_tgId]
  constructor
  · rintro ⟨hpnl | ⟨hpnl, hideas | ⟨hideas, hlt⟩⟩, hpnl' | ⟨hpnl', hideas' | ⟨hideas', hlt'⟩⟩⟩
    all_goals first
      | omega
      | exact ⟨⟨hpnl, hideas⟩, hlt, hlt'⟩
  · rintro ⟨⟨hpnl, hideas⟩, hlt, hlt'⟩
    exact ⟨Or.inr ⟨hpnl, Or.inr ⟨hideas, hlt⟩⟩, Or.inr ⟨hpnl.symm, Or.inr ⟨hideas.symm, hlt'⟩⟩⟩

lemma numberKey_lt :
    numberKey (rowOf receipts a) < numberKey (rowOf receipts b) ↔ Ahead receipts a b := by
  simp only [numberKey, Prod.Lex.toLex_lt_toLex, Ahead, neg_lt_neg_iff, neg_inj, rowOf_tgId]

/-- The rows of the authors, as the card ranks them. -/
lemma gatewayRows_map (hcanon : Canonical receipts) {rows : List Row}
    (hrows : ∀ x ∈ rows, x ∈ rowsOf receipts) :
    gatewayRows rows = rows.map fun x => ⟨number x.tgId, x.pnlBps, x.ideas, x.wins⟩ := by
  rw [gatewayRows, ← List.filterMap_eq_map]
  refine List.filterMap_congr fun x hx => ?_
  have hauthor : x.tgId ∈ authors receipts := mem_authors.2 (mem_rowsOf.1 (hrows x hx)).1
  rw [(number_of_author hcanon hauthor).1]
  rfl

lemma ranked_gatewayRows (hcanon : Canonical receipts) :
    (ranked (gatewayRows (rank sortKey (rowsOf receipts)))).map (fun r => toString r.tgId) =
      ((rank numberKey (rank sortKey (rowsOf receipts))).take 10).map (·.tgId) := by
  have hmem : ∀ x ∈ rank sortKey (rowsOf receipts), x ∈ rowsOf receipts := fun x => mem_rank.1
  rw [ranked, gatewayRows_map hcanon hmem, ← map_rank, ← List.map_take, List.map_map]
  refine List.map_congr_left fun x hx => ?_
  have hrow : x ∈ rowsOf receipts := hmem x (mem_rank.1 (List.mem_of_mem_take hx))
  exact (number_of_author hcanon (mem_authors.2 (mem_rowsOf.1 hrow).1)).2

/-- A list of rows is determined by its ids. -/
lemma map_tgId_inj {l l' : List Row} (hl : ∀ x ∈ l, x ∈ rowsOf receipts)
    (hl' : ∀ x ∈ l', x ∈ rowsOf receipts) : l.map (·.tgId) = l'.map (·.tgId) ↔ l = l' := by
  have hback : ∀ rows : List Row, (∀ x ∈ rows, x ∈ rowsOf receipts) →
      (rows.map (·.tgId)).map (rowOf receipts) = rows := by
    intro rows hrows
    rw [List.map_map]
    conv_rhs => rw [← List.map_id rows]
    exact List.map_congr_left fun x hx => (mem_rowsOf.1 (hrows x hx)).2.symm
  constructor
  · intro h
    rw [← hback l hl, ← hback l' hl', h]
  · intro h
    rw [h]

lemma numberKey_inj (hcanon : Canonical receipts) :
    ∀ x ∈ rowsOf receipts, ∀ y ∈ rowsOf receipts, numberKey x = numberKey y → x = y := by
  intro x hx y hy h
  simp only [numberKey, EmbeddingLike.apply_eq_iff_eq, Prod.mk.injEq] at h
  refine eq_of_tgId hx hy ?_
  calc x.tgId = toString (number x.tgId) :=
        (number_of_author hcanon (mem_authors.2 (mem_rowsOf.1 hx).1)).2.symm
    _ = toString (number y.tgId) := by rw [h.2.2]
    _ = y.tgId := (number_of_author hcanon (mem_authors.2 (mem_rowsOf.1 hy).1)).2

lemma take_rank_iff (hcanon : Canonical receipts) :
    (rank sortKey (rowsOf receipts)).take 10 = (rank numberKey (rowsOf receipts)).take 10 ↔
      TiesOutside receipts := by
  have hperm := rowsOf_perm receipts
  have hcount : ∀ b,
      ((rowsOf receipts).filter fun c => numberKey c < numberKey (rowOf receipts b)).length =
        ((authors receipts).filter (Ahead receipts · b)).length := by
    intro b
    rw [(hperm.filter _).length_eq, List.filter_map, List.length_map]
    simp only [Function.comp_def, numberKey_lt]
  rw [take_rank_eq_iff (List.Nodup.of_map _ (nodup_tgIds receipts)) sortKey_inj
    (numberKey_inj hcanon)]
  simp only [hperm.mem_iff, List.forall_mem_map, hcount]
  refine forall₂_congr fun a _ => forall₂_congr fun b _ => ?_
  constructor
  · intro h htied htext hnumber
    have hboth := sortKey_lt_and_numberKey_lt.2 ⟨htied, htext, hnumber⟩
    exact h hboth.1 hboth.2
  · intro h htext hnumber
    obtain ⟨htied, hlt, hlt'⟩ := sortKey_lt_and_numberKey_lt.1 ⟨htext, hnumber⟩
    exact h htied hlt hlt'

/-- Where the idea authors are canonical ids, the two views agree exactly when no two tied authors
whose ids order differently as texts and as numbers reach the first ten places (or the P&L of a
receipt does not read, and there is no leaderboard). -/
theorem agree_iff (state : FundState) (hcanon : Canonical state.receipts) :
    Agree state ↔ ((∀ r ∈ state.receipts, Reads r) → TiesOutside state.receipts) := by
  rw [Agree, slashAuthors, cardAuthors]
  cases h : leaderboard state with
  | error e =>
    have hno : ¬∀ r ∈ state.receipts, Reads r := fun hr => by
      simp [leaderboard_eq_ok.2 ⟨hr, rfl⟩] at h
    simp [bind, Except.bind, Except.map, hno]
  | ok rows =>
    obtain ⟨hreads, rfl⟩ := leaderboard_eq_ok.1 h
    have hcard := ranked_gatewayRows hcanon
    rw [rank_eq_of_perm (fun x hx y hy => numberKey_inj hcanon x (mem_rank.1 hx) y (mem_rank.1 hy))
      (rank_perm sortKey _)] at hcard
    have hview : (ranked (gatewayRows (rank sortKey (rowsOf state.receipts)))).map
        ((toString : ℤ → String) ∘ LeaderRow.tgId) = _ := hcard
    simp only [bind, Except.bind, pure, Except.pure, Except.map, Except.ok.injEq, List.map_map,
      hview]
    rw [map_tgId_inj (fun x hx => mem_rank.1 (List.mem_of_mem_take hx))
      (fun x hx => mem_rank.1 (List.mem_of_mem_take hx)), take_rank_iff hcanon]
    exact ⟨fun h _ => h, fun h => h hreads⟩

/-- One author of two ideas and one of a single idea, with the same P&L. -/
theorem agree_iff_sample : Agree { sampleState with receipts := sampleReceipts } := by
  have hcanon : Canonical sampleReceipts := by
    have hids : ∀ r ∈ authored sampleReceipts, r.ideaBy = toString (number r.ideaBy) := by
      decide +kernel
    exact fun r hr => ⟨_, hids r hr⟩
  refine (agree_iff { sampleState with receipts := sampleReceipts } hcanon).2 fun _ => ?_
  unfold TiesOutside Tied
  decide +kernel

/-- Two authors of one idea each, with the same P&L. -/
def tiedReceipts : List SettleReceipt := [receiptBy "9" "41" 820, receiptBy "10" "41" 820]

/-- The slash command lists 10 before 9, the card 9 before 10. -/
theorem not_agree :
    Canonical tiedReceipts ∧ ¬Agree { sampleState with receipts := tiedReceipts } := by
  have hids : ∀ r ∈ authored tiedReceipts, r.ideaBy = toString (number r.ideaBy) := by
    decide +kernel
  refine ⟨fun r hr => ⟨_, hids r hr⟩, ?_⟩
  unfold Agree
  decide +kernel

end SherwoodMonitor.LeaderboardViews
