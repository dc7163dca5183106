import SherwoodMonitor.Library.Passes
import SherwoodMonitor.Cooldown
import SherwoodMonitor.ProposalIds

/-! A card applied alone, at a clock that stands still. Its rows are a pass of writes, one for each
proposal that a row is about: what the row says, then the status that it moves to. -/
namespace SherwoodMonitor.CardPass
open PyJson Lookup Models FundState Rules Service ChainCard Calls CallRuns Effects AtomicStore
  ProposalIds Cooldown Passes

variable {now : Time} {s s₀ : FundState} {i : ℕ} {p : ProposalRecord} {row : Fields}

/-- A row that a card acts on: the proposal's on-chain id, what the row says about it, and where
the chain's state would move it. -/
structure Step where
  onchain : ℤ
  read : ChainRead
  target : Option Status

/-- The rows that a card acts on, up to the first that does not read. -/
def stepsOf (state : FundState) : List ℤ → List Fields → List Step
  | _, [] => []
  | seen, row :: rows =>
      match rowId row with
      | none => stepsOf state seen rows
      | some onchain =>
          if onchain ∈ seen then stepsOf state seen rows
          else
            match rowRecord state row with
            | none => stepsOf state (onchain :: seen) rows
            | some _ =>
                match rowRead row with
                | .error _ => []
                | .ok read =>
                    ⟨onchain, read, rowTarget row⟩ :: stepsOf state (onchain :: seen) rows

/-- The status that a step moves a record to. -/
def Step.move (st : Step) (p : ProposalRecord) : Option Status :=
  st.target.filter fun t => p.status ≠ t ∧ t ∈ transitions p.status

def Step.tally (st : Step) (now : Time) (p : ProposalRecord) : ProposalRecord :=
  { readRecord p st.read with chainSyncedAt := some now }

def Step.change (st : Step) (now : Time) (p : ProposalRecord) : ProposalRecord :=
  match st.move p with
  | some t => { st.tally now p with status := t, updatedAt := now }
  | none => st.tally now p

def Step.write (now : Time) (st : Step) (ps : List ProposalRecord) : List ProposalRecord :=
  writeFirst (·.onchainId) st.onchain (st.change now) ps

/-- The record that a step is about. -/
def Step.find (st : Step) (ps : List ProposalRecord) : Option ProposalRecord :=
  ps.find? fun p => p.onchainId = some st.onchain

/-- The status that a step moves its proposal to. -/
def Step.moveIn (st : Step) (ps : List ProposalRecord) : Option Status := (st.find ps).bind st.move

/-- Some step of a pass moves a proposal to vetoed. -/
def Vetoes (steps : List Step) (ps : List ProposalRecord) : Prop :=
  ∃ st ∈ steps, st.moveIn ps = some .vetoed

instance (steps : List Step) (ps : List ProposalRecord) : Decidable (Vetoes steps ps) :=
  inferInstanceAs (Decidable (∃ st ∈ steps, st.moveIn ps = some .vetoed))

/-- Some step of a pass moves a proposal. -/
def Moves (steps : List Step) (ps : List ProposalRecord) : Prop :=
  ∃ st ∈ steps, st.moveIn ps ≠ none

/-- The state after a step: its proposal is written, and a veto starts the cooldown. -/
def Step.after (now : Time) (st : Step) (s : FundState) : FundState :=
  { s with
    proposals := st.write now s.proposals
    fund := if st.moveIn s.proposals = some .vetoed then startCooldown s.fund now else s.fund }

-- what a step does to a record

lemma Step.move_eq_some {st : Step} {t : Status} :
    st.move p = some t ↔ st.target = some t ∧ p.status ≠ t ∧ t ∈ transitions p.status := by
  simp [Step.move, Option.filter_eq_some_iff]

@[simp] lemma Step.change_onchainId (st : Step) (p : ProposalRecord) :
    (st.change now p).onchainId = p.onchainId := by
  rw [Step.change]
  cases st.move p <;> rfl

@[simp] lemma Step.change_id (st : Step) (p : ProposalRecord) :
    (st.change now p).id = p.id := by
  rw [Step.change]
  cases st.move p <;> rfl

lemma Step.change_status (st : Step) (p : ProposalRecord) :
    (st.change now p).status = (st.move p).getD p.status := by
  rw [Step.change]
  cases st.move p <;> rfl

lemma Step.move_congr (st : Step) {q : ProposalRecord} (h : q.status = p.status) :
    st.move q = st.move p := by
  simp only [Step.move, h]

/-- A record that a step was applied to does not move again. -/
lemma Step.move_change (st : Step) (p : ProposalRecord) : st.move (st.change now p) = none := by
  cases hmove : st.move p with
  | none =>
    have hstatus : (st.change now p).status = p.status := by rw [Step.change_status, hmove]; rfl
    rw [st.move_congr hstatus, hmove]
  | some t =>
    have hstatus : (st.change now p).status = t := by rw [Step.change_status, hmove]; rfl
    refine Option.eq_none_iff_forall_ne_some.2 fun u hu => ?_
    obtain ⟨hu, hne, -⟩ := Step.move_eq_some.1 hu
    obtain ⟨ht, -, -⟩ := Step.move_eq_some.1 hmove
    exact hne (hstatus.trans (Option.some.inj (ht.symm.trans hu)))

lemma readRecord_readRecord (p : ProposalRecord) (read : ChainRead) :
    readRecord (readRecord p read) read = readRecord p read := by
  obtain ⟨against, voting, review, coverage⟩ := read
  cases against <;> cases voting <;> cases review <;> cases coverage <;> rfl

lemma Step.tally_change (st : Step) (p : ProposalRecord) :
    st.tally now (st.change now p) = st.change now p := by
  have hread := readRecord_readRecord p st.read
  simp only [readRecord, ProposalRecord.mk.injEq, true_and, and_true] at hread
  obtain ⟨hvoting, hagainst, hreview, hcoverage⟩ := hread
  rw [Step.change]
  cases st.move p with
  | none => simp only [Step.tally, readRecord, hvoting, hagainst, hreview, hcoverage]
  | some t => simp only [Step.tally, readRecord, hvoting, hagainst, hreview, hcoverage]

lemma Step.change_change (st : Step) (p : ProposalRecord) :
    st.change now (st.change now p) = st.change now p := by
  conv_lhs => rw [Step.change, st.move_change]
  exact st.tally_change p

-- the steps of a card

lemma Step.write_comm {st st' : Step} (h : st.onchain ≠ st'.onchain) (ps : List ProposalRecord) :
    st.write now (st'.write now ps) = st'.write now (st.write now ps) :=
  writeFirst_comm h st.change_onchainId st'.change_onchainId ps

lemma Step.write_write (st : Step) (ps : List ProposalRecord) :
    st.write now (st.write now ps) = st.write now ps :=
  writeFirst_idem st.change_onchainId st.change_change ps

lemma Step.moveIn_write_ne {st st' : Step} (h : st.onchain ≠ st'.onchain)
    (ps : List ProposalRecord) : st'.moveIn (st.write now ps) = st'.moveIn ps := by
  have hfind : st'.find (st.write now ps) = st'.find ps :=
    find?_writeFirst_ne h st.change_onchainId ps
  rw [Step.moveIn, hfind, Step.moveIn]

/-- A step that was written has nothing left to move. -/
lemma Step.moveIn_write_self (st : Step) (ps : List ProposalRecord) :
    st.moveIn (st.write now ps) = none := by
  have hfind : st.find (st.write now ps) = (st.find ps).map (st.change now) :=
    find?_writeFirst_self st.change_onchainId ps
  rw [Step.moveIn, hfind]
  cases st.find ps with
  | none => rfl
  | some p => exact st.move_change p

lemma rowRecord_isSome (s : FundState) (row : Fields) : (rowRecord s row).isSome =
    (rowId row).any fun n => decide (some n ∈ s.proposals.map (·.onchainId)) := by
  rw [rowRecord]
  cases rowId row with
  | none => rfl
  | some n =>
    rw [Option.bind_some, Option.any_some, Bool.eq_iff_iff]
    simp

/-- The steps look only at which on-chain ids are stored. -/
lemma stepsOf_congr {s s' : FundState}
    (h : s'.proposals.map (·.onchainId) = s.proposals.map (·.onchainId)) (seen : List ℤ)
    (rows : List Fields) : stepsOf s' seen rows = stepsOf s seen rows := by
  induction rows generalizing seen with
  | nil => rfl
  | cons row rows ih =>
    have hsome : (rowRecord s' row).isSome = (rowRecord s row).isSome := by
      rw [rowRecord_isSome, rowRecord_isSome, h]
    rw [stepsOf, stepsOf]
    cases rowId row with
    | none => exact ih seen
    | some n =>
      cases hr : rowRecord s row <;> cases hr' : rowRecord s' row
      · simp only [ih]
      · simp [hr, hr'] at hsome
      · simp [hr, hr'] at hsome
      · simp only [ih]

/-- A card acts on an on-chain id once. -/
lemma stepsOf_distinct (s : FundState) (seen : List ℤ) (rows : List Fields) :
    (stepsOf s seen rows).Pairwise (fun st st' => st.onchain ≠ st'.onchain) ∧
      ∀ st ∈ stepsOf s seen rows, st.onchain ∉ seen := by
  induction rows generalizing seen with
  | nil => exact ⟨List.Pairwise.nil, by simp [stepsOf]⟩
  | cons row rows ih =>
    rw [stepsOf]
    cases rowId row with
    | none => exact ih seen
    | some n =>
      obtain ⟨hpair, hnotin⟩ := ih (n :: seen)
      have hrest : ∀ st ∈ stepsOf s (n :: seen) rows, n ≠ st.onchain ∧ st.onchain ∉ seen := by
        intro st hst
        have hout := hnotin st hst
        rw [List.mem_cons, not_or] at hout
        exact ⟨fun heq => hout.1 heq.symm, hout.2⟩
      by_cases hseen : n ∈ seen
      · simpa [hseen] using ih seen
      · simp only [hseen, if_false]
        cases rowRecord s row with
        | none => exact ⟨hpair, fun st hst => (hrest st hst).2⟩
        | some record =>
          cases rowRead row with
          | error e => exact ⟨List.Pairwise.nil, by simp⟩
          | ok read =>
            refine ⟨List.pairwise_cons.2 ⟨fun st hst => (hrest st hst).1, hpair⟩, ?_⟩
            rintro st hst
            rcases List.mem_cons.1 hst with rfl | hmem
            · exact hseen
            · exact (hrest st hmem).2

-- a pass of steps

/-- The state after a card's steps. -/
def afterSteps (now : Time) (steps : List Step) (s : FundState) : FundState :=
  pass (Step.after now) steps s

lemma startCooldown_of_runsUntil {fund : Fund} (h : RunsUntil (cooldownEnd fund now) fund) :
    startCooldown fund now = fund := by
  obtain ⟨u, hu, hle⟩ := h
  have hold : fund.cooldownUntil = some u := hu
  rw [startCooldown, hold]
  exact if_neg (not_lt.2 hle)

lemma cooldownPeriod_startCooldown (fund : Fund) (now : Time) :
    (startCooldown fund now).cooldownPeriod = fund.cooldownPeriod := by
  rw [startCooldown]
  cases fund.cooldownUntil with
  | none => rfl
  | some old => by_cases hlt : old < cooldownEnd fund now <;> simp only [hlt, if_true, if_false]

lemma cooldownEnd_startCooldown (fund : Fund) (now : Time) :
    cooldownEnd (startCooldown fund now) now = cooldownEnd fund now := by
  rw [cooldownEnd, cooldownPeriod_startCooldown, cooldownEnd]

lemma startCooldown_startCooldown (fund : Fund) (now : Time) :
    startCooldown (startCooldown fund now) now = startCooldown fund now :=
  startCooldown_of_runsUntil (by
    rw [cooldownEnd_startCooldown]
    exact runsUntil_startCooldown fund now)

lemma vetoes_cons {st : Step} {steps : List Step} {ps : List ProposalRecord} :
    Vetoes (st :: steps) ps ↔ st.moveIn ps = some .vetoed ∨ Vetoes steps ps := by
  simp [Vetoes]

lemma moves_cons {st : Step} {steps : List Step} {ps : List ProposalRecord} :
    Moves (st :: steps) ps ↔ st.moveIn ps ≠ none ∨ Moves steps ps := by
  simp [Moves]

lemma vetoes_write {st : Step} {steps : List Step} (h : ∀ st' ∈ steps, st.onchain ≠ st'.onchain)
    (ps : List ProposalRecord) : Vetoes steps (st.write now ps) ↔ Vetoes steps ps :=
  exists_congr fun st' => and_congr_right fun hst' => by rw [Step.moveIn_write_ne (h st' hst')]

lemma moves_write {st : Step} {steps : List Step} (h : ∀ st' ∈ steps, st.onchain ≠ st'.onchain)
    (ps : List ProposalRecord) : Moves steps (st.write now ps) ↔ Moves steps ps :=
  exists_congr fun st' => and_congr_right fun hst' => by rw [Step.moveIn_write_ne (h st' hst')]

/-- The steps write their proposals, and a veto among them starts the cooldown once. -/
lemma afterSteps_eq {steps : List Step}
    (hdis : steps.Pairwise fun st st' => st.onchain ≠ st'.onchain) (s : FundState) :
    afterSteps now steps s = { s with
      proposals := pass (Step.write now) steps s.proposals
      fund := if Vetoes steps s.proposals then startCooldown s.fund now else s.fund } := by
  induction steps generalizing s with
  | nil => simp [afterSteps, Vetoes]
  | cons st steps ih =>
    obtain ⟨hst, hrest⟩ := List.pairwise_cons.1 hdis
    have hveto := @vetoes_write now _ _ hst s.proposals
    have hih := ih hrest (st.after now s)
    rw [afterSteps] at hih
    rw [afterSteps, pass_cons, hih]
    simp only [Step.after, pass_cons, hveto, vetoes_cons]
    by_cases hfirst : st.moveIn s.proposals = some .vetoed
    · by_cases hlater : Vetoes steps s.proposals
      · simp only [hfirst, hlater, if_true, true_or, startCooldown_startCooldown]
      · simp only [hfirst, hlater, if_true, if_false, true_or]
    · simp only [hfirst, if_false, false_or]

/-- After the steps of a card none of them has anything left to write or to move. -/
lemma write_afterSteps {steps : List Step}
    (hdis : steps.Pairwise fun st st' => st.onchain ≠ st'.onchain) (ps : List ProposalRecord)
    {st : Step} (hst : st ∈ steps) :
    st.write now (pass (Step.write now) steps ps) = pass (Step.write now) steps ps :=
  write_pass_self (hdis.imp fun hne ps => Step.write_comm hne ps)
    (fun st _ ps => st.write_write ps) hst ps

lemma not_moves_afterSteps {steps : List Step}
    (hdis : steps.Pairwise fun st st' => st.onchain ≠ st'.onchain) (ps : List ProposalRecord) :
    ¬Moves steps (pass (Step.write now) steps ps) := by
  rintro ⟨st, hst, hmove⟩
  rw [← @write_afterSteps now _ hdis ps _ hst] at hmove
  exact hmove (st.moveIn_write_self _)

lemma moves_of_vetoes {steps : List Step} {ps : List ProposalRecord} (h : Vetoes steps ps) :
    Moves steps ps := by
  obtain ⟨st, hst, hmove⟩ := h
  exact ⟨st, hst, by rw [hmove]; exact Option.some_ne_none _⟩

-- the run of a card

/-- The state without what the store adds to every write. -/
def bare (s : FundState) : FundState := { s with revision := 0, updatedAt := 0 }

@[simp] lemma bare_bump (s : FundState) (stamp : Time) : bare (bump s stamp) = bare s := rfl

lemma bare_afterSteps (steps : List Step) (s : FundState) :
    bare (afterSteps now steps s) = afterSteps now steps (bare s) := by
  induction steps generalizing s with
  | nil => rfl
  | cons st steps ih => exact ih (st.after now s)

def isStatus : FundEvent → Bool
  | .status .. => true
  | _ => false

lemma run_setChainState {pid : String} (read : ChainRead) (clock : Clock)
    (hfind : s.proposal pid = .ok (some (i, p))) :
    ∃ reply events, (runAct (.setChainState pid read) clock).run s =
        ⟨.ok reply, bump (setProposal s i { readRecord p read with chainSyncedAt := some clock.now })
          clock.stamp, events⟩ ∧ events.any isStatus = false := by
  obtain ⟨written, hwritten⟩ :
    ∃ w, w = { readRecord p read with chainSyncedAt := some clock.now } := ⟨_, rfl⟩
  have hset : setChainState pid read clock.now s =
      .ok ((written, decide (readRecord p read ≠ p)), setProposal s i written) := by
    simp only [setChainState, findProposal_ok.2 hfind, hwritten]
    rfl
  rw [← hwritten, run_runAct_of_ok (.setChainState pid read) hset]
  refine ⟨_, _, rfl, ?_⟩
  rw [Act.event?]
  by_cases hchanged : decide (readRecord p read ≠ p) = true
  · rw [if_pos hchanged]
    rfl
  · rw [if_neg hchanged]
    rfl

lemma run_chainStatus {pid : String} (t : Status) (clock : Clock)
    (hfind : s.proposal pid = .ok (some (i, p))) :
    ∃ events, (runChainStatus pid t clock).run s =
        ⟨.ok (), bump { setProposal s i { p with status := t, updatedAt := clock.now } with
          fund := if t = .vetoed then startCooldown s.fund clock.now else s.fund } clock.stamp,
          events⟩ ∧ events.any isStatus = true := by
  have hexec := Op.exec_of_ok ⟨.chainStatus pid t, clock⟩ (chainStatus_of_found t clock.now hfind)
  have hcall := @Prog.run_call_of_ok _ _ FundEvent fundStore _ _ _ _ hexec
  exact ⟨_, Prog.run_bind_of_ok hcall _, rfl⟩

/-- The record that a row is about, in a store whose proposals have the loaded ids. -/
lemma find_of_rowRecord {record : ProposalRecord} {n : ℤ}
    (hkeys : s.proposals.map (fun p => (p.id, p.onchainId)) =
      s₀.proposals.map fun p => (p.id, p.onchainId))
    (hn : rowId row = some n) (hrec : rowRecord s₀ row = some record) :
    ∃ i p, locate (fun p : ProposalRecord => decide (p.onchainId = some n)) s.proposals =
        some (i, p) ∧ p.id = record.id := by
  rw [rowRecord, hn, Option.bind_some, find?_eq_locate, Option.map_eq_some_iff] at hrec
  obtain ⟨⟨i, r⟩, hloc, rfl⟩ := hrec
  have hmap := locate_map (p := fun p : ProposalRecord => decide (p.onchainId = some n))
    (q := fun k : String × Option ℤ => decide (k.2 = some n))
    (fun p : ProposalRecord => (p.id, p.onchainId)) (fun _ => rfl)
  have hboth := hmap s.proposals
  rw [hkeys, hmap s₀.proposals, hloc] at hboth
  obtain ⟨⟨j, p⟩, hp, heq⟩ := Option.map_eq_some_iff.1 hboth.symm
  obtain ⟨rfl, hid, -⟩ : j = i ∧ p.id = r.id ∧ p.onchainId = r.onchainId := by
    simpa using heq
  exact ⟨j, p, hp, hid⟩

/-- A row writes its step. -/
lemma run_applyRow {record : ProposalRecord} {read : ChainRead} {n : ℤ} (hs : IdsIssued s)
    (hloc : locate (fun p : ProposalRecord => decide (p.onchainId = some n)) s.proposals =
      some (i, p)) (hid : p.id = record.id) (hread : rowRead row = .ok read) (t₁ t₂ : Time) :
    ∃ s' events, (applyRow record row ⟨now, t₁⟩ ⟨now, t₂⟩).run s = ⟨.ok (), s', events⟩ ∧
      bare s' = bare (Step.after now ⟨n, read, rowTarget row⟩ s) ∧
      (events.any isStatus = true ↔
        Step.moveIn ⟨n, read, rowTarget row⟩ s.proposals ≠ none) := by
  obtain ⟨st, hst⟩ : ∃ st : Step, st = ⟨n, read, rowTarget row⟩ := ⟨_, rfl⟩
  have hget := locate_getElem? hloc
  have hlt : i < s.proposals.length := (List.getElem?_eq_some_iff.1 hget).1
  have hfind : s.proposal record.id = .ok (some (i, p)) := hid ▸ hs.find hget
  have hmoveIn : st.moveIn s.proposals = st.move p := by
    rw [Step.moveIn, Step.find, hst, find?_eq_locate, hloc]
    rfl
  have hafter : st.after now s = { s with
      proposals := s.proposals.set i (st.change now p)
      fund := if st.move p = some .vetoed then startCooldown s.fund now else s.fund } := by
    rw [Step.after, hmoveIn, Step.write, hst, writeFirst_of_locate hloc]
  obtain ⟨w, hw⟩ : ∃ w, w = st.tally now p := ⟨_, rfl⟩
  have hwstatus : w.status = p.status := by rw [hw]; rfl
  obtain ⟨reply, evs, hrun, hevs⟩ := run_setChainState read ⟨now, t₁⟩ hfind
  obtain ⟨s₁, hs₁⟩ : ∃ s₁, s₁ = bump (setProposal s i w) t₁ := ⟨_, rfl⟩
  have hrun₁ : (runAct (.setChainState record.id read) ⟨now, t₁⟩).run s = ⟨.ok reply, s₁, evs⟩ := by
    rw [hrun, hs₁, hw, hst]
    rfl
  have hget₁ : s₁.proposals[i]? = some w := by
    rw [hs₁]
    exact List.getElem?_set_self hlt
  have hwid : w.id = p.id := by rw [hw]; rfl
  have hps₁ : s₁.proposals = s.proposals.set i w := by rw [hs₁]; rfl
  have hids₁ : IdsIssued s₁ :=
    hs.of_keepsIds (keepsIds_of_set hfind hwid hps₁ (by rw [hs₁]; rfl))
  have hfind₁ : s₁.proposal record.id = .ok (some (i, w)) := by
    rw [← hid, ← hwid]
    exact hids₁.find hget₁
  rw [← hst, hafter, hmoveIn, applyRow, hread, lift, Prog.run_bind_of_ok (Prog.run_pure read s),
    Prog.run_bind_of_ok hrun₁, Prog.run_bind_of_ok (Prog.run_get s₁), hfind₁, lift,
    Prog.run_bind_of_ok (Prog.run_pure _ s₁)]
  have htarget : rowTarget row = st.target := by rw [hst]
  rw [htarget]
  cases ht : st.target with
  | none =>
    have hmove : st.move p = none := by rw [Step.move, ht]; rfl
    have hchange : st.change now p = w := by rw [Step.change, hmove, hw]
    refine ⟨s₁, _, rfl, ?_, ?_⟩
    · rw [hs₁, bare_bump, hmove, hchange]
      rfl
    · simp [hmove, Prog.run_pure, hevs]
  | some t =>
    by_cases hgo : p.status ≠ t ∧ t ∈ transitions p.status
    · have hmove : st.move p = some t := Step.move_eq_some.2 ⟨ht, hgo⟩
      obtain ⟨evs₂, hrun₂, hevs₂⟩ := run_chainStatus t ⟨now, t₂⟩ hfind₁
      have hcond : w.status ≠ t ∧ (checkTransition w.status t).ok = true := by
        rw [hwstatus, checkTransition_ok]
        exact hgo
      simp only [if_pos hcond, hrun₂]
      refine ⟨_, _, rfl, ?_, ?_⟩
      · have hchange : st.change now p = { w with status := t, updatedAt := now } := by
          rw [Step.change, hmove, hw]
        rw [hmove, hchange, hs₁]
        simp [bare, bump, setProposal]
      · simp [hmove, hevs, hevs₂]
    · have hmove : st.move p = none := by
        rw [Step.move, ht]
        simpa using hgo
      have hchange : st.change now p = w := by rw [Step.change, hmove, hw]
      have hcond : ¬(w.status ≠ t ∧ (checkTransition w.status t).ok = true) := by
        rw [hwstatus, checkTransition_ok]
        exact hgo
      simp only [if_neg hcond]
      refine ⟨s₁, _, rfl, ?_, ?_⟩
      · rw [hs₁, bare_bump, hmove, hchange]
        rfl
      · simp [hmove, Prog.run_pure, hevs]

/-- A clock that stands still at `now`, with the store's own readings. -/
def still (now : Time) (stamps : ℕ → Time) : ℕ → Clock := fun k => ⟨now, stamps k⟩

lemma map_write {γ : Type} {v : ProposalRecord → γ} (st : Step)
    (hv : ∀ p, v (st.change now p) = v p) (ps : List ProposalRecord) :
    (st.write now ps).map v = ps.map v := map_writeFirst hv ps

lemma keepsIds_after {st : Step} {s' : FundState} (h : bare s' = bare (st.after now s)) :
    KeepsIds s s' := by
  have hseq := congrArg FundState.nextProposalSeq h
  have hps := congrArg FundState.proposals h
  refine ⟨hseq, ?_⟩
  rw [show s'.proposals = st.write now s.proposals from hps, map_write st st.change_id]

/-- The rows of a card do what its steps do, and emit a status event when one of them moves a
proposal. -/
theorem run_applyRows (stamps : ℕ → Time) (rows : List Fields) (k : ℕ) (seen : List ℤ)
    (hs : IdsIssued s) (hkeys : s.proposals.map (fun p => (p.id, p.onchainId)) =
      s₀.proposals.map fun p => (p.id, p.onchainId)) :
    bare ((applyRows s₀ (still now stamps) k seen rows).run s).store =
        bare (afterSteps now (stepsOf s₀ seen rows) s) ∧
      (((applyRows s₀ (still now stamps) k seen rows).run s).events.any isStatus = true ↔
        Moves (stepsOf s₀ seen rows) s.proposals) := by
  have hnone : ∀ s : FundState, ((pure 0 : FundProg ℕ).run s).events.any isStatus = true ↔
      Moves [] s.proposals := fun s => by simp [Moves, Prog.run_pure]
  induction rows generalizing k seen s with
  | nil => exact ⟨rfl, hnone s⟩
  | cons row rows ih =>
    have hdis := (stepsOf_distinct s₀ seen (row :: rows)).1
    rw [stepsOf] at hdis ⊢
    rw [applyRows]
    cases hn : rowId row with
    | none => exact ih (k + 1) seen hs hkeys
    | some n =>
      simp only [hn] at hdis
      by_cases hseen : n ∈ seen
      · simpa only [hseen, if_true] using ih (k + 1) seen hs hkeys
      · simp only [hseen, if_false] at hdis ⊢
        cases hrec : rowRecord s₀ row with
        | none => exact ih (k + 1) (n :: seen) hs hkeys
        | some record =>
          simp only [hrec] at hdis ⊢
          obtain ⟨i, p, hloc, hid⟩ := find_of_rowRecord hkeys hn hrec
          cases hread : rowRead row with
          | error e =>
            have hrow : ∀ c c', (applyRow record row c c').run s = ⟨.error e, s, []⟩ := by
              intro c c'
              rw [applyRow, hread]
              exact Prog.run_bind_of_error rfl _
            rw [Prog.run_bind_of_error (hrow _ _)]
            exact ⟨rfl, hnone s⟩
          | ok read =>
            simp only [hread] at hdis ⊢
            obtain ⟨hfirst, hrest⟩ := List.pairwise_cons.1 hdis
            obtain ⟨st, hst⟩ : ∃ st : Step, st = ⟨n, read, rowTarget row⟩ := ⟨_, rfl⟩
            obtain ⟨s', evs, hrun, hbare, hevs⟩ := @run_applyRow now _ _ _ _ _ _ _ hs hloc hid hread
              (stamps (2 * k + 1)) (stamps (2 * k + 2))
            rw [← hst] at hbare hevs hfirst ⊢
            have hps : s'.proposals = st.write now s.proposals :=
              congrArg FundState.proposals hbare
            have hkeys' : s'.proposals.map (fun p => (p.id, p.onchainId)) =
                s₀.proposals.map fun p => (p.id, p.onchainId) := by
              rw [hps, map_write st (fun p => by simp), hkeys]
            obtain ⟨hstore, hmoves⟩ := ih (k + 1) (n :: seen)
              (hs.of_keepsIds (keepsIds_after hbare)) hkeys'
            obtain ⟨hsame, hsame'⟩ := Prog.run_bind_pure
              (applyRows s₀ (still now stamps) (k + 1) (n :: seen) rows) (· + 1) s'
            simp only [still] at hsame hsame' hstore hmoves ⊢
            rw [Prog.run_bind_of_ok hrun]
            constructor
            · rw [hsame, hstore, bare_afterSteps, hbare, ← bare_afterSteps]
              rfl
            · rw [hsame', List.any_append, Bool.or_eq_true, hevs, hmoves, hps,
                moves_write hfirst, moves_cons]

end SherwoodMonitor.CardPass
