import SherwoodMonitor.StatusMoves

/-! The cooldown after a veto or a settlement. Three writes start one, each with a maximum, and the
five operations that lead to a new proposal wait for its end. Only a card that carries the chain's
own value overwrites it. -/
namespace SherwoodMonitor.Cooldown
open Models FundState Rules Service ChainCard Calls Effects AtomicStore StatusMoves

variable {now : Time} {s s' : FundState}

/-- The cooldown runs at least until `till`. -/
def RunsUntil (till : Time) (fund : Fund) : Prop := ∃ u ∈ fund.cooldownUntil, till ≤ u

/-- The cooldown of the second state ends no earlier. -/
def Extends (s s' : FundState) : Prop := ∀ till, RunsUntil till s.fund → RunsUntil till s'.fund

lemma Extends.of_fund (h : s'.fund = s.fund) : Extends s s' := fun _ hs => h ▸ hs

lemma runsUntil_startCooldown (fund : Fund) (now : Time) :
    RunsUntil (cooldownEnd fund now) (startCooldown fund now) := by
  rw [startCooldown]
  cases hold : fund.cooldownUntil with
  | none => exact ⟨_, rfl, le_refl _⟩
  | some old =>
    by_cases hlt : old < cooldownEnd fund now
    · simp only [if_pos hlt]
      exact ⟨_, rfl, le_refl _⟩
    · simp only [if_neg hlt]
      exact ⟨old, hold, not_lt.1 hlt⟩

/-- A started cooldown is no earlier than the one before it. -/
lemma RunsUntil.startCooldown {till : Time} {fund : Fund} (h : RunsUntil till fund) (now : Time) :
    RunsUntil till (Service.startCooldown fund now) := by
  obtain ⟨old, hold, hle⟩ := h
  have hfund : fund.cooldownUntil = some old := hold
  rw [Service.startCooldown, hfund]
  by_cases hlt : old < cooldownEnd fund now
  · simp only [if_pos hlt]
    exact ⟨_, rfl, hle.trans hlt.le⟩
  · simp only [if_neg hlt]
    exact ⟨old, hold, hle⟩

/-- The update does not carry the chain's cooldown. -/
def GateSilent (op : Op) : Prop :=
  ∀ card, op.update = .cardFund card → PyJson.Json.hasKey "cooldownUntil" card.gate = false

/-- An update that does not carry the chain's cooldown shortens none. -/
lemma extends_exec {op : Op} {reply : op.update.Reply} (hsilent : GateSilent op)
    (h : op.exec s = .ok (reply, s')) : Extends s s' := by
  intro till hs
  obtain ⟨mid, hm, rfl⟩ := Op.exec_ok h
  obtain ⟨update, clock⟩ := op
  have hbump : RunsUntil till mid.fund → RunsUntil till (bump mid clock.stamp).fund := id
  apply hbump
  cases update with
  | act a =>
    rcases (actFrame hm).fund with hfund | hfund
    · rw [hfund]
      exact hs
    · rw [hfund]
      exact hs.startCooldown _
  | cardFund card =>
    obtain ⟨period, veto, u, -, -, hgate, rfl⟩ := cardFund_ok hm
    have hkey : PyJson.Json.hasKey "cooldownUntil" card.gate = false := hsilent card rfl
    simp only [gateCooldown, hkey, Bool.false_eq_true, if_false, Except.ok.injEq] at hgate
    rw [← hgate]
    exact hs
  | chainStatus pid status =>
    obtain ⟨j, old, -, -, rfl⟩ := chainStatus_ok hm
    by_cases hveto : status = .vetoed
    · simp only [hveto, if_true]
      exact hs.startCooldown _
    · simp only [hveto, if_false]
      exact hs

lemma runsUntil_runOps {till : Time} {ops : List Op} (hsilent : ∀ op ∈ ops, GateSilent op)
    (hs : RunsUntil till s.fund) : RunsUntil till (fundStore.runOps ops s).fund := by
  have hstep : ∀ op, GateSilent op → ∀ s reply s', RunsUntil till s.fund →
      op.exec s = .ok (reply, s') → RunsUntil till s'.fund :=
    fun op hop s reply s' hs h => extends_exec hop h till hs
  exact @Interface.runOps_preserves _ _ fundStore GateSilent (fun s => RunsUntil till s.fund)
    hstep ops hsilent s hs

/-- A proposal enters vetoed, or a settlement is recorded. -/
def StartsCooldown (s : FundState) (op : Op) : Prop :=
  (∃ i, statusAt s i ≠ some .vetoed ∧ statusAt (fundStore.next op s) i = some .vetoed) ∨
    ∃ actor pid d clock reply s', op = ⟨.act (.recordSettle actor pid d), clock⟩ ∧
      recordSettle actor pid d clock.now s = .ok (reply, s')

/-- A proposal that enters vetoed starts a cooldown. -/
lemma runsUntil_of_vetoed {op : Op} {reply : op.update.Reply} {i : ℕ}
    (h : op.exec s = .ok (reply, s')) (hs : statusAt s i ≠ some .vetoed)
    (hs' : statusAt s' i = some .vetoed) :
    RunsUntil (cooldownEnd s.fund op.clock.now) s'.fund := by
  obtain ⟨r', hr', hveto⟩ := statusAt_eq_some.1 hs'
  obtain ⟨mid, hm, rfl⟩ := Op.exec_ok h
  obtain ⟨update, clock⟩ := op
  change RunsUntil _ mid.fund
  cases hr : s.proposals[i]? with
  | none =>
    have hdraft := status_of_new hm hr hr'
    rw [hveto] at hdraft
    exact absurd hdraft (by decide)
  | some r =>
    have hne : r.status ≠ .vetoed := fun heq => hs (statusAt_eq_some.2 ⟨r, hr, heq⟩)
    obtain ⟨r'', hr'', -, hmove⟩ := movedBy_mutate hm hr
    obtain rfl : r' = r'' := Option.some.inj (hr'.symm.trans hr'')
    generalize r'.status = new at hmove hveto
    cases hmove with
    | kept => exact absurd hveto hne
    | set actor pid status note =>
      obtain ⟨j, old, -, -, -, -, -, rfl⟩ := setProposalStatus_ok hm
      simp only [hveto, if_true]
      exact runsUntil_startCooldown _ _
    | settled => exact absurd hveto (by decide)
    | cancelled => exact absurd hveto (by decide)
    | chain pid =>
      obtain ⟨j, old, -, -, rfl⟩ := chainStatus_ok hm
      simp only [hveto, if_true]
      exact runsUntil_startCooldown _ _

lemma runsUntil_of_starts {op : Op} (h : StartsCooldown s op) :
    RunsUntil (cooldownEnd s.fund op.clock.now) (fundStore.next op s).fund := by
  rcases h with ⟨i, hs, hs'⟩ | ⟨actor, pid, d, clock, reply, s', rfl, hsettle⟩
  · rcases fundStore.next_cases op s with hnext | ⟨reply, hexec⟩
    · rw [hnext] at hs'
      exact absurd hs' hs
    · exact runsUntil_of_vetoed hexec hs hs'
  · have hexec := Op.exec_of_ok ⟨.act (.recordSettle actor pid d), clock⟩ hsettle
    rw [Interface.next_of_ok hexec]
    obtain ⟨j, old, -, -, -, -, -, rfl⟩ := recordSettle_ok hsettle
    exact runsUntil_startCooldown _ _

-- the operations behind the gate

/-- The operations that lead to a new proposal: a claim, a requested draft, a draft, its go-ahead,
and the step from draft to proposed. A chain read writes none of these statuses. -/
inductive Proposes (s s' : FundState) : Update → Prop
  | claim (agent topic : String) : Proposes s s' (.act (.claimTopic agent topic))
  | request (agent topic : String) (from_ : Pitch) :
      Proposes s s' (.act (.requestDraft agent topic from_))
  | draft (agent : String) (d : Draft) : Proposes s s' (.act (.draftProposal agent d))
  | ship (pid : String) (caller : Option String) : Proposes s s' (.act (.shipDraft pid caller))
  | propose (a : Act) (i : ℕ) : statusAt s i = some .draft → statusAt s' i = some .proposed →
      Proposes s s' (.act a)

/-- A passed check of the cooldown comes after its end. -/
lemma RunsUntil.le_of_check {till : Time} (h : RunsUntil till s.fund)
    (hcheck : (checkCooldown s now).ok = true) : till ≤ now := by
  obtain ⟨u, hu, hle⟩ := h
  exact hle.trans (checkCooldown_ok.1 hcheck u hu)

lemma checkCooldown_of_gates {agent : String}
    (h : (checkProposerGates s agent now).ok = true) : (checkCooldown s now).ok = true := by
  rw [checkProposerGates, firstFailure_ok] at h
  exact h _ (by simp)

lemma checkCooldown_of_propose {a : Act} {reply : a.Reply} {i : ℕ}
    (h : a.mutate now s = .ok (reply, s')) (hs : statusAt s i = some .draft)
    (hs' : statusAt s' i = some .proposed) : (checkCooldown s now).ok = true := by
  obtain ⟨r, hr, hdraft⟩ := statusAt_eq_some.1 hs
  obtain ⟨r', hr', hproposed⟩ := statusAt_eq_some.1 hs'
  obtain ⟨r'', hr'', -, hmove⟩ := movedBy_act h hr
  obtain rfl : r' = r'' := Option.some.inj (hr'.symm.trans hr'')
  generalize r'.status = new at hmove hproposed
  cases hmove with
  | kept =>
    rw [hdraft] at hproposed
    exact absurd hproposed (by decide)
  | set actor pid status note hfind =>
    obtain ⟨j, old, hfind', -, -, hcool, -, -⟩ := setProposalStatus_ok h
    obtain ⟨rfl, rfl⟩ : i = j ∧ r = old := by simpa [hfind] using hfind'
    exact hcool hdraft hproposed
  | settled => exact absurd hproposed (by decide)
  | cancelled => exact absurd hproposed (by decide)

/-- Each of them checks the cooldown. -/
lemma checkCooldown_of_proposes {u : Update} {reply : u.Reply} {stamp : Time}
    (h : u.mutate now s = .ok (reply, s')) (hpropose : Proposes s (bump s' stamp) u) :
    (checkCooldown s now).ok = true := by
  cases hpropose with
  | claim agent topic =>
    obtain ⟨hcheck, -⟩ := claimTopic_ok h
    exact checkCooldown_of_gates (checkClaim_ok.1 hcheck).1
  | request agent topic from_ =>
    obtain ⟨hcheck, -⟩ := requestDraft_ok h
    exact checkCooldown_of_gates (checkClaim_ok.1 hcheck).1
  | draft agent d =>
    obtain ⟨v, hv, hok, -⟩ := draftProposal_ok h
    exact checkCooldown_of_gates (checkDraft_ok hv hok).1
  | ship pid caller => exact (shipDraft_ok h).2.1
  | propose a i hs hs' => exact checkCooldown_of_propose h hs hs'

def vetoOp : Op := ⟨.act (.setProposalStatus "Iris" "p-1" "vetoed" {}), ⟨2000, 2000⟩⟩

def releaseOp : Op := ⟨.act (.releaseClaim "Iris" none), ⟨2010, 2010⟩⟩

end SherwoodMonitor.Cooldown
