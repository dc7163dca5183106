import SherwoodMonitor.Tools
import SherwoodMonitor.OpenSlots

/-! The guard that Hermes asks before a draft (`fund/guard.py`), and the handler it guards. Both
read the same arguments; the guard checks the rules on the state as it is stored, the service on
the state without its expired claims. -/
namespace SherwoodMonitor.DraftGuard
open PyText PyJson Lookup Models FundState Rules Service Calls Effects AtomicStore FundWrites
  FundDisk Authz Tools

variable (rt : Runtime) (args : Args) {disk : Disk} {now : Time} {s : FundState}

/-- `GUARD_ERRORS`: with these the guard cannot verify the draft, and blocks it. -/
def guardErrors : List ErrKind :=
  [.fundNotFound, .fundExists, .store, .service, .units, .value, .type]

/-- The rules on the stored state, from the raw arguments. -/
def guardVerdict (disk : Disk) (now : Time) : Except Exc Verdict := do
  let name ← rt.fundFor (Json.lookup "fund" args) disk
  let state ← disk.load name
  let d ← parseDraftArgs args state
  let agent ← rt.agentName
  checkDraft state agent d.topic d.maxCapital d.maxDrawdownBps d.legs now

/-- `guard("fund_draft_proposal", args)`: `none` lets the call through. An error that is not one of
`GUARD_ERRORS` is raised on. -/
def guardDraft (disk : Disk) (now : Time) : Except Exc (Option String) :=
  match guardVerdict rt args disk now with
  | .ok v =>
      if v.ok then .ok none
      else .ok (some ("fund draft blocked (" ++ v.code ++ "): " ++ v.reason))
  | .error (.raised kind text) =>
      if kind ∈ guardErrors then
        .ok (some ("fund draft blocked: cannot verify it against fund state (" ++ text ++ ")"))
      else .error (.raised kind text)
  | .error e => .error e

def LetsThrough (disk : Disk) (now : Time) : Prop := guardDraft rt args disk now = .ok none

variable {rt args}

lemma letsThrough_iff :
    LetsThrough rt args disk now ↔ ∃ v, guardVerdict rt args disk now = .ok v ∧ v.ok = true := by
  rw [LetsThrough, guardDraft]
  rcases guardVerdict rt args disk now with e | v
  · cases e with
    | rule code reason => simp
    | raised kind text => by_cases hkind : kind ∈ guardErrors <;> simp [hkind]
  · cases hv : v.ok <;> simp [hv]

--- the two states that are checked

lemma claimOf_prune (s : FundState) (agent : String) (now : Time) :
    (claimOf (prune s now) agent now).map (·.2) = (claimOf s agent now).map (·.2) := by
  rw [claimOf, claimOf, ← find?_eq_locate, ← find?_eq_locate, prune, activeClaims,
    List.find?_filter]
  congr 1
  funext c
  by_cases hlive : now < c.expiresAt <;> simp [hlive]

/-- Dropping the expired claims changes no verdict. -/
lemma checkDraft_prune (s : FundState) (agent topic : String) (maxCapital maxDrawdownBps : ℤ)
    (legs : List Leg) (now : Time) :
    checkDraft (prune s now) agent topic maxCapital maxDrawdownBps legs now =
      checkDraft s agent topic maxCapital maxDrawdownBps legs now := by
  have hclaim := claimOf_prune s agent now
  have hgates : checkProposerGates (prune s now) agent now = checkProposerGates s agent now := rfl
  have hmine : openProposalsOf (prune s now) agent = openProposalsOf s agent := rfl
  have hopen : (prune s now).openProposals = s.openProposals := rfl
  have henv : checkEnvelope (prune s now) maxCapital maxDrawdownBps =
      checkEnvelope s maxCapital maxDrawdownBps := rfl
  have hname : (prune s now).fund = s.fund := rfl
  rw [checkDraft, checkDraft, hgates, hmine, hopen, henv, hname]
  rcases hpruned : claimOf (prune s now) agent now with _ | ⟨i, c⟩ <;>
    rcases hstored : claimOf s agent now with _ | ⟨j, c'⟩ <;>
    simp only [hpruned, hstored, Option.map_none, Option.map_some, Option.some.injEq,
      reduceCtorEq] at hclaim ⊢
  rw [hclaim]

--- the service

/-- A draft with a thesis is recorded exactly when every rule lets it pass. -/
lemma draftProposal_succeeds {agent : String} {d : Draft} (hthesis : strip d.thesis ≠ "") :
    (∃ r s', draftProposal agent d now s = .ok (r, s')) ↔
      ∃ v, checkDraft s agent d.topic d.maxCapital d.maxDrawdownBps d.legs now = .ok v ∧
        v.ok = true := by
  rw [← checkDraft_prune]
  constructor
  · rintro ⟨r, s', h⟩
    obtain ⟨v, hv, hok, -⟩ := draftProposal_ok h
    exact ⟨v, hv, hok⟩
  · rintro ⟨v, hv, hok⟩
    obtain ⟨hgates, -⟩ := checkDraft_ok hv hok
    rw [checkProposerGates, firstFailure_ok] at hgates
    obtain ⟨i, a, ha, -⟩ := checkAgentCanAct_ok.1 (hgates _ List.mem_cons_self)
    have hagent : agentNamed (prune s now) agent = .ok a := agentNamed_ok.2 ⟨i, ha⟩
    simp only [draftProposal, refuseIf, hthesis, if_false, hv, require, hok, if_true, hagent, bind,
      Except.bind]
    exact ⟨_, _, rfl⟩

--- the handler

variable {clock : ℕ → Clock}

def Recorded (out : Outcome Disk Exc ToolEvent ToolReply) : Prop :=
  ∃ result, out.result = .ok (.draft result)

def RefusedByRule (out : Outcome Disk Exc ToolEvent ToolReply) : Prop :=
  ∃ code reason, out.result = .error (.rule code reason)

/-- The arguments read as a draft on a fund that exists, by an agent that has a name. -/
def Parses (rt : Runtime) (args : Args) (disk : Disk) : Prop :=
  ∃ plan, draftPlan rt args disk = .ok plan

lemma draftPlan_ok {name agent : String} {d : Draft} :
    draftPlan rt args disk = .ok (name, agent, d) ↔
      rt.fundFor (Json.lookup "fund" args) disk = .ok name ∧
        ∃ state, disk.find name = some state ∧ parseDraftArgs args state = .ok d ∧
          rt.agentName = .ok agent := by
  simp only [draftPlan, bind_eq_ok, pure_eq_ok, load_eq_ok, Prod.mk.injEq]
  constructor
  · rintro ⟨name, hname, state, hstate, d, hd, agent, hagent, rfl, rfl, rfl⟩
    exact ⟨hname, state, hstate, hd, hagent⟩
  · rintro ⟨hname, state, hstate, hd, hagent⟩
    exact ⟨name, hname, state, hstate, d, hd, agent, hagent, rfl, rfl, rfl⟩

lemma thesis_of_parse {d : Draft} (h : parseDraftArgs args s = .ok d) :
    d.thesis = argText args "thesis" := by
  simp only [parseDraftArgs, bind_eq_ok, pure_eq_ok] at h
  obtain ⟨-, -, -, -, -, -, -, -, -, -, -, -, rfl⟩ := h
  rfl

lemma guardVerdict_of_plan {name agent : String} {d : Draft} {state : FundState}
    (hplan : draftPlan rt args disk = .ok (name, agent, d)) (hstate : disk.find name = some state) :
    guardVerdict rt args disk now =
      checkDraft state agent d.topic d.maxCapital d.maxDrawdownBps d.legs now := by
  obtain ⟨hname, state', hstate', hd, hagent⟩ := draftPlan_ok.1 hplan
  obtain rfl : state = state' := Option.some.inj (hstate.symm.trans hstate')
  simp only [guardVerdict, hname, load_eq_ok.2 hstate, hd, hagent, bind, Except.bind]

lemma parses_of_guardVerdict {v : Verdict} (h : guardVerdict rt args disk now = .ok v) :
    Parses rt args disk := by
  simp only [guardVerdict, bind_eq_ok, load_eq_ok] at h
  obtain ⟨name, hname, state, hstate, d, hd, agent, hagent, -⟩ := h
  exact ⟨(name, agent, d), draftPlan_ok.2 ⟨hname, state, hstate, hd, hagent⟩⟩

lemma run_of_not_parses (h : ¬Parses rt args disk) :
    ∃ e, draftPlan rt args disk = .error e ∧
      (fundDraftProposal rt args clock).run disk = ⟨.error e, disk, []⟩ := by
  cases hplan : draftPlan rt args disk with
  | ok plan => exact absurd ⟨plan, hplan⟩ h
  | error e =>
    refine ⟨e, rfl, ?_⟩
    rw [fundDraftProposal, run_get_bind, hplan]
    exact run_check_error_bind e _ disk

/-- What the handler does with arguments that parse. -/
lemma run_of_plan {name agent : String} {d : Draft} {state : FundState}
    (hplan : draftPlan rt args disk = .ok (name, agent, d)) (hstate : disk.find name = some state) :
    (∃ r mid, draftProposal agent d (clock 0).now state = .ok (r, mid) ∧
        ((fundDraftProposal rt args clock).run disk).result = .ok (.draft r)) ∨
      ∃ e, draftProposal agent d (clock 0).now state = .error e ∧
        ((fundDraftProposal rt args clock).run disk).result = .error e := by
  rw [fundDraftProposal, run_get_bind, hplan, check_ok_bind]
  cases hdraft : draftProposal agent d (clock 0).now state with
  | ok r =>
    have hrun := run_runFundAct_of_ok (a := .draftProposal agent d) (clock 0) hstate hdraft
    refine Or.inl ⟨r.1, r.2, rfl, ?_⟩
    rw [Prog.run_bind_of_ok hrun]
    rfl
  | error e =>
    have hrun := run_runFundAct_of_error (a := .draftProposal agent d) (clock 0) hstate hdraft
    exact Or.inr ⟨e, rfl, by rw [Prog.run_bind_of_error hrun]⟩

/-- A draft that the rules were checked for, and that was not recorded, was refused by a rule. -/
lemma refused_of_verdict {agent : String} {d : Draft} {v : Verdict} {e : Exc}
    (hv : checkDraft s agent d.topic d.maxCapital d.maxDrawdownBps d.legs now = .ok v)
    (h : draftProposal agent d now s = .error e) : ∃ code reason, e = .rule code reason := by
  by_cases hthesis : strip d.thesis = ""
  · simp only [draftProposal, refuseIf, violation, hthesis, if_true, bind, Except.bind,
      Except.error.injEq] at h
    exact ⟨_, _, h.symm⟩
  · cases hok : v.ok with
    | true =>
      obtain ⟨r, s', hdraft⟩ := (draftProposal_succeeds hthesis).2 ⟨v, hv, hok⟩
      rw [hdraft] at h
      cases h
    | false =>
      simp only [draftProposal, refuseIf, hthesis, if_false, checkDraft_prune, hv, require, hok,
        Bool.false_eq_true, bind, Except.bind, Except.error.injEq] at h
      exact ⟨_, _, h.symm⟩

def sampleRuntime : Runtime := { settings := { agentName := "Iris", defaultFund := "alpha" } }

def claimedDisk : Disk :=
  [("alpha", fundStore.next ⟨.act (.claimTopic "Iris" "TSLA momentum"), ⟨1010, 1010⟩⟩ sampleState)]

/-- The arguments of a draft with one approval leg of the given amount. -/
def approvalDraft (amount : String) : Args :=
  [("topic", .str "TSLA momentum"), ("thesis", .str "earnings"),
    ("legs", .arr [.obj [("summary", .str "approve USDG"), ("kind", .str "approve"),
      ("amount", .str amount)]]),
    ("max_capital", .str "500"), ("max_drawdown_bps", .int 1000)]

end SherwoodMonitor.DraftGuard
