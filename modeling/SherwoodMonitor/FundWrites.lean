import SherwoodMonitor.Cooldown
import SherwoodMonitor.ProposalIds

/-! All writes to a fund that exists: the updates of the service, the update of `fund_setup`
(`fund/tools.py`) and the operator's `fund_bind` (`cli.py`). -/
namespace SherwoodMonitor.FundWrites
open PyText Models FundState Rules Service Calls Effects AtomicStore SherwoodMonitor.Units

/-- `Fund.asset_decimals`. -/
def assetDecimals (asset : String) : ℕ :=
  if upper asset = "USDG" then 6 else if upper asset = "WETH" then 18 else 18

/-- `if …: raise UnitsError(…)` and the like. -/
def raiseIf (raised : Prop) [Decidable raised] (kind : ErrKind) (text : String) :
    Except Exc Unit :=
  if raised then .error (.raised kind text) else .ok ()

@[simp] lemma raiseIf_eq_ok {raised : Prop} [Decidable raised] {kind : ErrKind} {text : String}
    {u : Unit} : raiseIf raised kind text = .ok u ↔ ¬raised := by
  by_cases h : raised <;> simp [raiseIf, h]

/-- The arguments of `fund_setup` as it reads them; `none` and "" where one is not given. -/
structure Setup where
  agent : String
  vault : Option String := none
  governor : Option String := none
  telegramChatId : Option String := none
  hostTelegramId : Option String := none
  asset : String := ""
  maxCapital : Option String := none
  maxDrawdownBps : Option ℤ := none
  votingPeriod : Option ℤ := none
  agentFeeBps : Option ℤ := none
  hostAddress : String := ""

/-- A field of `LOCKED_FUND_FIELDS` that is set takes no other value. -/
def checkLocked (key : String) (wanted : Option String) (current : String) : Except Exc Unit :=
  match wanted with
  | none => .ok ()
  | some value => refuseIf (current ≠ "" ∧ lower value ≠ lower current) "locked"
      (key ++ " is already set (" ++ current ++ "); it cannot be changed from here. " ++
        "If it must change, ask the operator to rebind the fund.")

/-- `limits_for`: the ceiling in base units of the fund's own asset. -/
def limitsFor (setup : Setup) (asset : String) : Except Exc (Option String) :=
  match setup.maxCapital with
  | none => .ok none
  | some raw => do
      let n ← toBaseUnits raw (assetDecimals asset)
      return some (toString n)

/-- The fund with the values that `fund_setup` was given. -/
def withSetup (fund : Fund) (setup : Setup) (maxCapital : Option String) : Fund :=
  { fund with
    vault := setup.vault.getD fund.vault
    governor := setup.governor.getD fund.governor
    telegramChatId := setup.telegramChatId.getD fund.telegramChatId
    hostTelegramId := setup.hostTelegramId.getD fund.hostTelegramId
    maxDrawdownBps := setup.maxDrawdownBps.or fund.maxDrawdownBps
    votingPeriod := setup.votingPeriod.getD fund.votingPeriod
    agentFeeBps := setup.agentFeeBps.or fund.agentFeeBps
    maxCapital := maxCapital.or fund.maxCapital
    host := if setup.hostAddress ≠ "" ∧ fund.host = "" then setup.hostAddress else fund.host }

/-- The update of `fund_setup` on a fund that exists. -/
def setupFund (setup : Setup) (state : FundState) : Except Exc (Fund × FundState) := do
  require (checkHostAction state setup.agent)
  raiseIf (setup.asset ≠ "" ∧ setup.asset ≠ state.fund.asset) .units
    ("the fund asset is fixed once the fund exists (" ++ state.fund.asset ++ ")")
  checkLocked "vault" setup.vault state.fund.vault
  checkLocked "governor" setup.governor state.fund.governor
  checkLocked "telegram_chat_id" setup.telegramChatId state.fund.telegramChatId
  checkLocked "host_telegram_id" setup.hostTelegramId state.fund.hostTelegramId
  let maxCapital ← limitsFor setup state.fund.asset
  let fund := withSetup state.fund setup maxCapital
  return (fund, { state with fund })

/-- The values that the operator passes to `fund_bind`. -/
structure Bind where
  vault : Option String := none
  governor : Option String := none
  telegramChatId : Option String := none
  hostTelegramId : Option String := none

/-- `fund_bind` in the operator's own shell: it overwrites. -/
def bindFund (values : Bind) (state : FundState) : Unit × FundState :=
  ((), { state with fund := { state.fund with
    vault := values.vault.getD state.fund.vault
    governor := values.governor.getD state.fund.governor
    telegramChatId := values.telegramChatId.getD state.fund.telegramChatId
    hostTelegramId := values.hostTelegramId.getD state.fund.hostTelegramId } })

/-- One write of a fund's state. -/
inductive Write
  | op (o : Op)
  | setup (args : Setup) (stamp : Time)
  | bind (values : Bind) (stamp : Time)

def Write.Reply : Write → Type
  | .op o => o.update.Reply
  | .setup .. => Fund
  | .bind .. => Unit

def Write.exec : (w : Write) → FundState → Except Exc (w.Reply × FundState)
  | .op o, state => o.exec state
  | .setup args stamp, state => do
      let (fund, state) ← setupFund args state
      return (fund, bump state stamp)
  | .bind values stamp, state => .ok ((), bump (bindFund values state).2 stamp)

abbrev writeStore : Interface FundState Exc := ⟨Write, Write.Reply, Write.exec⟩

lemma checkLocked_eq_ok {key current : String} {wanted : Option String} {u : Unit} :
    checkLocked key wanted current = .ok u ↔
      current = "" ∨ ∀ value ∈ wanted, lower value = lower current := by
  cases wanted with
  | none => simp [checkLocked]
  | some value =>
    rw [checkLocked, refuseIf_eq_ok]
    simp only [not_and_or, not_not, Option.mem_def, Option.some.injEq, forall_eq', ne_eq]

lemma setupFund_ok {setup : Setup} {s s' : FundState} {fund : Fund}
    (h : setupFund setup s = .ok (fund, s')) :
    (checkHostAction s setup.agent).ok = true ∧
      (setup.asset = "" ∨ setup.asset = s.fund.asset) ∧
      (s.fund.vault = "" ∨ ∀ v ∈ setup.vault, lower v = lower s.fund.vault) ∧
      (s.fund.governor = "" ∨ ∀ v ∈ setup.governor, lower v = lower s.fund.governor) ∧
      (s.fund.telegramChatId = "" ∨
        ∀ v ∈ setup.telegramChatId, lower v = lower s.fund.telegramChatId) ∧
      (s.fund.hostTelegramId = "" ∨
        ∀ v ∈ setup.hostTelegramId, lower v = lower s.fund.hostTelegramId) ∧
      ∃ cap, fund = withSetup s.fund setup cap ∧ s' = { s with fund } := by
  simp only [setupFund, bind_eq_ok, require_eq_ok, raiseIf_eq_ok, checkLocked_eq_ok, pure_eq_ok,
    Prod.mk.injEq] at h
  obtain ⟨-, hhost, -, hasset, -, hvault, -, hgov, -, hchat, -, hhostId, cap, -, rfl, rfl⟩ := h
  rw [not_and_or, not_not, not_not] at hasset
  exact ⟨hhost, hasset, hvault, hgov, hchat, hhostId, cap, rfl, rfl⟩

/-- A write other than a service update touches no more than the fund record. -/
lemma frame_of_exec {w : Write} {s s' : FundState} {r : w.Reply} (h : w.exec s = .ok (r, s')) :
    (∃ o, w = .op o) ∨ (s'.proposals = s.proposals ∧ s'.nextProposalSeq = s.nextProposalSeq ∧
      s'.receipts = s.receipts ∧ s'.agents = s.agents ∧ s'.members = s.members ∧
      s'.claims = s.claims ∧ s'.nextMemberNo = s.nextMemberNo) := by
  cases w with
  | op o => exact Or.inl ⟨o, rfl⟩
  | setup args stamp =>
    simp only [Write.exec, bind_eq_ok, pure_eq_ok] at h
    obtain ⟨⟨fund, mid⟩, hsetup, heq⟩ := h
    obtain ⟨-, -, -, -, -, -, cap, -, rfl⟩ := setupFund_ok hsetup
    cases heq
    exact Or.inr ⟨rfl, rfl, rfl, rfl, rfl, rfl, rfl⟩
  | bind values stamp =>
    simp only [Write.exec, Except.ok.injEq] at h
    cases h
    exact Or.inr ⟨rfl, rfl, rfl, rfl, rfl, rfl, rfl⟩

end SherwoodMonitor.FundWrites
