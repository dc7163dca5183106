import SherwoodMonitor.Tools

/-! Who the tools obey. Only the fund's host may use the host's authority from a chat; before the
fund exists this is the configured owner. The gate also takes the owner for the host of a fund that
exists without a host on record, and a vote of an unknown kind passes it by. -/
namespace SherwoodMonitor.HostAuthority
open PyText PyJson Models FundState Rules Service Calls Effects AtomicStore FundWrites FundDisk
  Authz Tools SherwoodMonitor.Units

variable {rt : Runtime} {caller : Caller} {args : Args} {clock : ℕ → Clock} {disk : Disk}
  {name : String} {s : FundState}

/-- The Telegram id of the person who may act: the existing fund's host, the configured owner
before the fund exists. An unset id is nobody. -/
def rightfulHost (state : Option FundState) (ownerTelegramId : String) : String :=
  match state with
  | some state => state.fund.hostTelegramId
  | none => ownerTelegramId

/-- The sender is the Telegram user with this id. -/
def IsUser (caller : Caller) (id : String) : Prop :=
  caller.platform = "telegram" ∧ caller.userId ≠ "" ∧ caller.userId = id

/-- The call's sender is not the host of the fund that the arguments name. -/
def NotHost (rt : Runtime) (caller : Caller) (args : Args) (disk : Disk) : Prop :=
  ∀ name, rt.fundFor (Json.lookup "fund" args) disk = .ok name →
    ¬IsUser caller (rightfulHost (disk.find name) rt.settings.ownerTelegramId)

/-- A refusal: the handler fails, changes nothing and looks nothing up. -/
structure Refused (out : Outcome Disk Exc ToolEvent ToolReply) (disk : Disk) : Prop where
  failed : ∃ e, out.result = .error e
  store : out.store = disk
  lookups : ∀ vault tg, .lookup vault tg ∉ out.events

lemma refused_of_error {out : Outcome Disk Exc ToolEvent ToolReply} {e : Exc}
    (h : out = ⟨.error e, disk, []⟩) : Refused out disk := by
  subst h
  exact ⟨⟨e, rfl⟩, rfl, by simp⟩

/-- The owner acts on an existing fund that has no host on record. -/
def OwnerStandsIn (rt : Runtime) (caller : Caller) (args : Args) (disk : Disk) : Prop :=
  ∃ name s, rt.fundFor (Json.lookup "fund" args) disk = .ok name ∧ disk.find name = some s ∧
    s.fund.hostTelegramId = "" ∧ IsUser caller rt.settings.ownerTelegramId

lemma ownerStandsIn_of_gate (hmessaging : caller.messaging = true)
    (hnot : NotHost rt caller args disk)
    (hname : rt.fundFor (Json.lookup "fund" args) disk = .ok name)
    (hgate : (checkCaller (disk.find name) caller rt.settings.ownerTelegramId).ok = true) :
    OwnerStandsIn rt caller args disk := by
  obtain ⟨hplatform, hne, huser⟩ := (checkCaller_ok hmessaging).1 hgate
  have hno := hnot name hname
  cases hfind : disk.find name with
  | none =>
    rw [hfind] at huser hno
    exact absurd ⟨hplatform, hne, huser⟩ hno
  | some s =>
    rw [hfind] at huser hno
    by_cases hunset : s.fund.hostTelegramId = ""
    · refine ⟨name, s, hname, hfind, hunset, hplatform, hne, ?_⟩
      simpa [expectedHost, hunset] using huser
    · exact absurd ⟨hplatform, hne, by simpa [expectedHost, rightfulHost, hunset] using huser⟩
        hno

lemma gate_of_ownerStandsIn (hmessaging : caller.messaging = true)
    (h : OwnerStandsIn rt caller args disk) :
    ∃ name s, rt.fundFor (Json.lookup "fund" args) disk = .ok name ∧ disk.find name = some s ∧
      s.fund.hostTelegramId = "" ∧
      hostGate rt caller name disk = .ok (some caller.userId) := by
  obtain ⟨name, s, hname, hfind, hunset, hplatform, hne, huser⟩ := h
  have hok : (checkCaller (disk.find name) caller rt.settings.ownerTelegramId).ok = true := by
    rw [checkCaller_ok hmessaging, hfind]
    exact ⟨hplatform, hne, by simpa [expectedHost, hunset] using huser⟩
  refine ⟨name, s, hname, hfind, hunset, ?_⟩
  simp [hostGate, require, hok, Caller.telegramUser, hplatform, hne, bind, Except.bind, pure,
    Except.pure]

/-- Without the gate's mistake every plan that passes it fails. -/
lemma gate_fails (hmessaging : caller.messaging = true) (hnot : NotHost rt caller args disk)
    (hgap : ¬OwnerStandsIn rt caller args disk)
    (hname : rt.fundFor (Json.lookup "fund" args) disk = .ok name) (tg : Option String) :
    hostGate rt caller name disk ≠ .ok tg := by
  simp only [hostGate, ne_eq, bind_eq_ok, require_eq_ok, pure_eq_ok]
  rintro ⟨-, hgate, -⟩
  exact hgap (ownerStandsIn_of_gate hmessaging hnot hname hgate)

--- what the handlers do past the gate

/-- One service operation and the reply made of its result. -/
lemma run_act {a : Act} {c : Clock} (f : a.Reply → ToolReply) (hfind : disk.find name = some s) :
    (∃ r mid, a.mutate c.now s = .ok (r, mid) ∧
        (runFundAct name a c >>= fun r => pure (f r)).run disk =
          ⟨.ok (f r), disk.put name (bump mid c.stamp), (a.event? r).toList.map (.fund name)⟩) ∨
      ∃ e, a.mutate c.now s = .error e ∧
        (runFundAct name a c >>= fun r => pure (f r)).run disk = ⟨.error e, disk, []⟩ := by
  cases hm : a.mutate c.now s with
  | ok r =>
    have hrun := run_runFundAct_of_ok c hfind hm
    refine Or.inl ⟨r.1, r.2, rfl, ?_⟩
    rw [Prog.run_bind_of_ok hrun]
    simp [Prog.run_pure]
  | error e =>
    have hrun := run_runFundAct_of_error c hfind hm
    exact Or.inr ⟨e, rfl, Prog.run_bind_of_error hrun _⟩

/-- It is refused exactly when the operation fails. -/
lemma refused_act_iff {a : Act} {c : Clock} (f : a.Reply → ToolReply)
    (hfind : disk.find name = some s) :
    Refused ((runFundAct name a c >>= fun r => pure (f r)).run disk) disk ↔
      ¬∃ r mid, a.mutate c.now s = .ok (r, mid) := by
  rcases run_act (c := c) f hfind with ⟨r, mid, hm, hrun⟩ | ⟨e, hm, hrun⟩
  · rw [hrun]
    refine iff_of_false (fun h => ?_) (fun h => h ⟨r, mid, hm⟩)
    obtain ⟨e, he⟩ := h.failed
    cases he
  · refine iff_of_true (refused_of_error hrun) ?_
    rintro ⟨r, mid, hok⟩
    rw [hm] at hok
    cases hok

lemma refused_act_of_missing {a : Act} {c : Clock} (f : a.Reply → ToolReply)
    (hfind : disk.find name = none) :
    Refused ((runFundAct name a c >>= fun r => pure (f r)).run disk) disk := by
  obtain ⟨e, hrun⟩ := run_runFundAct_of_missing a c hfind
  exact refused_of_error (Prog.run_bind_of_error hrun _)

lemma setupPlan_ok {setup : Setup} {fund : Fund} :
    setupPlan rt caller args disk = .ok (name, setup, fund) ↔
      rt.fundFor (Json.lookup "fund" args) disk = .ok name ∧
        (∃ tg, hostGate rt caller name disk = .ok tg) ∧
          ∃ agent, rt.agentName = .ok agent ∧ setupArgs rt args agent = .ok setup ∧
            ∃ cap, limitsFor setup (if setup.asset = "" then "USDG" else setup.asset) = .ok cap ∧
              fund = newFund name setup cap := by
  simp only [setupPlan, bind_eq_ok, pure_eq_ok, Prod.mk.injEq]
  constructor
  · rintro ⟨name, hname, tg, hgate, agent, hagent, setup, hsetup, cap, hcap, rfl, rfl, rfl⟩
    exact ⟨hname, ⟨tg, hgate⟩, agent, hagent, hsetup, cap, hcap, rfl⟩
  · rintro ⟨hname, ⟨tg, hgate⟩, agent, hagent, hsetup, cap, hcap, rfl⟩
    exact ⟨name, hname, tg, hgate, agent, hagent, setup, hsetup, cap, hcap, rfl, rfl, rfl⟩

lemma agentFee_of_setupArgs {agent : String} {setup : Setup}
    (h : setupArgs rt args agent = .ok setup) : (checkAgentFee setup.agentFeeBps).ok = true := by
  simp only [setupArgs, bind_eq_ok, require_eq_ok, pure_eq_ok] at h
  obtain ⟨-, -, -, -, -, -, fee, -, -, hfee, -, -, -, -, rfl⟩ := h
  exact hfee

/-- On a fund that exists `fund_setup` does what its update does. -/
lemma run_fundSetup (clock : ℕ → Clock) {setup : Setup} {fund : Fund}
    (hplan : setupPlan rt caller args disk = .ok (name, setup, fund))
    (hfind : disk.find name = some s) :
    (∃ f s', setupFund setup s = .ok (f, s') ∧ (fundSetup rt caller args clock).run disk =
        ⟨.ok (.setup false f), disk.put name (bump s' (clock 1).stamp), []⟩) ∨
      ∃ e, setupFund setup s = .error e ∧
        (fundSetup rt caller args clock).run disk = ⟨.error e, disk, []⟩ := by
  obtain ⟨hname, -, agent, -, hargs, cap, -, rfl⟩ := setupPlan_ok.1 hplan
  have hfee : (checkAgentFee (newFund name setup cap).agentFeeBps).ok = true := by
    have heq : (newFund name setup cap).agentFeeBps = setup.agentFeeBps := by
      simp [newFund, withSetup]
    rw [heq]
    exact agentFee_of_setupArgs hargs
  obtain ⟨text, hcreate⟩ := exec_create_of_exists (newFund name setup cap)
    (hostAgentOf rt setup.agent) (clock 0) hfee (fundFor_valid hname) hfind
  rw [fundSetup, run_get_bind, hplan, check_ok_bind, Prog.run]
  simp only [hcreate]
  cases hset : setupFund setup s with
  | ok r =>
    have hexec : diskStore.exec (.write name (.setup setup (clock 1).stamp)) disk =
        .ok (r.1, disk.put name (bump r.2 (clock 1).stamp)) := by
      simp only [DiskOp.exec, load_eq_ok.2 hfind, Write.exec, hset, bind, Except.bind]
      rfl
    exact Or.inl ⟨r.1, r.2, rfl, by rw [Prog.run_bind_of_ok (Prog.run_call_of_ok hexec)]; rfl⟩
  | error e =>
    have hexec : diskStore.exec (.write name (.setup setup (clock 1).stamp)) disk = .error e := by
      simp only [DiskOp.exec, load_eq_ok.2 hfind, Write.exec, hset, bind, Except.bind]
    have hcall : (Prog.call (I := diskStore) (.write name (.setup setup (clock 1).stamp)) :
        DiskProg _).run disk = ⟨.error e, disk, []⟩ := by
      rw [Prog.run_call, hexec]
    exact Or.inr ⟨e, rfl, Prog.run_bind_of_error hcall _⟩

lemma refused_of_plan {α : Type} {plan : Disk → Except Exc α} {k : α → DiskProg ToolReply}
    (h : ∀ p, plan disk ≠ .ok p) :
    Refused ((Prog.get >>= fun d => check (plan d) >>= k).run disk) disk := by
  cases hplan : plan disk with
  | ok p => exact absurd hplan (h p)
  | error e =>
    rw [run_get_bind, hplan]
    exact refused_of_error (run_check_error_bind e k disk)

--- what the tools would do for the host

/-- Behind the gate the arguments read and the operation succeeds. The tools that approve and
remove check the caller against the stored host once more. -/
def Behind (rt : Runtime) (args : Args) (clock : ℕ → Clock) (disk : Disk) : HostTool → Prop
  | .fundSetup => ∃ name s agent setup cap r,
      rt.fundFor (Json.lookup "fund" args) disk = .ok name ∧ disk.find name = some s ∧
        rt.agentName = .ok agent ∧ setupArgs rt args agent = .ok setup ∧
        limitsFor setup (if setup.asset = "" then "USDG" else setup.asset) = .ok cap ∧
        setupFund setup s = .ok r
  | .fundSetProposalStatus => ∃ name s agent note r,
      rt.fundFor (Json.lookup "fund" args) disk = .ok name ∧ disk.find name = some s ∧
        rt.agentName = .ok agent ∧ statusNote args = .ok note ∧
        setProposalStatus agent (argText args "proposal_id") (argText args "status") note
          (clock 0).now s = .ok r
  | .fundRecordSettle => ∃ name s agent pnl pnlBps r,
      rt.fundFor (Json.lookup "fund" args) disk = .ok name ∧ disk.find name = some s ∧
        toBaseUnits (presentText args "pnl") (assetDecimals s.fund.asset) true = .ok pnl ∧
        rt.agentName = .ok agent ∧ intOrZero args "pnl_bps" = .ok pnlBps ∧
        recordSettle agent (argText args "proposal_id")
          { pnl, pnlBps, txHash := argText args "tx_hash" } (clock 0).now s = .ok r
  | _ => False

variable (hmessaging : caller.messaging = true) (hnot : NotHost rt caller args disk)

include hmessaging hnot

lemma fundSetup_refused_iff :
    Refused ((fundSetup rt caller args clock).run disk) disk ↔
      ¬(OwnerStandsIn rt caller args disk ∧ Behind rt args clock disk .fundSetup) := by
  by_cases hgap : OwnerStandsIn rt caller args disk
  · obtain ⟨name, s, hname, hfind, -, hgate⟩ := gate_of_ownerStandsIn hmessaging hgap
    by_cases hplan : ∃ p, setupPlan rt caller args disk = .ok p
    · obtain ⟨⟨name', setup, fund⟩, hplan⟩ := hplan
      obtain ⟨hname', -, agent, hagent, hargs, cap, hcap, -⟩ := setupPlan_ok.1 hplan
      obtain rfl : name' = name := Except.ok.inj (hname'.symm.trans hname)
      rcases run_fundSetup clock hplan hfind with ⟨f, s', hset, hrun⟩ | ⟨e, hset, hrun⟩
      · refine iff_of_false (fun hrefused => ?_) (fun hno => hno ⟨hgap, name', s, agent, setup, cap,
          (f, s'), hname, hfind, hagent, hargs, hcap, hset⟩)
        obtain ⟨e, he⟩ := hrefused.failed
        rw [hrun] at he
        cases he
      · refine iff_of_true (refused_of_error hrun) ?_
        rintro ⟨-, name₂, s₂, agent₂, setup₂, cap₂, r, hname₂, hfind₂, hagent₂, hargs₂, -, hset₂⟩
        obtain rfl : name' = name₂ := Except.ok.inj (hname.symm.trans hname₂)
        obtain rfl : s = s₂ := Option.some.inj (hfind.symm.trans hfind₂)
        obtain rfl : agent = agent₂ := Except.ok.inj (hagent.symm.trans hagent₂)
        obtain rfl : setup = setup₂ := Except.ok.inj (hargs.symm.trans hargs₂)
        rw [hset] at hset₂
        cases hset₂
    · refine iff_of_true (refused_of_plan fun p hp => hplan ⟨p, hp⟩) ?_
      rintro ⟨-, name₂, s₂, agent, setup, cap, r, hname₂, -, hagent, hargs, hcap, -⟩
      obtain rfl : name = name₂ := Except.ok.inj (hname.symm.trans hname₂)
      exact hplan ⟨_, setupPlan_ok.2 ⟨hname, ⟨_, hgate⟩, agent, hagent, hargs, cap, hcap, rfl⟩⟩
  · refine iff_of_true (refused_of_plan fun p hp => ?_) fun h => hgap h.1
    obtain ⟨hname, ⟨tg, hgate⟩, -⟩ := setupPlan_ok.1 hp
    exact gate_fails hmessaging hnot hgap hname tg hgate

omit hmessaging hnot in
lemma statusPlan_ok {agent : String} {note : StatusNote} :
    statusPlan rt caller args disk = .ok (name, agent, note) ↔
      rt.fundFor (Json.lookup "fund" args) disk = .ok name ∧
        (∃ tg, hostGate rt caller name disk = .ok tg) ∧ rt.agentName = .ok agent ∧
          statusNote args = .ok note := by
  simp only [statusPlan, bind_eq_ok, pure_eq_ok, Prod.mk.injEq]
  constructor
  · rintro ⟨name, hname, tg, hgate, agent, hagent, note, hnote, rfl, rfl, rfl⟩
    exact ⟨hname, ⟨tg, hgate⟩, hagent, hnote⟩
  · rintro ⟨hname, ⟨tg, hgate⟩, hagent, hnote⟩
    exact ⟨name, hname, tg, hgate, agent, hagent, note, hnote, rfl, rfl, rfl⟩

lemma fundSetProposalStatus_refused_iff :
    Refused ((fundSetProposalStatus rt caller args clock).run disk) disk ↔
      ¬(OwnerStandsIn rt caller args disk ∧ Behind rt args clock disk .fundSetProposalStatus) := by
  by_cases hgap : OwnerStandsIn rt caller args disk
  · obtain ⟨name, s, hname, hfind, -, hgate⟩ := gate_of_ownerStandsIn hmessaging hgap
    by_cases hplan : ∃ p, statusPlan rt caller args disk = .ok p
    · obtain ⟨⟨name', agent, note⟩, hplan⟩ := hplan
      obtain ⟨hname', -, hagent, hnote⟩ := statusPlan_ok.1 hplan
      obtain rfl : name' = name := Except.ok.inj (hname'.symm.trans hname)
      rw [fundSetProposalStatus, run_get_bind, hplan, check_ok_bind]
      rw [refused_act_iff (a := .setProposalStatus agent (argText args "proposal_id")
        (argText args "status") note) _ hfind, not_iff_not]
      constructor
      · rintro ⟨r, mid, hok⟩
        exact ⟨hgap, name', s, agent, note, (r, mid), hname, hfind, hagent, hnote, hok⟩
      · rintro ⟨-, name₂, s₂, agent₂, note₂, r, hname₂, hfind₂, hagent₂, hnote₂, hok⟩
        obtain rfl : name' = name₂ := Except.ok.inj (hname.symm.trans hname₂)
        obtain rfl : s = s₂ := Option.some.inj (hfind.symm.trans hfind₂)
        obtain rfl : agent = agent₂ := Except.ok.inj (hagent.symm.trans hagent₂)
        obtain rfl : note = note₂ := Except.ok.inj (hnote.symm.trans hnote₂)
        exact ⟨r.1, r.2, hok⟩
    · refine iff_of_true (refused_of_plan fun p hp => hplan ⟨p, hp⟩) ?_
      rintro ⟨-, name₂, s₂, agent, note, r, hname₂, -, hagent, hnote, -⟩
      obtain rfl : name = name₂ := Except.ok.inj (hname.symm.trans hname₂)
      exact hplan ⟨_, statusPlan_ok.2 ⟨hname, ⟨_, hgate⟩, hagent, hnote⟩⟩
  · refine iff_of_true (refused_of_plan fun p hp => ?_) fun h => hgap h.1
    obtain ⟨hname, ⟨tg, hgate⟩, -⟩ := statusPlan_ok.1 hp
    exact gate_fails hmessaging hnot hgap hname tg hgate

omit hmessaging hnot in
lemma settlePlan_ok {agent : String} {settle : Settle} :
    settlePlan rt caller args disk = .ok (name, agent, settle) ↔
      rt.fundFor (Json.lookup "fund" args) disk = .ok name ∧
        (∃ tg, hostGate rt caller name disk = .ok tg) ∧ ∃ s pnl pnlBps,
          disk.find name = some s ∧
          toBaseUnits (presentText args "pnl") (assetDecimals s.fund.asset) true = .ok pnl ∧
          rt.agentName = .ok agent ∧ intOrZero args "pnl_bps" = .ok pnlBps ∧
          settle = { pnl, pnlBps, txHash := argText args "tx_hash" } := by
  simp only [settlePlan, bind_eq_ok, pure_eq_ok, Prod.mk.injEq, load_eq_ok]
  constructor
  · rintro ⟨name, hname, tg, hgate, s, hfind, pnl, hpnl, agent, hagent, pnlBps, hbps, rfl, rfl, rfl⟩
    exact ⟨hname, ⟨tg, hgate⟩, s, pnl, pnlBps, hfind, hpnl, hagent, hbps, rfl⟩
  · rintro ⟨hname, ⟨tg, hgate⟩, s, pnl, pnlBps, hfind, hpnl, hagent, hbps, rfl⟩
    exact ⟨name, hname, tg, hgate, s, hfind, pnl, hpnl, agent, hagent, pnlBps, hbps, rfl, rfl, rfl⟩

lemma fundRecordSettle_refused_iff :
    Refused ((fundRecordSettle rt caller args clock).run disk) disk ↔
      ¬(OwnerStandsIn rt caller args disk ∧ Behind rt args clock disk .fundRecordSettle) := by
  by_cases hgap : OwnerStandsIn rt caller args disk
  · obtain ⟨name, s, hname, hfind, -, hgate⟩ := gate_of_ownerStandsIn hmessaging hgap
    by_cases hplan : ∃ p, settlePlan rt caller args disk = .ok p
    · obtain ⟨⟨name', agent, settle⟩, hplan⟩ := hplan
      obtain ⟨hname', -, s', pnl, pnlBps, hfind', hpnl, hagent, hbps, rfl⟩ := settlePlan_ok.1 hplan
      obtain rfl : name' = name := Except.ok.inj (hname'.symm.trans hname)
      obtain rfl : s' = s := Option.some.inj (hfind'.symm.trans hfind)
      rw [fundRecordSettle, run_get_bind, hplan, check_ok_bind]
      rw [refused_act_iff (a := .recordSettle agent (argText args "proposal_id")
        { pnl, pnlBps, txHash := argText args "tx_hash" }) _ hfind, not_iff_not]
      constructor
      · rintro ⟨r, mid, hok⟩
        exact ⟨hgap, name', s', agent, pnl, pnlBps, (r, mid), hname, hfind, hpnl, hagent, hbps, hok⟩
      · rintro ⟨-, name₂, s₂, agent₂, pnl₂, bps₂, r, hname₂, hfind₂, hpnl₂, hagent₂, hbps₂, hok⟩
        obtain rfl : name' = name₂ := Except.ok.inj (hname.symm.trans hname₂)
        obtain rfl : s' = s₂ := Option.some.inj (hfind.symm.trans hfind₂)
        obtain rfl : pnl = pnl₂ := Except.ok.inj (hpnl.symm.trans hpnl₂)
        obtain rfl : agent = agent₂ := Except.ok.inj (hagent.symm.trans hagent₂)
        obtain rfl : pnlBps = bps₂ := Except.ok.inj (hbps.symm.trans hbps₂)
        exact ⟨r.1, r.2, hok⟩
    · refine iff_of_true (refused_of_plan fun p hp => hplan ⟨p, hp⟩) ?_
      rintro ⟨-, name₂, s₂, agent, pnl, pnlBps, r, hname₂, hfind₂, hpnl, hagent, hbps, -⟩
      obtain rfl : name = name₂ := Except.ok.inj (hname.symm.trans hname₂)
      exact hplan ⟨_, settlePlan_ok.2 ⟨hname, ⟨_, hgate⟩, s₂, pnl, pnlBps, hfind₂, hpnl, hagent,
        hbps, rfl⟩⟩
  · refine iff_of_true (refused_of_plan fun p hp => ?_) fun h => hgap h.1
    obtain ⟨hname, ⟨tg, hgate⟩, -⟩ := settlePlan_ok.1 hp
    exact gate_fails hmessaging hnot hgap hname tg hgate

omit hnot in
/-- A sender who passed the gate is passed on to the service, which knows only the stored host. -/
lemma hostGate_caller {tg : Option String} (hgate : hostGate rt caller name disk = .ok tg) :
    tg = some caller.userId := by
  simp only [hostGate, bind_eq_ok, require_eq_ok, pure_eq_ok] at hgate
  obtain ⟨-, hok, rfl⟩ := hgate
  obtain ⟨hplatform, hne, -⟩ := (checkCaller_ok hmessaging).1 hok
  simp [Caller.telegramUser, hplatform, hne]

/-- The second check, against the stored host alone. -/
lemma stored_host_refuses (hname : rt.fundFor (Json.lookup "fund" args) disk = .ok name)
    (hfind : disk.find name = some s) {tg : Option String}
    (hgate : hostGate rt caller name disk = .ok tg) : (checkCallerIsHost s tg).ok ≠ true := by
  obtain rfl := hostGate_caller hmessaging hgate
  simp only [hostGate, bind_eq_ok, require_eq_ok] at hgate
  obtain ⟨-, hok, -⟩ := hgate
  obtain ⟨hplatform, hne, -⟩ := (checkCaller_ok hmessaging).1 hok
  intro hstored
  obtain ⟨-, huser⟩ := checkCallerIsHost_some.1 hstored
  have hno := hnot name hname
  rw [hfind] at hno
  exact hno ⟨hplatform, hne, huser⟩

lemma fundApproveMember_refused :
    Refused ((fundApproveMember rt caller args clock).run disk) disk := by
  refine refused_of_plan fun p hp => ?_
  simp only [approveMemberPlan, bind_eq_ok, require_eq_ok, load_eq_ok] at hp
  obtain ⟨name, hname, tg, hgate, s, hfind, -, hstored, -⟩ := hp
  exact stored_host_refuses hmessaging hnot hname hfind hgate hstored

/-- A handler that passes the caller on to an operation which checks it again. -/
lemma agentTool_refused {a : String → Option String → Act}
    (f : ∀ agent tg, (a agent tg).Reply → ToolReply)
    (hcaller : ∀ agent tg now s r, (a agent tg).mutate now s = .ok r →
      (checkCallerIsHost s tg).ok = true) :
    Refused ((Prog.get >>= fun d => check (agentPlan rt caller args d) >>= fun p =>
      runFundAct p.1 (a p.2.1 p.2.2) (clock 0) >>= fun r => pure (f _ _ r)).run disk) disk := by
  cases hplan : agentPlan rt caller args disk with
  | error e =>
    rw [run_get_bind, hplan]
    exact refused_of_error (run_check_error_bind e _ disk)
  | ok p =>
    have hparts := hplan
    simp only [agentPlan, bind_eq_ok, pure_eq_ok] at hparts
    obtain ⟨name, hname, tg, hgate, agent, -, rfl⟩ := hparts
    rw [run_get_bind, hplan, check_ok_bind]
    cases hfind : disk.find name with
    | none => exact refused_act_of_missing _ hfind
    | some s =>
      rw [refused_act_iff _ hfind]
      rintro ⟨r, mid, hok⟩
      exact stored_host_refuses hmessaging hnot hname hfind hgate (hcaller _ _ _ _ _ hok)

lemma fundApproveAgent_refused :
    Refused ((fundApproveAgent rt caller args clock).run disk) disk :=
  agentTool_refused hmessaging hnot (a := fun agent tg =>
      .approveAgent agent (argText args "agent") (argText args "tx_hash") tg)
    (fun _ _ r => .agent r.1 (if r.1.registered then none else some r.2))
    fun _ _ _ _ _ h => (approveAgent_ok h).1

lemma fundRemoveAgent_refused :
    Refused ((fundRemoveAgent rt caller args clock).run disk) disk :=
  agentTool_refused hmessaging hnot (a := fun agent tg =>
      .removeAgent agent (argText args "agent") tg)
    (fun _ _ r => .agent r none) fun _ _ _ _ _ h => (removeAgent_ok h).1

/-- Each tool refuses exactly when the owner does not stand in for the missing host or something
behind the gate fails. -/
lemma hostTool_refused_iff (tool : HostTool) :
    Refused ((runHostTool rt caller args clock tool).run disk) disk ↔
      ¬(OwnerStandsIn rt caller args disk ∧ Behind rt args clock disk tool) := by
  cases tool with
  | fundSetup => exact fundSetup_refused_iff hmessaging hnot
  | fundSetProposalStatus => exact fundSetProposalStatus_refused_iff hmessaging hnot
  | fundRecordSettle => exact fundRecordSettle_refused_iff hmessaging hnot
  | fundApproveMember => exact iff_of_true (fundApproveMember_refused hmessaging hnot) And.right
  | fundApproveAgent => exact iff_of_true (fundApproveAgent_refused hmessaging hnot) And.right
  | fundRemoveAgent => exact iff_of_true (fundRemoveAgent_refused hmessaging hnot) And.right

--- votes

omit hmessaging hnot

/-- The voter that `fund_record_vote` records. -/
def voterOf (rt : Runtime) (args : Args) : Except Exc String :=
  if voterKind args = "member" then .ok (argText args "voter") else rt.agentName

/-- The vote of the arguments, once past the gate, succeeds. -/
def VoteBehind (rt : Runtime) (args : Args) (clock : ℕ → Clock) (disk : Disk) : Prop :=
  ∃ name s voter r, rt.fundFor (Json.lookup "fund" args) disk = .ok name ∧
    disk.find name = some s ∧ voterOf rt args = .ok voter ∧
    recordVote (argText args "proposal_id") voter (argText args "side") (voterKind args)
      (argText args "note") (clock 0).now s = .ok r

lemma votePlan_ok {voter : String} :
    votePlan rt caller args disk = .ok (name, voter) ↔
      voterOf rt args = .ok voter ∧ rt.fundFor (Json.lookup "fund" args) disk = .ok name ∧
        (voterKind args = "member" → ∃ s, disk.find name = some s ∧
          (checkMemberVoteCaller (some s) caller voter rt.settings.ownerTelegramId).ok = true) := by
  by_cases hkind : voterKind args = "member"
  · simp only [votePlan, voterOf, hkind, if_true, bind_eq_ok, pure_eq_ok, Prod.mk.injEq,
      require_eq_ok, load_eq_ok, true_implies]
    constructor
    · rintro ⟨v, hv, n, hname, s, hfind, -, hcheck, rfl, rfl⟩
      exact ⟨hv, hname, s, hfind, hcheck⟩
    · rintro ⟨hv, hname, s, hfind, hcheck⟩
      exact ⟨voter, hv, name, hname, s, hfind, (), hcheck, rfl, rfl⟩
  · simp only [votePlan, voterOf, hkind, if_false, bind_eq_ok, pure_eq_ok, Prod.mk.injEq,
      false_implies, and_true]
    constructor
    · rintro ⟨v, hv, n, hname, rfl, rfl⟩
      exact ⟨hv, hname⟩
    · rintro ⟨hv, hname⟩
      exact ⟨voter, hv, name, hname, rfl, rfl⟩

lemma fundRecordVote_refused_iff (hmessaging : caller.messaging = true)
    (hnot : NotHost rt caller args disk)
    (hother : ∀ voter, voterOf rt args = .ok voter → ¬IsUser caller voter) :
    Refused ((fundRecordVote rt caller args clock).run disk) disk ↔
      ¬((voterKind args = "member" → OwnerStandsIn rt caller args disk) ∧
        VoteBehind rt args clock disk) := by
  by_cases hplan : ∃ p, votePlan rt caller args disk = .ok p
  · obtain ⟨⟨name, voter⟩, hplan⟩ := hplan
    obtain ⟨hvoter, hname, hcheck⟩ := votePlan_ok.1 hplan
    have hgap : voterKind args = "member" → OwnerStandsIn rt caller args disk := by
      intro hkind
      obtain ⟨s, hfind, hok⟩ := hcheck hkind
      have hself : ¬(caller.messaging = true ∧ caller.platform = "telegram" ∧
          caller.userId ≠ "" ∧ caller.userId = voter) := fun h => hother voter hvoter h.2
      rw [checkMemberVoteCaller, if_neg hself, ← hfind] at hok
      exact ownerStandsIn_of_gate hmessaging hnot hname hok
    rw [fundRecordVote, run_get_bind, hplan, check_ok_bind]
    cases hfind : disk.find name with
    | none =>
      refine iff_of_true (refused_act_of_missing _ hfind) ?_
      rintro ⟨-, name₂, s, voter₂, r, hname₂, hfind₂, -⟩
      obtain rfl : name = name₂ := Except.ok.inj (hname.symm.trans hname₂)
      rw [hfind] at hfind₂
      cases hfind₂
    | some s =>
      refine (refused_act_iff (a := .recordVote (argText args "proposal_id") voter
        (argText args "side") (voterKind args) (argText args "note")) _ hfind).trans
          (not_congr ⟨?_, ?_⟩)
      · rintro ⟨r, mid, hok⟩
        exact ⟨hgap, name, s, voter, (r, mid), hname, hfind, hvoter, hok⟩
      · rintro ⟨-, name₂, s₂, voter₂, r, hname₂, hfind₂, hvoter₂, hok⟩
        obtain rfl : name = name₂ := Except.ok.inj (hname.symm.trans hname₂)
        obtain rfl : s = s₂ := Option.some.inj (hfind.symm.trans hfind₂)
        obtain rfl : voter = voter₂ := Except.ok.inj (hvoter.symm.trans hvoter₂)
        exact ⟨r.1, r.2, hok⟩
  · refine iff_of_true (refused_of_plan fun p hp => hplan ⟨p, hp⟩) ?_
    rintro ⟨hgap, name, s, voter, r, hname, hfind, hvoter, -⟩
    refine hplan ⟨(name, voter), votePlan_ok.2 ⟨hvoter, hname, fun hkind => ⟨s, hfind, ?_⟩⟩⟩
    obtain ⟨name₂, s₂, hname₂, hfind₂, hunset, hplatform, hne, huser⟩ := hgap hkind
    obtain rfl : name = name₂ := Except.ok.inj (hname.symm.trans hname₂)
    have hself : ¬(caller.messaging = true ∧ caller.platform = "telegram" ∧
        caller.userId ≠ "" ∧ caller.userId = voter) := fun h => hother voter hvoter h.2
    rw [checkMemberVoteCaller, if_neg hself, checkCaller_ok hmessaging]
    obtain rfl : s = s₂ := Option.some.inj (hfind.symm.trans hfind₂)
    exact ⟨hplatform, hne, by simpa [expectedHost, hunset] using huser⟩

/-- For every sender in a chat who is not the host: a tool refuses, with nothing changed and
nothing looked up, exactly when the fund has a host on record or the sender is not the owner or the
call fails behind the gate; a member's vote for someone else is refused likewise, but with a kind
that is neither a member's nor an agent's the sender does not matter. -/
theorem hostAuthority_iff (hmessaging : caller.messaging = true)
    (hnot : NotHost rt caller args disk) :
    (∀ tool, Refused ((runHostTool rt caller args clock tool).run disk) disk ↔
        ¬(OwnerStandsIn rt caller args disk ∧ Behind rt args clock disk tool)) ∧
      (voterKind args ≠ "agent" →
        (∀ voter, voterOf rt args = .ok voter → ¬IsUser caller voter) →
          (Refused ((fundRecordVote rt caller args clock).run disk) disk ↔
            ¬((voterKind args = "member" → OwnerStandsIn rt caller args disk) ∧
              VoteBehind rt args clock disk))) :=
  ⟨hostTool_refused_iff hmessaging hnot, fun _ hother =>
    fundRecordVote_refused_iff hmessaging hnot hother⟩

def ownedRuntime : Runtime :=
  { settings := { agentName := "Iris", ownerTelegramId := "900", defaultFund := "alpha" } }

/-- The sample fund, without a host on record. -/
def hostlessDisk : Disk :=
  [("alpha", { sampleState with fund := { sampleState.fund with hostTelegramId := "" } })]

def owner : Caller := { platform := "telegram", userId := "900" }

def capitalArgs : Args := [("max_capital", .str "500")]

lemma owner_notHost : NotHost ownedRuntime owner capitalArgs hostlessDisk := by
  intro name hname
  obtain rfl : name = "alpha" := by
    have heq : ownedRuntime.fundFor (Json.lookup "fund" capitalArgs) hostlessDisk =
        .ok "alpha" := by decide +kernel
    exact Except.ok.inj (hname.symm.trans heq)
  rw [IsUser]
  decide +kernel

/-- Another member of the chat than the owner gets no further. -/
theorem hostAuthority_iff_stranger :
    Refused ((runHostTool ownedRuntime { owner with userId := "901" } capitalArgs
      (fun _ => ⟨1010, 1010⟩) .fundSetup).run hostlessDisk) hostlessDisk := by
  have hnot : NotHost ownedRuntime { owner with userId := "901" } capitalArgs hostlessDisk := by
    intro name hname
    obtain rfl : name = "alpha" := by
      have heq : ownedRuntime.fundFor (Json.lookup "fund" capitalArgs) hostlessDisk =
          .ok "alpha" := by decide +kernel
      exact Except.ok.inj (hname.symm.trans heq)
    rw [IsUser]
    decide +kernel
  refine ((@hostAuthority_iff _ _ _ (fun _ => ⟨1010, 1010⟩) _ (by decide +kernel) hnot).1
    .fundSetup).2 ?_
  rintro ⟨⟨-, -, -, -, -, -, -, huser⟩, -⟩
  exact absurd huser (by decide)

/-- The owner sets the limits of a fund that has no host. -/
theorem not_refused_without_host :
    ¬∀ tool, NotHost ownedRuntime owner capitalArgs hostlessDisk →
      Refused ((runHostTool ownedRuntime owner capitalArgs (fun _ => ⟨1010, 1010⟩) tool).run
        hostlessDisk) hostlessDisk := by
  intro hall
  obtain ⟨⟨e, he⟩, -, -⟩ := hall .fundSetup owner_notHost
  have hresult : ((runHostTool ownedRuntime owner capitalArgs (fun _ => ⟨1010, 1010⟩)
      .fundSetup).run hostlessDisk).result.map (fun _ => ()) = .ok () := by
    decide +kernel
  rw [he] at hresult
  cases hresult

end SherwoodMonitor.HostAuthority
