import SherwoodMonitor.FundWrites

/-! The funds of one machine (`fund/store.py`, `fund/runtime.py`): each has its own state, and an
operation names the fund it is on. -/
namespace SherwoodMonitor.FundDisk
open PyUnicode PyText PyJson Models FundState Rules Service Calls Effects AtomicStore FundWrites

/-- The stored states, by the names of their funds. -/
abbrev Disk := List (String × FundState)

namespace Disk

def find (disk : Disk) (name : String) : Option FundState :=
  (List.find? (fun e => e.1 = name) disk).map (·.2)

/-- Write back the state of a fund. -/
def put (disk : Disk) (name : String) (state : FundState) : Disk :=
  disk.map fun e => if e.1 = name then (name, state) else e

/-- `backend.load`. -/
def load (disk : Disk) (name : String) : Except Exc FundState :=
  match disk.find name with
  | some state => .ok state
  | none => .error (.raised .fundNotFound ("no state for fund " ++ reprText name))

/-- `list_funds`: the names that match the pattern, sorted. -/
def names (disk : Disk) : List String :=
  ((disk.map (·.1)).filter fun name => decide (validateFundName name = .ok name)).mergeSort
    fun a b => decide (a ≤ b)

end Disk

/-- One atomic operation: `backend.create` on what `create_fund` builds, or a write of one fund. -/
inductive DiskOp
  | create (fund : Fund) (host : Agent) (clock : Clock)
  | write (name : String) (w : Write)

def DiskOp.Reply : DiskOp → Type
  | .create .. => FundState
  | .write _ w => w.Reply

def DiskOp.exec : (op : DiskOp) → Disk → Except Exc (op.Reply × Disk)
  | .create fund host clock, disk => do
      let state ← createFund fund host clock.now clock.stamp
      raiseIf (disk.find state.fund.name ≠ none) .fundExists
        ("fund " ++ reprText state.fund.name ++ " already exists")
      return (state, disk ++ [(state.fund.name, state)])
  | .write name w, disk => do
      let state ← disk.load name
      let (reply, state) ← w.exec state
      return (reply, disk.put name state)

abbrev diskStore : Interface Disk Exc := ⟨DiskOp, DiskOp.Reply, DiskOp.exec⟩

/-- What a handler does besides its writes: the service's events, and the credentialed lookups of
a member's wallet at the app. -/
inductive ToolEvent
  | fund (name : String) (ev : FundEvent)
  | lookup (vault telegramId : String)

abbrev DiskProg := Prog diskStore ToolEvent

def check {α : Type} : Except Exc α → DiskProg α
  | .ok a => pure a
  | .error e => Prog.raise e

/-- A service operation on the named fund, with its event. -/
def runFundAct (name : String) (a : Act) (clock : Clock) : DiskProg a.Reply := do
  let reply ← Prog.call (I := diskStore) (.write name (.op ⟨.act a, clock⟩))
  match a.event? reply with
  | some ev => Prog.tell (.fund name ev)
  | none => pure ()
  return reply

/-- What this Hermes is set up with (`fund/settings.py`). -/
structure Settings where
  agentName : String
  agentIdentityId : String := ""
  agentAddress : String := ""
  ownerTelegramId : String := ""
  defaultFund : String := ""

/-- The settings, and the app's answer to `linked_address` where a client is set up. -/
structure Runtime where
  settings : Settings
  applink : Option (String → String → Option String) := none

/-- `FundRuntime.agent_name`. -/
def Runtime.agentName (rt : Runtime) : Except Exc String :=
  let name := strip rt.settings.agentName
  if name = "" then
    .error (.raised .service ("this Hermes has no fund agent name configured; ask the operator " ++
      "to set up its fund identity (agent name, ERC-8004 id, wallet)"))
  else .ok name

/-- `resolve_fund` with no chat: the explicit name, else the configured default, else the only
fund here. -/
def resolveFund (explicit : Json) (default : String) (disk : Disk) : Except Exc String :=
  if explicit.truthy ∧ strip explicit.toStr ≠ "" then validateFundName explicit.toStr
  else if default ≠ "" then validateFundName default
  else
    match disk.names with
    | [name] => .ok name
    | [] => .error (.raised .service
        "no fund here yet: create one (host) or /join-fund <fund> (guest)")
    | names => .error (.raised .service
        ("which fund? pass one of: " ++ String.intercalate ", " names))

/-- `FundRuntime.fund_for`. -/
def Runtime.fundFor (rt : Runtime) (explicit : Json) (disk : Disk) : Except Exc String :=
  resolveFund explicit rt.settings.defaultFund disk

variable {disk : Disk} {name : String} {state : FundState}

lemma load_eq_ok : disk.load name = .ok state ↔ disk.find name = some state := by
  rw [Disk.load]
  cases disk.find name <;> simp

lemma agentName_ne_empty {rt : Runtime} {agent : String} (h : rt.agentName = .ok agent) :
    agent ≠ "" := by
  rw [Runtime.agentName] at h
  split_ifs at h with hempty
  obtain rfl := Except.ok.inj h
  exact hempty

--- names

/-- A character of a fund's name; `isSpace` and `lower` leave it alone. -/
lemma fundNameChar_plain {c : Char} (h : (isFundNameChar c || decide (c = '-')) = true) :
    isSpace c = false ∧ c.toNat < 128 ∧ ¬(65 ≤ c.toNat ∧ c.toNat ≤ 90) := by
  have hcode : (97 ≤ c.toNat ∧ c.toNat ≤ 122) ∨ (48 ≤ c.toNat ∧ c.toNat ≤ 57) ∨
      c.toNat = 45 := by
    simp only [isFundNameChar, Bool.or_eq_true, Bool.and_eq_true, decide_eq_true_eq] at h
    rcases h with (h | h) | rfl
    · exact Or.inl h
    · exact Or.inr (Or.inl h)
    · exact Or.inr (Or.inr rfl)
  have hrange : inRanges [(45, 45), (48, 57), (97, 122)] c.toNat = true := by
    simp only [inRanges, List.any_cons, List.any_nil, Bool.or_false, Bool.or_eq_true,
      Bool.and_eq_true, decide_eq_true_eq]
    omega
  have hspace : isSpace c = false := inRanges_disjoint (by decide) hrange
  exact ⟨hspace, by omega, by omega⟩

lemma validateFundName_chars {raw : String} (h : validateFundName raw = .ok name) :
    ∃ c l, name.toList = c :: l ∧ isFundNameChar c = true ∧ l.length ≤ 62 ∧
      l.all (fun d => isFundNameChar d || d = '-') = true := by
  rw [validateFundName] at h
  split at h
  · next c l hl =>
    split_ifs at h with hok
    obtain rfl := Except.ok.inj h
    exact ⟨c, l, hl, hok.1, hok.2.1, hok.2.2⟩
  · cases h

/-- A validated name is its own cleaned form. -/
lemma validateFundName_self {raw : String} (h : validateFundName raw = .ok name) :
    validateFundName name = .ok name := by
  obtain ⟨c, l, hname, hc, hlen, hl⟩ := validateFundName_chars h
  have hplain : ∀ d ∈ name.toList, isSpace d = false ∧ d.toNat < 128 ∧
      ¬(65 ≤ d.toNat ∧ d.toNat ≤ 90) := by
    intro d hd
    rw [hname, List.mem_cons] at hd
    rcases hd with rfl | hd
    · exact fundNameChar_plain (by simp [hc])
    · exact fundNameChar_plain (List.all_eq_true.1 hl d hd)
  have hstrip : strip name = name := by
    rw [strip, stripChars_eq_self (fun d hd => (hplain d (List.mem_of_head? hd)).1)
      fun d hd => (hplain d (List.mem_of_getLast? hd)).1, String.ofList_toList]
  have hclean : lower (strip name) = name := by
    rw [hstrip, lower, lowerChars_eq_self [] fun d hd => (hplain d hd).2, String.ofList_toList]
  rw [validateFundName, hclean]
  simp only [hname, hc, hlen, hl, true_and, if_true]

lemma fundFor_valid {rt : Runtime} {explicit : Json} (h : rt.fundFor explicit disk = .ok name) :
    validateFundName name = .ok name := by
  rw [Runtime.fundFor, resolveFund] at h
  split_ifs at h
  · exact validateFundName_self h
  · exact validateFundName_self h
  · cases hnames : disk.names with
    | nil => simp [hnames] at h
    | cons n ns =>
      cases ns with
      | nil =>
        obtain rfl : n = name := by simpa [hnames] using h
        have hmem : n ∈ disk.names := by simp [hnames]
        rw [Disk.names, List.mem_mergeSort, List.mem_filter] at hmem
        exact of_decide_eq_true hmem.2
      | cons n' ns => simp [hnames] at h

/-- A fund is created once. -/
lemma exec_create_of_exists (fund : Fund) (host : Agent) (clock : Clock)
    (hfee : (checkAgentFee fund.agentFeeBps).ok = true)
    (hname : validateFundName fund.name = .ok name) (hfind : disk.find name = some state) :
    ∃ text, DiskOp.exec (.create fund host clock) disk = .error (.raised .fundExists text) := by
  obtain ⟨created, hcreated, hcname⟩ : ∃ created,
      createFund fund host clock.now clock.stamp = .ok created ∧ created.fund.name = name := by
    simp only [createFund, require, hfee, if_true, hname, bind, Except.bind]
    exact ⟨_, rfl, rfl⟩
  have hexists : disk.find created.fund.name ≠ none := by simp [hcname, hfind]
  simp only [DiskOp.exec, hcreated, raiseIf, if_pos hexists, bind, Except.bind]
  exact ⟨_, rfl⟩

--- running a handler's parts

lemma run_get_bind {α : Type} (f : Disk → DiskProg α) (disk : Disk) :
    (Prog.get >>= f).run disk = (f disk).run disk := rfl

lemma check_ok_bind {α β : Type} (a : α) (f : α → DiskProg β) :
    (check (.ok a) >>= f) = f a := rfl

lemma run_check_error_bind {α β : Type} (e : Exc) (f : α → DiskProg β) (disk : Disk) :
    (check (.error e) >>= f).run disk = ⟨.error e, disk, []⟩ := rfl

lemma exec_write_of_ok {op : Op} {mid : FundState} {r : op.update.Reply}
    (hfind : disk.find name = some state) (h : op.update.mutate op.clock.now state = .ok (r, mid)) :
    DiskOp.exec (.write name (.op op)) disk =
      .ok (r, disk.put name (bump mid op.clock.stamp)) := by
  have hexec : Write.exec (.op op) state = .ok (r, bump mid op.clock.stamp) := op.exec_of_ok h
  rw [DiskOp.exec, bind_eq_ok]
  refine ⟨state, load_eq_ok.2 hfind, ?_⟩
  rw [bind_eq_ok]
  exact ⟨_, hexec, rfl⟩

lemma exec_write_of_error {op : Op} {e : Exc} (hfind : disk.find name = some state)
    (h : op.update.mutate op.clock.now state = .error e) :
    DiskOp.exec (.write name (.op op)) disk = .error e := by
  simp only [DiskOp.exec, load_eq_ok.2 hfind, Write.exec, Op.exec, h, bind, Except.bind]

lemma run_runFundAct_of_ok {a : Act} (clock : Clock) {mid : FundState} {r : a.Reply}
    (hfind : disk.find name = some state) (h : a.mutate clock.now state = .ok (r, mid)) :
    (runFundAct name a clock).run disk =
      ⟨.ok r, disk.put name (bump mid clock.stamp), (a.event? r).toList.map (.fund name)⟩ := by
  have hexec : diskStore.exec (.write name (.op ⟨.act a, clock⟩)) disk =
      .ok (r, disk.put name (bump mid clock.stamp)) :=
    @exec_write_of_ok _ _ _ ⟨.act a, clock⟩ _ _ hfind h
  rw [runFundAct, Prog.run_bind_of_ok (Prog.run_call_of_ok hexec)]
  cases a.event? r <;> rfl

lemma run_runFundAct_of_error {a : Act} (clock : Clock) {e : Exc}
    (hfind : disk.find name = some state) (h : a.mutate clock.now state = .error e) :
    (runFundAct name a clock).run disk = ⟨.error e, disk, []⟩ := by
  have hexec : diskStore.exec (.write name (.op ⟨.act a, clock⟩)) disk = .error e :=
    @exec_write_of_error _ _ _ ⟨.act a, clock⟩ _ hfind h
  have hcall : (Prog.call (I := diskStore) (.write name (.op ⟨.act a, clock⟩)) :
      DiskProg _).run disk = ⟨.error e, disk, []⟩ := by
    rw [Prog.run_call, hexec]
  exact Prog.run_bind_of_error hcall _

lemma run_runFundAct_of_missing (a : Act) (clock : Clock) (hfind : disk.find name = none) :
    ∃ e, (runFundAct name a clock).run disk = ⟨.error e, disk, []⟩ := by
  obtain ⟨e, hexec⟩ : ∃ e, diskStore.exec (.write name (.op ⟨.act a, clock⟩)) disk = .error e := by
    simp only [DiskOp.exec, Disk.load, hfind, bind, Except.bind]
    exact ⟨_, rfl⟩
  have hcall : (Prog.call (I := diskStore) (.write name (.op ⟨.act a, clock⟩)) :
      DiskProg _).run disk = ⟨.error e, disk, []⟩ := by
    rw [Prog.run_call, hexec]
  exact ⟨e, Prog.run_bind_of_error hcall _⟩

end SherwoodMonitor.FundDisk
