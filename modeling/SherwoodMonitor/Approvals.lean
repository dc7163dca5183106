import SherwoodMonitor.Tools
import SherwoodMonitor.Library.JsonText

/-! What a standing approval covers (`fund/authz.py`). The key of an approval is made of the
arguments in a list; a call's effect is computed from the raw arguments. -/
namespace SherwoodMonitor.Approvals
open PyText PyJson JsonText Models FundState Rules Service ChainCard Calls Effects AtomicStore
  FundWrites FundDisk Authz Tools SherwoodMonitor.Units

/-- `APPROVAL_KEYS`. -/
def approvalKeys : List String :=
  ["member", "address", "agent", "proposal_id", "status", "onchain_id", "pnl", "pnl_bps",
   "tx_hash", "host_telegram_id", "telegram_chat_id", "vault", "governor", "max_capital",
   "max_drawdown_bps", "agent_fee_bps", "voting_period", "asset", "voter", "side", "voter_kind"]

/-- The given arguments of the list, as text. -/
def keyed (args : Args) : List (String × Json) :=
  approvalKeys.filterMap fun k => (givenText args k).map fun text => (k, .str text)

/-- The text that the key of an approval is a hash of. -/
def canonicalText (fund : String) (args : Args) : String :=
  dumps (.obj [("fund", .str fund), ("args", .obj (keyed args))])

/-- The arguments that the approval message names. -/
def shownItems (args : Args) : List String :=
  approvalKeys.filterMap fun k => (givenText args k).map fun text => k ++ "=" ++ text

def toolName : HostTool → String
  | .fundSetup => "fund_setup"
  | .fundApproveMember => "fund_approve_member"
  | .fundApproveAgent => "fund_approve_agent"
  | .fundRemoveAgent => "fund_remove_agent"
  | .fundRecordSettle => "fund_record_settle"
  | .fundSetProposalStatus => "fund_set_proposal_status"

def approvalMessage (tool : HostTool) (fund : String) (args : Args) : String :=
  let detail := String.intercalate ", " (shownItems args)
  "Sherwood fund " ++ (if fund = "" then "?" else fund) ++ ": " ++ toolName tool ++
    (if detail = "" then "" else " (" ++ detail ++ ")") ++
    " acts with the host's authority. Approve once; never answer Always."

/-! ### What the tools read -/

/-- Arguments of a tool that it reads as text, with any false value as none. -/
def textKeys : HostTool → List String
  | .fundSetup => ["asset"]
  | .fundApproveMember => ["member", "address", "tx_hash"]
  | .fundApproveAgent => ["agent", "tx_hash"]
  | .fundRemoveAgent => ["agent"]
  | .fundRecordSettle => ["proposal_id", "tx_hash"]
  | .fundSetProposalStatus => ["proposal_id", "status", "tx_hash"]

/-- Arguments that it reads as integers. -/
def intKeys : HostTool → List String
  | .fundSetup => ["max_drawdown_bps", "voting_period", "agent_fee_bps"]
  | .fundSetProposalStatus => ["onchain_id"]
  | _ => []

/-- Arguments that it reads although no approval is keyed by them. -/
def unkeyed : HostTool → List String
  | .fundSetup => ["host_address"]
  | .fundSetProposalStatus => ["card_message_id"]
  | _ => []

/-- The two dicts hold values that the tool reads alike where their texts agree. -/
structure ReadAlike (tool : HostTool) (args args' : Args) : Prop where
  texts : ∀ k ∈ textKeys tool, (Json.lookup k args).truthy = (Json.lookup k args').truthy
  ints : ∀ k ∈ intKeys tool, (givenInt args k).toOption = (givenInt args' k).toOption
  pnlBps : tool = .fundRecordSettle →
    (intOrZero args "pnl_bps").toOption = (intOrZero args' "pnl_bps").toOption
  unkeyed : ∀ k ∈ unkeyed tool, argText args k = argText args' k

/-! ### What the key tells -/

lemma mem_keyed {args : Args} {k : String} {v : Json} :
    (k, v) ∈ keyed args ↔ k ∈ approvalKeys ∧ ∃ text, givenText args k = some text ∧ v = .str text := by
  simp only [keyed, List.mem_filterMap, Option.map_eq_some_iff, Prod.mk.injEq]
  constructor
  · rintro ⟨k', hk', text, htext, rfl, rfl⟩
    exact ⟨hk', text, htext, rfl⟩
  · rintro ⟨hk, text, htext, rfl⟩
    exact ⟨k, hk, text, htext, rfl, rfl⟩

lemma keys_keyed_nodup (args : Args) : ((keyed args).map (·.1)).Nodup := by
  have hsub : ((keyed args).map (·.1)).Sublist approvalKeys := by
    rw [keyed]
    induction approvalKeys with
    | nil => exact List.Sublist.slnil
    | cons k ks ih =>
      cases htext : givenText args k with
      | none => simpa [List.filterMap_cons, htext] using ih.cons k
      | some text => simpa [List.filterMap_cons, htext] using ih.cons_cons k
  exact hsub.nodup (by decide)

lemma sortFields_keyed (args : Args) : sortFields (keyed args) = keyed args := by
  have htext : ∀ fs : List (String × Json), (∀ f ∈ fs, ∃ text, f.2 = .str text) →
      sortFields fs = fs := by
    intro fs
    induction fs with
    | nil => intro _; rfl
    | cons f fs ih =>
      intro hfs
      obtain ⟨k, v⟩ := f
      obtain ⟨text, rfl⟩ := hfs (k, v) List.mem_cons_self
      simp [sortFields, sortKeys, ih fun g hg => hfs g (List.mem_cons_of_mem _ hg)]
  refine htext _ fun f hf => ?_
  obtain ⟨-, text, -, hv⟩ := mem_keyed.1 hf
  exact ⟨text, hv⟩

lemma wellFormed_keyed (fund : String) (args : Args) :
    WellFormed (fun _ => (0, "")) (.obj [("fund", .str fund), ("args", .obj (keyed args))]) := by
  refine ⟨by simp, trivial, ⟨keys_keyed_nodup args, wellFormedFields_iff.2 fun f hf => ?_⟩,
    trivial⟩
  obtain ⟨-, text, -, hv⟩ := mem_keyed.1 hf
  rw [hv]
  trivial

lemma sortKeys_canonical (fund : String) (args : Args) :
    sortKeys (.obj [("fund", .str fund), ("args", .obj (keyed args))]) =
      .obj [("args", .obj ((keyed args).insertionSort fun a b => a.1 ≤ b.1)),
        ("fund", .str fund)] := by
  have hle : ¬("fund" ≤ "args") := by decide
  simp only [sortKeys, sortFields, sortFields_keyed, List.insertionSort_cons, List.insertionSort_nil,
    List.orderedInsert_nil, List.orderedInsert_cons, if_neg hle]

variable {fund : String} {args args' : Args}

/-- One key: the same text for each argument of the list. -/
theorem givenText_of_canonical (h : canonicalText fund args = canonicalText fund args') :
    ∀ k ∈ approvalKeys, givenText args k = givenText args' k := by
  have hsorted := dumps_inj (wellFormed_keyed fund args) (wellFormed_keyed fund args') h
  rw [sortKeys_canonical, sortKeys_canonical] at hsorted
  simp only [Json.obj.injEq, List.cons.injEq, Prod.mk.injEq, true_and, and_true] at hsorted
  have hperm : (keyed args).Perm (keyed args') := by
    have hfrom := (List.perm_insertionSort (fun a b => a.1 ≤ b.1) (keyed args)).symm
    rw [hsorted] at hfrom
    exact hfrom.trans (List.perm_insertionSort (fun a b => a.1 ≤ b.1) (keyed args'))
  have hmem : ∀ k ∈ approvalKeys, ∀ text, givenText args k = some text →
      givenText args' k = some text := by
    intro k hk text htext
    obtain ⟨-, text', htext', hv⟩ := mem_keyed.1 (hperm.mem_iff.1 (mem_keyed.2 ⟨hk, text, htext, rfl⟩))
    rw [htext', Json.str.inj hv]
  have hmem' : ∀ k ∈ approvalKeys, ∀ text, givenText args' k = some text →
      givenText args k = some text := by
    intro k hk text htext
    obtain ⟨-, text', htext', hv⟩ := mem_keyed.1 (hperm.mem_iff.2 (mem_keyed.2 ⟨hk, text, htext, rfl⟩))
    rw [htext', Json.str.inj hv]
  intro k hk
  exact Option.ext fun text => ⟨hmem k hk text, hmem' k hk text⟩

lemma blank_of_false {v : Json} (h : v.isBlank = true) : v.truthy = false := by
  cases v <;> simp_all [Json.isBlank, Json.truthy]

/-- Text that is read with any false value as none. -/
lemma argText_eq {k : String} (h : givenText args k = givenText args' k)
    (htruthy : (Json.lookup k args).truthy = (Json.lookup k args').truthy) :
    argText args k = argText args' k := by
  rw [argText, argText, Json.orEmpty, Json.orEmpty, htruthy]
  split_ifs with htrue
  · have hgiven : ∀ {a : Args}, (Json.lookup k a).truthy = true →
        givenText a k = some (Json.lookup k a).toStr := by
      intro a ha
      have hblank : (Json.lookup k a).isBlank = false := by
        by_contra hno
        rw [blank_of_false (by simpa using hno)] at ha
        cases ha
      simp [givenText, given, hblank]
    rw [hgiven (htruthy.trans htrue), hgiven htrue] at h
    exact Option.some.inj h
  · rfl

/-- `str(args.get(key, ""))` is the given text, or one of the two that stand for none. -/
lemma presentText_cases (args : Args) (k : String) :
    givenText args k = some (presentText args k) ∨
      givenText args k = none ∧ (presentText args k = "" ∨ presentText args k = "None") := by
  rw [givenText, given, JsonRecords.lookup_eq_entry, presentText]
  cases JsonRecords.entry k args with
  | none => exact Or.inr ⟨rfl, Or.inl rfl⟩
  | some v =>
    cases v with
    | null => exact Or.inr ⟨rfl, Or.inr rfl⟩
    | str s =>
      by_cases hs : s = ""
      · subst hs
        exact Or.inr ⟨rfl, Or.inl rfl⟩
      · exact Or.inl (by simp [Json.isBlank, hs])
    | _ => exact Or.inl rfl

lemma toBaseUnits_blank {text : String} (htext : text = "" ∨ text = "None") (decimals : ℕ) :
    (toBaseUnits text decimals true).toOption = none := by
  have hparts : decimalParts? (withoutSeparators text) = none := by
    rcases htext with rfl | rfl <;> decide +kernel
  have herror : toBaseUnits text decimals true =
      .error (.raised .units ("not a decimal amount: " ++ reprText text)) := by
    unfold toBaseUnits
    rw [hparts]
  rw [herror]
  rfl

/-- The settled amount is a matter of the keyed text. -/
lemma pnl_eq (h : givenText args "pnl" = givenText args' "pnl") (decimals : ℕ) :
    (toBaseUnits (presentText args "pnl") decimals true).toOption =
      (toBaseUnits (presentText args' "pnl") decimals true).toOption := by
  rcases presentText_cases args "pnl" with htext | ⟨hnone, hblank⟩
  · rcases presentText_cases args' "pnl" with htext' | ⟨hnone', -⟩
    · rw [htext, htext'] at h
      rw [Option.some.inj h]
    · rw [htext, hnone'] at h
      cases h
  · rcases presentText_cases args' "pnl" with htext' | ⟨-, hblank'⟩
    · rw [hnone, htext'] at h
      cases h
    · rw [toBaseUnits_blank hblank, toBaseUnits_blank hblank']

/-! ### One key, one effect -/

lemma toOption_bind {α β : Type} (x : Except Exc α) (f : α → Except Exc β) :
    (x >>= f).toOption = x.toOption.bind fun a => (f a).toOption := by
  cases x <;> rfl

lemma toOption_eq_some {α : Type} {x : Except Exc α} {a : α} :
    x.toOption = some a ↔ x = .ok a := by
  cases x <;> simp [Except.toOption]

variable {rt : Runtime} {caller : Caller} {clock : ℕ → Clock} {disk : Disk}

/-- Two handlers that plan alike and go on alike leave the same store. -/
lemma store_of_plans {α : Type} {plan plan' : Disk → Except Exc α} {k k' : α → DiskProg ToolReply}
    (hplan : (plan disk).toOption = (plan' disk).toOption) (hk : ∀ a, k a = k' a) :
    ((Prog.get >>= fun d => check (plan d) >>= k).run disk).store =
      ((Prog.get >>= fun d => check (plan' d) >>= k').run disk).store := by
  rw [run_get_bind, run_get_bind]
  cases hp : plan disk with
  | ok a =>
    rw [hp] at hplan
    have hp' : plan' disk = .ok a := toOption_eq_some.1 hplan.symm
    rw [hp', check_ok_bind, check_ok_bind, hk]
  | error e =>
    rw [hp] at hplan
    cases hp' : plan' disk with
    | ok a =>
      rw [hp'] at hplan
      cases hplan
    | error e' => rw [run_check_error_bind, run_check_error_bind]

section
variable (hkey : ∀ k ∈ approvalKeys, givenText args k = givenText args' k)
  (hfund : (rt.fundFor (Json.lookup "fund" args) disk).toOption =
    (rt.fundFor (Json.lookup "fund" args') disk).toOption)

include hkey hfund

lemma setup_store (h : ReadAlike .fundSetup args args') :
    ((fundSetup rt caller args clock).run disk).store =
      ((fundSetup rt caller args' clock).run disk).store := by
  have hasset := argText_eq (hkey "asset" (by decide)) (h.texts "asset" (by decide))
  have hhost := h.unkeyed "host_address" (by decide)
  have hints := h.ints
  have hsetup : ∀ agent, (setupArgs rt args agent).toOption = (setupArgs rt args' agent).toOption := by
    intro agent
    simp only [setupArgs, hasset, hhost, hkey "vault" (by decide), hkey "governor" (by decide),
      hkey "telegram_chat_id" (by decide), hkey "host_telegram_id" (by decide),
      hkey "max_capital" (by decide), toOption_bind, hints "max_drawdown_bps" (by decide),
      hints "voting_period" (by decide), hints "agent_fee_bps" (by decide)]
  refine store_of_plans ?_ fun p => rfl
  simp only [setupPlan, toOption_bind, hfund, hsetup]

lemma status_store (h : ReadAlike .fundSetProposalStatus args args') :
    ((fundSetProposalStatus rt caller args clock).run disk).store =
      ((fundSetProposalStatus rt caller args' clock).run disk).store := by
  have hid := argText_eq (hkey "proposal_id" (by decide)) (h.texts "proposal_id" (by decide))
  have hstatus := argText_eq (hkey "status" (by decide)) (h.texts "status" (by decide))
  have htx := argText_eq (hkey "tx_hash" (by decide)) (h.texts "tx_hash" (by decide))
  have hcard := h.unkeyed "card_message_id" (by decide)
  have hnote : (statusNote args).toOption = (statusNote args').toOption := by
    simp only [statusNote, htx, hcard, toOption_bind, h.ints "onchain_id" (by decide)]
  refine store_of_plans ?_ fun p => by rw [hid, hstatus]
  simp only [statusPlan, toOption_bind, hfund, hnote]

lemma settle_store (h : ReadAlike .fundRecordSettle args args') :
    ((fundRecordSettle rt caller args clock).run disk).store =
      ((fundRecordSettle rt caller args' clock).run disk).store := by
  have hid := argText_eq (hkey "proposal_id" (by decide)) (h.texts "proposal_id" (by decide))
  have htx := argText_eq (hkey "tx_hash" (by decide)) (h.texts "tx_hash" (by decide))
  have hpnl := pnl_eq (hkey "pnl" (by decide))
  refine store_of_plans ?_ fun p => by rw [hid]
  simp only [settlePlan, toOption_bind, hfund, htx, hpnl, h.pnlBps rfl]

lemma approveMember_store (h : ReadAlike .fundApproveMember args args') :
    ((fundApproveMember rt caller args clock).run disk).store =
      ((fundApproveMember rt caller args' clock).run disk).store := by
  have hmember := argText_eq (hkey "member" (by decide)) (h.texts "member" (by decide))
  have haddress := argText_eq (hkey "address" (by decide)) (h.texts "address" (by decide))
  have htx := argText_eq (hkey "tx_hash" (by decide)) (h.texts "tx_hash" (by decide))
  refine store_of_plans ?_ fun p => by rw [hmember, haddress, htx, h.texts "address" (by decide)]
  simp only [approveMemberPlan, toOption_bind, hfund]

omit hkey in
lemma agentPlan_store : (agentPlan rt caller args disk).toOption =
    (agentPlan rt caller args' disk).toOption := by
  simp only [agentPlan, toOption_bind, hfund]

lemma approveAgent_store (h : ReadAlike .fundApproveAgent args args') :
    ((fundApproveAgent rt caller args clock).run disk).store =
      ((fundApproveAgent rt caller args' clock).run disk).store := by
  have hagent := argText_eq (hkey "agent" (by decide)) (h.texts "agent" (by decide))
  have htx := argText_eq (hkey "tx_hash" (by decide)) (h.texts "tx_hash" (by decide))
  exact store_of_plans (agentPlan_store hfund) fun p => by rw [hagent, htx]; rfl

lemma removeAgent_store (h : ReadAlike .fundRemoveAgent args args') :
    ((fundRemoveAgent rt caller args clock).run disk).store =
      ((fundRemoveAgent rt caller args' clock).run disk).store := by
  have hagent := argText_eq (hkey "agent" (by decide)) (h.texts "agent" (by decide))
  exact store_of_plans (agentPlan_store hfund) fun p => by rw [hagent]

/-- Arguments that read alike under one key have one effect. -/
theorem hostTool_store (tool : HostTool) (h : ReadAlike tool args args') :
    ((runHostTool rt caller args clock tool).run disk).store =
      ((runHostTool rt caller args' clock tool).run disk).store := by
  cases tool with
  | fundSetup => exact setup_store hkey hfund h
  | fundApproveMember => exact approveMember_store hkey hfund h
  | fundApproveAgent => exact approveAgent_store hkey hfund h
  | fundRemoveAgent => exact removeAgent_store hkey hfund h
  | fundRecordSettle => exact settle_store hkey hfund h
  | fundSetProposalStatus => exact status_store hkey hfund h

end

/-! ### Where one key has two effects -/

/-- The argument can be written in two ways that the key does not tell apart and that leave
different stores. -/
def Leaks (tool : HostTool) (key : String) : Prop :=
  ∃ (rt : Runtime) (caller : Caller) (clock : ℕ → Clock) (disk : Disk) (fund : String)
    (args : Args) (v v' : Json),
    rt.fundFor (Json.lookup "fund" (setEntry key v args)) disk = .ok fund ∧
      rt.fundFor (Json.lookup "fund" (setEntry key v' args)) disk = .ok fund ∧
      canonicalText fund (setEntry key v args) = canonicalText fund (setEntry key v' args) ∧
      ((runHostTool rt caller (setEntry key v args) clock tool).run disk).store ≠
        ((runHostTool rt caller (setEntry key v' args) clock tool).run disk).store

def operator : Caller := {}

def aliceRuntime : Runtime := { settings := { agentName := "Iris", defaultFund := "alpha" } }

/-- A fund with a member, a guest agent and two proposals whose names read as JSON numbers. -/
def numberedDisk : Disk :=
  [("alpha", { sampleState with
    members := [{ telegramId := "0", address := "0x00000000000000000000000000000000000000c3" }]
    agents := sampleState.agents ++
      [{ sampleGuest with name := "0", requestedAt := 1000 }]
    proposals := [
      { id := "0", proposerAgent := "Iris", thesis := "up", status := .draft, topic := "TSLA" },
      { id := "p-1", proposerAgent := "Iris", thesis := "up", status := .executed,
        topic := "NVDA" }] })]

/-- The same fund, with the member's wallet known to the app alone and the first proposal run. -/
def linkedDisk : Disk :=
  numberedDisk.map fun e => (e.1, { e.2 with
    members := e.2.members.map fun m => { m with address := "" }
    proposals := e.2.proposals.map fun p => { p with status := .executed } })

def linkedRuntime : Runtime :=
  { aliceRuntime with applink := some fun _ _ => some "0x00000000000000000000000000000000000000c3" }

/-- A tool, the argument, its two values, the other arguments, the disk and the runtime. -/
structure LeakCase where
  tool : HostTool
  key : String
  left : Json
  right : Json
  args : Args := []
  disk : Disk := numberedDisk
  rt : Runtime := aliceRuntime

def hostAddressCase : LeakCase :=
  { tool := .fundSetup, key := "host_address",
    left := .str "0x00000000000000000000000000000000000000a1",
    right := .str "0x00000000000000000000000000000000000000e9", disk := [] }

def leakCases : List LeakCase :=
  [{ tool := .fundSetup, key := "asset", left := .int 0, right := .str "0", disk := [] },
   { tool := .fundSetup, key := "max_drawdown_bps", left := .bool true, right := .str "True",
     disk := [] },
   { tool := .fundSetup, key := "voting_period", left := .bool true, right := .str "True",
     disk := [] },
   { tool := .fundSetup, key := "agent_fee_bps", left := .bool true, right := .str "True",
     disk := [] },
   hostAddressCase,
   { tool := .fundApproveMember, key := "member", left := .int 0, right := .str "0" },
   { tool := .fundApproveMember, key := "address", left := .int 0, right := .str "0",
     args := [("member", .str "0")], disk := linkedDisk, rt := linkedRuntime },
   { tool := .fundApproveMember, key := "tx_hash", left := .int 0, right := .str "0",
     args := [("member", .str "0")] },
   { tool := .fundApproveAgent, key := "agent", left := .int 0, right := .str "0" },
   { tool := .fundApproveAgent, key := "tx_hash", left := .int 0, right := .str "0",
     args := [("agent", .str "0")] },
   { tool := .fundRemoveAgent, key := "agent", left := .int 0, right := .str "0" },
   { tool := .fundRecordSettle, key := "proposal_id", left := .int 0, right := .str "0",
     args := [("pnl", .str "1")], disk := linkedDisk },
   { tool := .fundRecordSettle, key := "tx_hash", left := .int 0, right := .str "0",
     args := [("proposal_id", .str "p-1"), ("pnl", .str "1")] },
   { tool := .fundRecordSettle, key := "pnl_bps", left := .bool true, right := .str "True",
     args := [("proposal_id", .str "p-1"), ("pnl", .str "1")] },
   { tool := .fundSetProposalStatus, key := "proposal_id", left := .int 0, right := .str "0",
     args := [("status", .str "proposed")] },
   { tool := .fundSetProposalStatus, key := "tx_hash", left := .int 0, right := .str "0",
     args := [("proposal_id", .str "0"), ("status", .str "proposed")] },
   { tool := .fundSetProposalStatus, key := "onchain_id", left := .bool true,
     right := .str "True", args := [("proposal_id", .str "0"), ("status", .str "proposed")] },
   { tool := .fundSetProposalStatus, key := "card_message_id", left := .str "1",
     right := .str "2", args := [("proposal_id", .str "0"), ("status", .str "proposed")] }]

def LeakCase.run (c : LeakCase) (v : Json) : Disk :=
  ((runHostTool c.rt operator (setEntry c.key v c.args) (fun _ => ⟨2000, 2000⟩)
    c.tool).run c.disk).store

/-- Arguments that two values of one text can disagree in, or that the key does not hold. -/
def leakKeys (tool : HostTool) : List String :=
  (leakCases.filter fun c => c.tool = tool).map (·.key)

lemma leakCases_run : ∀ c ∈ leakCases,
    c.rt.fundFor (Json.lookup "fund" (setEntry c.key c.left c.args)) c.disk = .ok "alpha" ∧
      c.rt.fundFor (Json.lookup "fund" (setEntry c.key c.right c.args)) c.disk = .ok "alpha" ∧
      canonicalText "alpha" (setEntry c.key c.left c.args) =
        canonicalText "alpha" (setEntry c.key c.right c.args) ∧
      c.run c.left ≠ c.run c.right := by
  decide +kernel

lemma leaks_of_mem {tool : HostTool} {key : String} (h : key ∈ leakKeys tool) :
    Leaks tool key := by
  obtain ⟨c, hc, rfl⟩ := List.mem_map.1 h
  obtain ⟨hmem, htool⟩ := List.mem_filter.1 hc
  obtain rfl : c.tool = tool := of_decide_eq_true htool
  exact ⟨_, _, _, _, _, _, _, _, leakCases_run c hmem⟩

/-! ### What the message shows -/

/-- Some call of the tool has another effect when this argument is set otherwise. -/
def CanChange (tool : HostTool) (key : String) : Prop :=
  ∃ (rt : Runtime) (caller : Caller) (clock : ℕ → Clock) (disk : Disk) (args : Args) (v : Json),
    ((runHostTool rt caller args clock tool).run disk).store ≠
      ((runHostTool rt caller (setEntry key v args) clock tool).run disk).store

/-- The message names the argument with its value whenever it is given. -/
def Shown (key : String) : Prop :=
  ∀ args text, givenText args key = some text → key ++ "=" ++ text ∈ shownItems args

lemma shown_iff {key : String} : Shown key ↔ key ∈ approvalKeys := by
  constructor
  · intro h
    by_contra hno
    have hitem := h [(key, .int 1)] "1" (by simp [givenText, given, Json.lookup, Json.isBlank]; rfl)
    simp only [shownItems, List.mem_filterMap, Option.map_eq_some_iff] at hitem
    obtain ⟨k, hk, text, htext, -⟩ := hitem
    have hne : key ≠ k := by
      rintro rfl
      exact hno hk
    simp [givenText, given, Json.lookup, hne, Json.isBlank] at htext
  · intro hk args text htext
    exact List.mem_filterMap.2 ⟨key, hk, by rw [htext]; rfl⟩

lemma find?_replaced {k key : String} (hne : k ≠ key) (v : Json) (args : Args) :
    (args.map fun f => if f.1 = key then (key, v) else f).find? (fun f => f.1 = k) =
      args.find? fun f => f.1 = k := by
  induction args with
  | nil => rfl
  | cons f fs ih =>
    by_cases hkey : f.1 = key
    · simp [hkey, hne.symm, ih]
    · simp only [List.map_cons, if_neg hkey, List.find?_cons, ih]

lemma entry_setEntry {k key : String} (hne : k ≠ key) (v : Json) (args : Args) :
    JsonRecords.entry k (setEntry key v args) = JsonRecords.entry k args := by
  rw [JsonRecords.entry, JsonRecords.entry, setEntry]
  split_ifs with hany
  · rw [find?_replaced hne]
  · simp [hne.symm]

lemma lookup_setEntry {k key : String} (hne : k ≠ key) (v : Json) (args : Args) :
    Json.lookup k (setEntry key v args) = Json.lookup k args := by
  rw [JsonRecords.lookup_eq_entry, JsonRecords.lookup_eq_entry, entry_setEntry hne]

lemma givenText_setEntry {k key : String} (hne : k ≠ key) (v : Json) (args : Args) :
    givenText (setEntry key v args) k = givenText args k := by
  rw [givenText, givenText, given, given, lookup_setEntry hne]

/-- An argument outside the list that the tool does not read leaves everything as read. -/
lemma readAlike_setEntry {tool : HostTool} {key : String} (hkey : key ∉ approvalKeys)
    (hunkeyed : key ∉ unkeyed tool) (v : Json) (args : Args) :
    ReadAlike tool args (setEntry key v args) := by
  have hne : ∀ k ∈ approvalKeys, k ≠ key := by
    rintro k hk rfl
    exact hkey hk
  have htexts : ∀ k ∈ textKeys tool, k ∈ approvalKeys := by cases tool <;> decide
  have hints : ∀ k ∈ intKeys tool, k ∈ approvalKeys := by cases tool <;> decide
  refine ⟨fun k hk => ?_, fun k hk => ?_, fun _ => ?_, fun k hk => ?_⟩
  · rw [lookup_setEntry (hne k (htexts k hk))]
  · rw [givenInt, givenInt, given, given, lookup_setEntry (hne k (hints k hk))]
  · rw [intOrZero, intOrZero, lookup_setEntry (hne "pnl_bps" (by decide))]
  · have hk : k ≠ key := by
      rintro rfl
      exact hunkeyed hk
    rw [argText, argText, lookup_setEntry hk]

lemma canChange_iff {tool : HostTool} {key : String} :
    (CanChange tool key → key = "fund" ∨ Shown key) ↔ key ∉ unkeyed tool := by
  constructor
  · intro h hunkeyed
    have hleak : key ∈ leakKeys tool ∧ key ≠ "fund" ∧ key ∉ approvalKeys := by
      have hall : ∀ tool, ∀ key ∈ unkeyed tool,
          key ∈ leakKeys tool ∧ key ≠ "fund" ∧ key ∉ approvalKeys := by
        intro tool
        cases tool <;> decide
      exact hall tool key hunkeyed
    obtain ⟨hmem, hfund, hkeyed⟩ := hleak
    obtain ⟨rt, caller, clock, disk, -, args, v, v', -, -, -, hstores⟩ := leaks_of_mem hmem
    have hchange : CanChange tool key := by
      -- one of the two values makes a difference to leaving the argument as it is
      by_contra hno
      have hsame : ∀ w, ((runHostTool rt caller args clock tool).run disk).store =
          ((runHostTool rt caller (setEntry key w args) clock tool).run disk).store := by
        intro w
        by_contra hne
        exact hno ⟨rt, caller, clock, disk, args, w, hne⟩
      exact hstores ((hsame v).symm.trans (hsame v'))
    rcases h hchange with rfl | hshown
    · exact hfund rfl
    · exact hkeyed (shown_iff.1 hshown)
  · rintro hunkeyed ⟨rt, caller, clock, disk, args, v, hstores⟩
    by_contra hno
    obtain ⟨hfund, hshown⟩ := not_or.1 hno
    have hkey : key ∉ approvalKeys := fun h => hshown (shown_iff.2 h)
    refine hstores (hostTool_store (fun k hk => ?_) ?_ tool (readAlike_setEntry hkey hunkeyed v args))
    · have hne : k ≠ key := by
        rintro rfl
        exact hkey hk
      rw [givenText_setEntry hne]
    · rw [lookup_setEntry (Ne.symm hfund)]

end SherwoodMonitor.Approvals
