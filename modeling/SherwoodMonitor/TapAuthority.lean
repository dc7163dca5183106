import SherwoodMonitor.ApprovalBinding
import SherwoodMonitor.BackToggling
import SherwoodMonitor.DeliveryPaths
import SherwoodMonitor.Library.Table
import SherwoodMonitor.Tools

/-! What a tap on a button can do to the funds (`telegram/handler.py`, `fund/telegram.py`), whoever
taps and whatever the button's data is, which anyone can forge. Each access to a state file is a
step of its own; others may write in between. A chain read that comes with a tap is a call of its
own. -/
namespace SherwoodMonitor.TapAuthority
open PyText PyNumber PyJson Lookup Models FundState Rules Service Calls Effects AtomicStore FundWrites FundDisk
  Tools Links LinkUrls PayloadCodecs DeliveryPaths ApprovalBinding MemberRecords MembershipRequests
open BackToggling (sideFor isAddress_toString slotFor_cases)
open Table (Grown)
open TallyIntegrity (mem_backers_marked mem_objectors_marked)

/-! ### The handlers -/

/-- What the handlers find: the app's client and the link builders, the tap, its user's name, the
times of a link and of the writes, and whether the user's join card was shown within the hour. -/
structure Setting where
  rt : Runtime
  bot : Bot
  tap : Tap
  username : String
  ts : ℤ
  clock : ℕ → Clock
  joinCardRecent : Bool

/-- `str(user.id)`. -/
def Setting.user (x : Setting) : String := toString x.tap.userId

def routeOf : HostBody → String
  | .depositor _ => "approve-depositor"
  | .register _ => "register-agent"

def jsonOf : HostBody → Json
  | .depositor body => .obj [("chainId", .int body.chainId), ("vault", .str body.vault),
      ("depositor", .str body.depositor)]
  | .register body => .obj [("chainId", .int body.chainId), ("vault", .str body.vault),
      ("agentAddress", .str body.agentAddress), ("agentId", .str body.agentId)]

section
variable (x : Setting)

/-- `_fund_record`. -/
def fundRecord : DiskProg (Option Fund) := do
  let disk ← Prog.get
  return (stateForChat disk x.tap.chatId).map (·.fund)

/-- The gateway's `toggle_backer`, and the bridge's. -/
def toggleBacker (arg : String) : DiskProg Unit := do
  match ← fundRecord x with
  | none => return ()
  | some fund => do
      let disk ← Prog.get
      match recordOf disk fund arg with
      | none => return ()
      | some (_, record) => do
          let _ ← runFundAct fund.name
            (.recordVote record.id x.user (sideFor record x.user) "member" "") (x.clock 0)
          return ()

/-- The user has asked to join, or is approved. -/
def hasAsked (st : FundState) (user : String) : Bool :=
  (st.member user).any fun m => m.2.approved || decide (m.2.joinedAt ≠ 0)

/-- The event of a join request that was written. -/
def tellRequest (name : String) : Except Exc Member → DiskProg Unit
  | .ok member => Prog.tell (.fund name (.memberRequested member))
  | .error _ => pure ()

/-- The bridge's `request_membership`, on the state that it loads. -/
def requestOnce (name : String) (st : FundState) : DiskProg Unit :=
  if hasAsked st x.user then pure ()
  else
    Prog.update (I := diskStore)
      (.write name (.op ⟨.act (.requestMembership x.user "" x.username), x.clock 0⟩))
      (tellRequest name)

/-- `_note_join_request`; whatever goes wrong in it, the link still goes out. -/
def noteJoinRequest : DiskProg Unit := do
  match ← fundRecord x with
  | none => return ()
  | some fund =>
      if x.joinCardRecent then return ()
      else do
        let disk ← Prog.get
        match disk.find fund.name with
        | none => return ()
        | some st => requestOnce x fund.name st

/-- The link of a vote on a proposal as `_cb_vote` sees it. -/
def voteLink (found : Fund) (view : ProposalView) : Option Link := do
  guard (view.status = .voting)
  let onchain ← view.onchain
  guard (x.bot.secret ≠ "")
  x.bot.link "vote"
    (.personal "vote" (.int x.tap.userId) none
      (some (orElse view.governor (fundToView found).governor)) (.int onchain) x.ts)

/-- `_cb_vote`. -/
def cbVote (found : Fund) (arg : String) : DiskProg (Option Link) := do
  match ← fundRecord x with
  | none => return none
  | some fund => do
      let disk ← Prog.get
      match recordOf disk fund arg with
      | none => return none
      | some (st, record) => return voteLink x found (proposalToView st.fund record)

/-- `_cb_fund_link`. -/
def cbFundLink (found : Fund) (action arg : String) : DiskProg (Option Link) := do
  if lower arg ≠ lower found.vault ∨ x.bot.secret = "" then return none
  else do
    if action = "join" then noteJoinRequest x
    return x.bot.link action
      (.personal action (.int x.tap.userId) (some (fundToView found).vault) none .null x.ts)

/-- `_cb_shipit`. -/
def cbShipit (arg : String) : DiskProg (Option Link) := do
  match ← fundRecord x with
  | none => return none
  | some fund => do
      let _ ← runFundAct fund.name (.shipDraft arg (some x.user)) (x.clock 0)
      return none

/-- `_cb_propose`. -/
def cbPropose (arg : String) : DiskProg (Option Link) := do
  match ← fundRecord x with
  | none => return none
  | some fund => do
      let disk ← Prog.get
      match recordOf disk fund arg with
      | none => return none
      | some (st, record) =>
          return (hostSigningCall st.fund record x.tap.userId x.ts).bind (x.bot.link "propose")

/-- `_host_actor`. -/
def hostActor (st : FundState) : Except Exc String :=
  match st.hostAgent with
  | none => .error (.raised .service "This fund has no host agent.")
  | some (_, host) => .ok host.name

/-- `_approve_member`. -/
def approveMember (fund : Fund) (tgId : ℤ) : DiskProg Unit := do
  let disk ← Prog.get
  let st ← check (disk.load fund.name)
  let actor ← check (hostActor st)
  check (require (checkCallerIsHost st (some x.user)))
  check (require (checkHostAction st actor))
  ensureMemberAddress x.rt fund.name (toString tgId) (x.clock 0)
  let disk ← Prog.get
  let st ← check (disk.load fund.name)
  let actor ← check (hostActor st)
  let _ ← runFundAct fund.name (.approveMember actor (toString tgId) "" "" (some x.user)) (x.clock 1)
  return ()

/-- `approve_agent` and `remove_agent` of the bridge. -/
def agentAction (fund : Fund) (act : String → Act) : DiskProg Unit := do
  let disk ← Prog.get
  let st ← check (disk.load fund.name)
  let actor ← check (hostActor st)
  let _ ← runFundAct fund.name (act actor) (x.clock 0)
  return ()

/-- `host_action_url`, for the link that `_cb_host_action` delivers. -/
def hostActionLink (action arg : String) : DiskProg (Option Link) := do
  match ← fundRecord x with
  | none => return none
  | some fund => do
      let disk ← Prog.get
      match disk.find fund.name with
      | none => return none
      | some st =>
          if x.bot.secret = "" then return none
          else
            return (hostActionBody st action arg).bind fun body =>
              x.bot.link "sign"
                (.sign st.fund.vault (routeOf body) (jsonOf body) (.int x.tap.userId) x.ts)

/-- `gw.approve_member`, `gw.approve_agent` or `gw.remove_agent`; the id of a member is a number. -/
def hostAction (action arg : String) (tgId : ℤ) : DiskProg Unit := do
  match ← fundRecord x with
  | none => Prog.raise (.raised .service "No fund is linked to this chat.")
  | some fund =>
      if action = "approve_member" then approveMember x fund tgId
      else if action = "approve_agent" then
        agentAction x fund fun actor => .approveAgent actor arg "" (some x.user)
      else agentAction x fund fun actor => .removeAgent actor arg (some x.user)

/-- `_cb_host_action`; an action that fails hands out no link. -/
def cbHostAction (action arg : String) : DiskProg (Option Link) := do
  if action = "approve_member" ∧ int? arg = none then return none
  else do
    hostAction x action arg ((int? arg).getD 0)
    if action = "remove_agent" then return none else hostActionLink x action arg

/-- The handler of an action. -/
def dispatch (found : Fund) (action arg : String) : DiskProg (Option Link) :=
  if action = "back" then do
    toggleBacker x arg
    return none
  else if action = "vote" then cbVote x found arg
  else if action ∈ ["deposit", "withdraw", "join"] then cbFundLink x found action arg
  else if action = "shipit" then cbShipit x arg
  else if action = "propose" then cbPropose x arg
  else if action ∈ ["approve_member", "approve_agent", "remove_agent"] then
    cbHostAction x action arg
  else pure none

/-- The tap gets no further than the check of the host. -/
def Refused (found : Fund) (action : String) : Prop :=
  action ∈ hostOnlyActions ∧ (fundToView found).hostTgId ≠ some x.tap.userId

instance (found : Fund) (action : String) : Decidable (Refused x found action) :=
  inferInstanceAs (Decidable (_ ∧ _))

/-- `on_callback`, on the state that its fund is looked up in. -/
def onCallbackOn (first : Disk) : DiskProg (Option Link) :=
  match parseCb x.tap.data with
  | none => pure none
  | some (action, arg) =>
      match if x.bot.chatAllowed x.tap.chatId then stateForChat first x.tap.chatId else none with
      | none => pure none
      | some st => if Refused x st.fund action then pure none else dispatch x st.fund action arg

def onCallback : DiskProg (Option Link) := do
  let disk ← Prog.get
  onCallbackOn x disk

end

/-! ### What a tap may do -/

/-- The fund of the name has the user as its host. -/
def HostOf (d : Disk) (user name : String) : Prop :=
  ∃ st, d.find name = some st ∧ st.fund.hostTelegramId = user

/-- The writes of a user's taps: the user's own mark, the user's own request to join, and those that
the fund's rules let its host alone do. The app's wallet of a member is filled in for the host. -/
inductive Writes (d : Disk) (user : String) : DiskOp → Prop
  | mark (name pid side : String) (clock : Clock) :
      Writes d user (.write name (.op ⟨.act (.recordVote pid user side "member" ""), clock⟩))
  | join (name username : String) (clock : Clock) :
      Writes d user (.write name (.op ⟨.act (.requestMembership user "" username), clock⟩))
  | ship (name pid : String) (clock : Clock) :
      Writes d user (.write name (.op ⟨.act (.shipDraft pid (some user)), clock⟩))
  | wallet {name : String} (who address : String) (clock : Clock) (h : HostOf d user name) :
      Writes d user (.write name (.op ⟨.act (.requestMembership who address ""), clock⟩))
  | approveMember (name actor who : String) (clock : Clock) :
      Writes d user (.write name (.op ⟨.act (.approveMember actor who "" "" (some user)), clock⟩))
  | approveAgent (name actor agent : String) (clock : Clock) :
      Writes d user (.write name (.op ⟨.act (.approveAgent actor agent "" (some user)), clock⟩))
  | removeAgent (name actor agent : String) (clock : Clock) :
      Writes d user (.write name (.op ⟨.act (.removeAgent actor agent (some user)), clock⟩))

/-- The links of a user: for a fund or a vote under the user's own id, and those that ask the host of
a fund to sign for its vault. -/
inductive Handed (d : Disk) (user : String) : Link → Prop
  | fund {name kind v : String} {st : FundState} (hfind : d.find name = some st)
      (hkind : kind ∈ fundLinkKinds) (hv : canonicalAddress st.fund.vault = .ok v) :
      Handed d user ⟨kind, .fund kind v user 0⟩
  | vote (g pid : String) : Handed d user ⟨"vote", .vote g pid user 0⟩
  | sign {name v : String} {st : FundState} (kind action body : String)
      (hfind : d.find name = some st) (hhost : st.fund.hostTelegramId = user)
      (hv : canonicalAddress st.fund.vault = .ok v) :
      Handed d user ⟨kind, .sign v action body user 0⟩

/-- Each wallet on file is one. -/
def WalletsOk (s : FundState) : Prop :=
  ∀ m ∈ s.members, m.address = "" ∨ isAddress m.address = true

/-- Each fund is stored once, and the wallets are in order. -/
structure DiskOk (d : Disk) : Prop where
  keys : (d.map (·.1)).Nodup
  wallets : ∀ e ∈ d, WalletsOk e.2

/-- The funds are those of `d`, under their names. -/
structure Same (d d' : Disk) : Prop where
  funds : d'.map (fun e => (e.1, e.2.fund)) = d.map fun e => (e.1, e.2.fund)
  ok : DiskOk d'

variable {x : Setting} {d d' : Disk} {s s' : FundState} {α : Type} {Q : α → Prop}
  {name user : String}

lemma find_fund (d : Disk) (name : String) : (d.find name).map (·.fund) =
    (List.find? (fun e => e.1 = name) (d.map fun e => (e.1, e.2.fund))).map (·.2) := by
  rw [Disk.find, List.find?_map, Option.map_map, Option.map_map]
  rfl

lemma Same.find (h : Same d d') (name : String) :
    (d'.find name).map (·.fund) = (d.find name).map (·.fund) := by
  rw [find_fund, find_fund, h.funds]

lemma Same.exists_find (h : Same d d') (hfind : d'.find name = some s) :
    ∃ st, d.find name = some st ∧ st.fund = s.fund := by
  have hsame := h.find name
  rw [hfind, Option.map_some] at hsame
  exact Option.map_eq_some_iff.1 hsame.symm

lemma Same.hostOf (h : Same d d') (hfind : d'.find name = some s)
    (hhost : s.fund.hostTelegramId = user) : HostOf d user name := by
  obtain ⟨st, hst, hfund⟩ := h.exists_find hfind
  exact ⟨st, hst, by rw [hfund, hhost]⟩

/-- The fund of a chat. -/
def chatFund (d : Disk) (chatId : ℤ) : Option Fund := (stateForChat d chatId).map (·.fund)

lemma Same.chatFund (h : Same d d') (chatId : ℤ) : chatFund d' chatId = chatFund d chatId := by
  have hfst : d'.map (·.1) = d.map (·.1) := by
    have hmap := congrArg (List.map Prod.fst) h.funds
    rwa [List.map_map, List.map_map] at hmap
  have hnames : d'.names = d.names := by rw [Disk.names, Disk.names, hfst]
  have hloaded : (loaded d').map (·.fund) = (loaded d).map (·.fund) := by
    rw [loaded, loaded, hnames, List.map_filterMap, List.map_filterMap]
    exact congrArg (fun f => List.filterMap f d.names) (funext h.find)
  have hfound : ∀ e : Disk, TapAuthority.chatFund e chatId = ((loaded e).map (·.fund)).find?
      fun fund => fund.telegramChatId ≠ "" && fund.telegramChatId = toString chatId := by
    intro e
    rw [TapAuthority.chatFund, stateForChat, List.find?_map]
    rfl
  rw [hfound, hfound, hloaded]

lemma exists_find_of_chatFund {chatId : ℤ} {fund : Fund} (h : chatFund d chatId = some fund) :
    ∃ name st, d.find name = some st ∧ st.fund = fund := by
  obtain ⟨st, hst, rfl⟩ := Option.map_eq_some_iff.1 h
  obtain ⟨name, -, hfind⟩ := List.mem_filterMap.1 (List.mem_of_find?_eq_some hst)
  exact ⟨name, st, hfind, rfl⟩

/-! ### The handlers keep to it -/

/-- The handler writes no more than the user's taps may, and ends with such a result. -/
abbrev Keeps (d : Disk) (x : Setting) (Q : α → Prop) (p : DiskProg α) : Prop :=
  p.Within (Same d) (Writes d x.user) Q

lemma keeps_check {e : Except Exc α} (h : ∀ a, e = .ok a → Q a) : Keeps d x Q (check e) := by
  cases e with
  | error e => exact .raise e
  | ok a => exact .pure (h a rfl)

lemma exec_write_act {a : Act} {clock : Clock} {r : a.Reply}
    (h : diskStore.exec (.write name (.op ⟨.act a, clock⟩)) d = .ok (r, d')) :
    ∃ st mid, d.find name = some st ∧ a.mutate clock.now st = .ok (r, mid) ∧
      d' = d.put name (bump mid clock.stamp) := by
  dsimp only [diskStore] at h
  rw [DiskOp.exec, bind_eq_ok] at h
  obtain ⟨st, hload, h⟩ := h
  rw [bind_eq_ok] at h
  obtain ⟨⟨reply, state⟩, hexec, heq⟩ := h
  obtain ⟨mid, hm, hstate⟩ := Op.exec_ok hexec
  obtain ⟨rfl, rfl⟩ := Prod.mk.inj (pure_eq_ok.1 heq)
  exact ⟨st, mid, load_eq_ok.1 hload, hm, by rw [hstate]⟩

/-- A write that goes through was made on a fund that is one of `d`. -/
lemma keeps_runFundAct {a : Act} {clock : Clock} {Q : a.Reply → Prop}
    (hop : Writes d x.user (.write name (.op ⟨.act a, clock⟩)))
    (hQ : ∀ d' st r mid, Same d d' → d'.find name = some st →
      a.mutate clock.now st = .ok (r, mid) → Q r) :
    Keeps d x Q (runFundAct name a clock) := by
  have hcall : Keeps d x Q (Prog.call (I := diskStore) (.write name (.op ⟨.act a, clock⟩))) :=
    @Prog.Within.call _ _ _ diskStore _ _ (.write name (.op ⟨.act a, clock⟩)) Q hop
      fun d' r s' hd h => by
        obtain ⟨st, mid, hfind, hm, -⟩ := exec_write_act h
        exact hQ d' st r mid hd hfind hm
  refine hcall.bind fun r hr => ?_
  cases a.event? r with
  | some ev => exact Prog.Within.bind (.tell _) fun _ _ => .pure hr
  | none => exact .pure hr

/-- The fund that the handlers find is the chat's. -/
lemma keeps_fundRecord {f : Option Fund → DiskProg α} (hnone : Keeps d x Q (f none))
    (h : ∀ fund, chatFund d x.tap.chatId = some fund → Keeps d x Q (f (some fund))) :
    Keeps d x Q (fundRecord x >>= f) := by
  have hfound : Keeps d x (fun fund => fund = chatFund d x.tap.chatId) (fundRecord x) :=
    .get_bind fun d' hd => .pure (hd.chatFund x.tap.chatId)
  refine hfound.bind fun fund hfund => ?_
  cases fund with
  | none => exact hnone
  | some fund => exact h fund hfund.symm

lemma keeps_toggleBacker (arg : String) : Keeps d x (fun _ => True) (toggleBacker x arg) := by
  refine keeps_fundRecord (.pure trivial) fun fund _ => .get_bind fun d' _ => ?_
  rcases recordOf d' fund arg with _ | ⟨st, record⟩
  · exact .pure trivial
  · exact Prog.Within.bind (keeps_runFundAct (Q := fun _ => True) (.mark ..)
      fun _ _ _ _ _ _ _ => trivial) fun _ _ => .pure trivial

lemma keeps_noteJoinRequest : Keeps d x (fun _ => True) (noteJoinRequest x) := by
  refine keeps_fundRecord (.pure trivial) fun fund _ => ?_
  dsimp only
  split_ifs
  · exact .pure trivial
  · refine .get_bind fun d' _ => ?_
    rcases d'.find fund.name with _ | st
    · exact .pure trivial
    · dsimp only
      unfold requestOnce
      split_ifs
      · exact .pure trivial
      · refine .update (.join ..) fun _ _ => ?_
        cases Except.map _ _ with
        | error e => exact .pure trivial
        | ok member => exact .tell _

lemma handed_voteLink {found : Fund} {view : ProposalView} {link : Link}
    (h : voteLink x found view = some link) : Handed d x.user link := by
  simp only [voteLink, Option.bind_eq_bind, Option.bind_eq_some_iff, Option.guard_eq_some'] at h
  obtain ⟨-, -, onchain, -, -, -, hlink⟩ := h
  obtain ⟨g, pid, -, -, -, -, rfl⟩ := (link_vote (by simp)).1 hlink
  exact .vote g pid

lemma keeps_cbVote (found : Fund) (arg : String) :
    Keeps d x (fun r => ∀ link ∈ r, Handed d x.user link) (cbVote x found arg) := by
  refine keeps_fundRecord (.pure (by simp)) fun fund _ => .get_bind fun d' _ => ?_
  rcases recordOf d' fund arg with _ | ⟨st, record⟩
  · exact .pure (by simp)
  · exact .pure fun link h => handed_voteLink h

lemma keeps_cbFundLink {found : Fund} {action : String} (arg : String)
    (hfound : chatFund d x.tap.chatId = some found) (haction : action ∈ fundLinkKinds) :
    Keeps d x (fun r => ∀ link ∈ r, Handed d x.user link) (cbFundLink x found action arg) := by
  have hlink : ∀ link ∈ x.bot.link action (.personal action (.int x.tap.userId)
      (some (fundToView found).vault) none .null x.ts), Handed d x.user link := by
    intro link h
    obtain ⟨name, st, hfind, rfl⟩ := exists_find_of_chatFund hfound
    obtain ⟨v, hv, -, -, rfl⟩ := (link_fund haction).1 h
    exact .fund hfind haction hv
  unfold cbFundLink
  split_ifs
  · exact .pure (by simp)
  · exact keeps_noteJoinRequest.bind fun _ _ => .pure hlink
  · exact .pure hlink

lemma keeps_cbShipit (arg : String) :
    Keeps d x (fun r => ∀ link ∈ r, Handed d x.user link) (cbShipit x arg) :=
  keeps_fundRecord (.pure (by simp)) fun _ _ =>
    Prog.Within.bind (keeps_runFundAct (Q := fun _ => True) (.ship ..)
      fun _ _ _ _ _ _ _ => trivial) fun _ _ => .pure (by simp)

lemma handed_sign {bot : Bot} {kind action : String} {body : Json} {userId ts : ℤ} {link : Link}
    {st : FundState} (hd : Same d d') (hfind : d'.find name = some st)
    (hhost : st.fund.hostTelegramId = toString userId)
    (h : bot.link kind (.sign st.fund.vault action body (.int userId) ts) = some link) :
    Handed d (toString userId) link := by
  obtain ⟨st₀, hfind₀, hfund⟩ := hd.exists_find hfind
  obtain ⟨v, hv, -, -, -, -, rfl⟩ := link_sign.1 h
  refine .sign kind action (encodeSignBody body) hfind₀ ?_ ?_
  · rw [hfund, hhost]
  · rw [hfund, hv]

/-- The signing link of a draft is made for the host that is on file. -/
lemma handed_propose {bot : Bot} {st : FundState} {record : ProposalRecord} {userId ts : ℤ}
    {call : LinkCall} {link : Link} (hd : Same d d') (hfind : d'.find name = some st)
    (hcall : hostSigningCall st.fund record userId ts = some call)
    (hlink : bot.link "propose" call = some link) : Handed d (toString userId) link := by
  rw [hostSigningCall] at hcall
  split_ifs at hcall with hstatus hhost
  dsimp only at hcall
  split_ifs at hcall with hready
  rw [not_or, not_not] at hhost
  rw [← Option.some.inj hcall] at hlink
  exact handed_sign hd hfind hhost.2.symm hlink

lemma recordOf_find {fund : Fund} {arg : String} {st : FundState} {record : ProposalRecord}
    (h : recordOf d fund arg = some (st, record)) : d.find fund.name = some st := by
  simp only [recordOf, Option.bind_eq_bind, Option.bind_eq_some_iff] at h
  obtain ⟨st', hfind, found, -, heq⟩ := h
  cases heq
  exact hfind

lemma keeps_cbPropose (arg : String) :
    Keeps d x (fun r => ∀ link ∈ r, Handed d x.user link) (cbPropose x arg) := by
  refine keeps_fundRecord (.pure (by simp)) fun fund _ => .get_bind fun d' hd => ?_
  cases hrecord : recordOf d' fund arg with
  | none => exact .pure (by simp)
  | some found =>
    obtain ⟨st, record⟩ := found
    refine .pure fun link h => ?_
    obtain ⟨call, hcall, hlink⟩ := Option.bind_eq_some_iff.1 h
    exact handed_propose hd (recordOf_find hrecord) hcall hlink

lemma keeps_ensureMemberAddress (who : String) (clock : Clock) (hhost : HostOf d x.user name) :
    Keeps d x (fun _ => True) (ensureMemberAddress x.rt name who clock) := by
  unfold ensureMemberAddress
  refine .get_bind fun d' _ => (keeps_check (Q := fun _ => True) fun _ _ => trivial).bind
    fun state _ => ?_
  dsimp only
  split_ifs
  · exact .pure trivial
  · rcases x.rt.applink with _ | linkedAddress
    · exact .pure trivial
    · refine Prog.Within.bind (.tell _) fun _ _ => ?_
      rcases linkedAddress state.fund.vault who with _ | address
      · exact .pure trivial
      · exact Prog.Within.bind (keeps_runFundAct (Q := fun _ => True) (.wallet _ _ _ hhost)
          fun _ _ _ _ _ _ _ => trivial) fun _ _ => .pure trivial

/-- The wallet is filled in and the member approved only where the user is the host. -/
lemma keeps_approveMember (fund : Fund) (tgId : ℤ) :
    Keeps d x (fun _ => HostOf d x.user fund.name) (approveMember x fund tgId) := by
  unfold approveMember
  refine .get_bind fun d' hd => ?_
  refine Prog.Within.bind (keeps_check (Q := fun st => d'.find fund.name = some st)
    fun st h => load_eq_ok.1 h) fun st hfind => ?_
  refine Prog.Within.bind (keeps_check (Q := fun _ => True) fun _ _ => trivial) fun actor _ => ?_
  refine Prog.Within.bind (keeps_check (Q := fun _ => HostOf d x.user fund.name) fun _ h => ?_)
    fun _ hhost => ?_
  · exact hd.hostOf hfind (checkCallerIsHost_some.1 (require_eq_ok.1 h)).2.symm
  refine Prog.Within.bind (keeps_check (Q := fun _ => True) fun _ _ => trivial) fun _ _ => ?_
  refine (keeps_ensureMemberAddress _ _ hhost).bind fun _ _ => .get_bind fun d'' _ => ?_
  refine Prog.Within.bind (keeps_check (Q := fun _ => True) fun _ _ => trivial) fun st _ => ?_
  refine Prog.Within.bind (keeps_check (Q := fun _ => True) fun _ _ => trivial) fun actor _ => ?_
  exact Prog.Within.bind (keeps_runFundAct (Q := fun _ => True) (.approveMember ..)
    fun _ _ _ _ _ _ _ => trivial) fun _ _ => .pure hhost

lemma keeps_agentAction (fund : Fund) (act : String → Act)
    (hop : ∀ actor clock, Writes d x.user (.write fund.name (.op ⟨.act (act actor), clock⟩)))
    (hhost : ∀ actor st now r mid, (act actor).mutate now st = .ok (r, mid) →
      (checkCallerIsHost st (some x.user)).ok = true) :
    Keeps d x (fun _ => HostOf d x.user fund.name) (agentAction x fund act) := by
  unfold agentAction
  refine .get_bind fun d' _ => ?_
  refine Prog.Within.bind (keeps_check (Q := fun _ => True) fun _ _ => trivial) fun st _ => ?_
  refine Prog.Within.bind (keeps_check (Q := fun _ => True) fun _ _ => trivial) fun actor _ => ?_
  refine Prog.Within.bind (keeps_runFundAct (Q := fun _ => HostOf d x.user fund.name) (hop _ _)
    fun d'' st r mid hd hfind h => ?_) fun _ h => .pure h
  exact hd.hostOf hfind (checkCallerIsHost_some.1 (hhost actor st _ r mid h)).2.symm

/-- A host's button that went through was tapped by the host of the chat's fund. -/
lemma keeps_hostAction (action arg : String) (tgId : ℤ) :
    Keeps d x (fun _ => ∀ fund, chatFund d x.tap.chatId = some fund → HostOf d x.user fund.name)
      (hostAction x action arg tgId) := by
  refine keeps_fundRecord (.raise _) fun fund hfund => ?_
  have hall : ∀ u : Unit, HostOf d x.user fund.name →
      ∀ fund', chatFund d x.tap.chatId = some fund' → HostOf d x.user fund'.name := by
    intro _ hhost fund' hfund'
    rw [hfund] at hfund'
    exact Option.some.inj hfund' ▸ hhost
  dsimp only
  split_ifs
  · exact (keeps_approveMember fund tgId).mono (fun _ h => h) hall
  · refine (keeps_agentAction fund _ (fun _ _ => .approveAgent ..) ?_).mono (fun _ h => h) hall
    exact fun actor st now r mid h => (approveAgent_ok h).1
  · refine (keeps_agentAction fund _ (fun _ _ => .removeAgent ..) ?_).mono (fun _ h => h) hall
    exact fun actor st now r mid h => (removeAgent_ok h).1

lemma keeps_hostActionLink (action arg : String)
    (hhost : ∀ fund, chatFund d x.tap.chatId = some fund → HostOf d x.user fund.name) :
    Keeps d x (fun r => ∀ link ∈ r, Handed d x.user link) (hostActionLink x action arg) := by
  refine keeps_fundRecord (.pure (by simp)) fun fund hfund => .get_bind fun d' hd => ?_
  cases hfind : d'.find fund.name with
  | none => exact .pure (by simp)
  | some st =>
    dsimp only
    split_ifs
    · exact .pure (by simp)
    · refine .pure fun link h => ?_
      obtain ⟨body, -, hlink⟩ := Option.bind_eq_some_iff.1 h
      obtain ⟨st₀, hfind₀, hid⟩ := hhost fund hfund
      obtain ⟨st₁, hfind₁, hst⟩ := hd.exists_find hfind
      obtain rfl : st₀ = st₁ := Option.some.inj (hfind₀.symm.trans hfind₁)
      exact handed_sign hd hfind (hst ▸ hid) hlink

lemma keeps_cbHostAction (action arg : String) :
    Keeps d x (fun r => ∀ link ∈ r, Handed d x.user link) (cbHostAction x action arg) := by
  unfold cbHostAction
  split_ifs
  · exact .pure (by simp)
  · exact (keeps_hostAction action arg _).bind fun _ _ => .pure (by simp)
  · exact (keeps_hostAction action arg _).bind fun _ h => keeps_hostActionLink action arg h

lemma keeps_dispatch {found : Fund} (action arg : String)
    (hfound : chatFund d x.tap.chatId = some found) :
    Keeps d x (fun r => ∀ link ∈ r, Handed d x.user link) (dispatch x found action arg) := by
  unfold dispatch
  split_ifs with hback hvote hlink
  · exact (keeps_toggleBacker arg).bind fun _ _ => .pure (by simp)
  · exact keeps_cbVote found arg
  · refine keeps_cbFundLink arg hfound ?_
    simp only [List.mem_cons, List.not_mem_nil, or_false] at hlink
    rcases hlink with rfl | rfl | rfl <;> decide
  · exact keeps_cbShipit arg
  · exact keeps_cbPropose arg
  · exact keeps_cbHostAction action arg
  · exact .pure (by simp)

/-- Whoever taps, and whatever the button says. -/
lemma keeps_onCallback : Keeps d x (fun r => ∀ link ∈ r, Handed d x.user link) (onCallback x) := by
  refine .get_bind fun d' hd => ?_
  unfold onCallbackOn
  rcases parseCb x.tap.data with _ | ⟨action, arg⟩
  · exact .pure (by simp)
  · dsimp only
    cases hst : if x.bot.chatAllowed x.tap.chatId then stateForChat d' x.tap.chatId else none with
    | none => exact .pure (by simp)
    | some st =>
      have hfound : chatFund d x.tap.chatId = some st.fund := by
        rw [← hd.chatFund, chatFund]
        split_ifs at hst
        rw [hst, Option.map_some]
      dsimp only
      by_cases hgate : Refused x st.fund action
      · rw [if_pos hgate]
        exact .pure (by simp)
      · rw [if_neg hgate]
        exact keeps_dispatch action arg hfound

/-! ### The command -/

lemma kind_of_startKind {code kind : String} (h : startKind code = some kind) :
    kind ∈ fundLinkKinds ∨ kind = "vote" ∨ kind = "propose" := by
  have hall : ∀ e ∈ startKinds, e.1 ∈ fundLinkKinds ∨ e.1 = "vote" ∨ e.1 = "propose" := by decide
  obtain ⟨e, he, rfl⟩ := Option.map_eq_some_iff.1 h
  exact hall e (List.mem_of_find?_eq_some he)

lemma exists_find_of_vault {vault : String} {st : FundState} (h : stateForVault d vault = some st) :
    ∃ name, d.find name = some st := by
  obtain ⟨name, -, hfind⟩ := List.mem_filterMap.1 (List.mem_of_find?_eq_some h)
  exact ⟨name, hfind⟩

/-- Without a proposal there is no link to vote on one. -/
lemma link_vote_null {bot : Bot} {governor : String} {userId ts : ℤ} :
    bot.link "vote" (.personal "vote" (.int userId) none (some governor) .null ts) = none := by
  have hkind : "vote" ∉ fundLinkKinds := by decide
  refine Option.eq_none_iff_forall_not_mem.2 fun link h => ?_
  obtain ⟨url, params, hbuild, -⟩ := link_eq_some.1 h
  simp only [LinkCall.build, bind_eq_ok] at hbuild
  obtain ⟨url', hurl, -⟩ := hbuild
  simp only [buildLink, if_neg hkind, if_true, bind_eq_ok, valueError] at hurl
  obtain ⟨tg, -, hurl⟩ := hurl
  cases hurl

lemma handed_startLink {bot : Bot} {kind : String} {item : Option String} {st : FundState}
    {userId ts : ℤ} {link : Link} (hd : Same d d') (hfind : d'.find name = some st)
    (hkind : kind ∈ fundLinkKinds ∨ kind = "vote" ∨ kind = "propose")
    (h : startLink bot d' kind item st.fund userId ts = some link) :
    Handed d (toString userId) link := by
  rw [startLink] at h
  simp only [Option.bind_eq_bind, Option.bind_eq_some_iff, Option.guard_eq_some'] at h
  obtain ⟨-, -, h⟩ := h
  by_cases hpropose : kind = "propose"
  · rw [if_pos hpropose] at h
    simp only [Option.bind_eq_some_iff, Option.guard_eq_some'] at h
    obtain ⟨-, -, call, hgateway, hlink⟩ := h
    simp only [gatewaySigningCall, Option.bind_eq_bind, Option.bind_eq_some_iff] at hgateway
    obtain ⟨found, -, ⟨st', record⟩, hrecord, hcall⟩ := hgateway
    rw [hpropose] at hlink
    exact handed_propose hd (recordOf_find hrecord) hcall hlink
  · rw [if_neg hpropose] at h
    simp only [Option.bind_eq_some_iff, Option.guard_eq_some'] at h
    obtain ⟨-, -, h⟩ := h
    by_cases hvote : kind = "vote"
    · rw [if_pos hvote, hvote] at h
      cases item with
      | none =>
        rw [Option.elim_none, link_vote_null] at h
        cases h
      | some item =>
        obtain ⟨g, pid, -, -, -, -, rfl⟩ := (link_vote (by simp)).1 h
        exact .vote g pid
    · rw [if_neg hvote] at h
      have hfund : kind ∈ fundLinkKinds := by tauto
      obtain ⟨st₀, hfind₀, hst⟩ := hd.exists_find hfind
      obtain ⟨v, hv, -, -, rfl⟩ := (link_fund hfund).1 h
      exact .fund hfind₀ hfund (hst ▸ hv)

lemma handed_cmdStart {bot : Bot} {text : String} {userId ts : ℤ} {link : Link} (hd : Same d d')
    (h : cmdStart bot d' text userId ts = some link) : Handed d (toString userId) link := by
  simp only [cmdStart, Option.bind_eq_bind, Option.bind_eq_some_iff] at h
  obtain ⟨payload, -, ⟨kind, vault, item⟩, hdecode, found, hfound, hlink⟩ := h
  obtain ⟨name, hfind⟩ := exists_find_of_vault hfound
  refine handed_startLink hd hfind ?_ hlink
  simp only [decodeStartPayload, Option.bind_eq_bind, Option.bind_eq_some_iff, Option.pure_def,
    Option.some.injEq, Prod.mk.injEq] at hdecode
  obtain ⟨⟨code, v, it⟩, -, kind', hkind, rfl, -⟩ := hdecode
  exact kind_of_startKind hkind

/-! ### What the writes leave alone -/

/-- An approved member of the fund has the id. -/
def ApprovedAs (s : FundState) (y : String) : Prop :=
  ∃ m ∈ s.members, m.telegramId = y ∧ m.approved = true

/-- The proposal is as it was, but for marks of those who may mark it. -/
structure SparedProposal (may : String → Prop) (p p' : ProposalRecord) : Prop where
  same : ∃ backers objectors updatedAt, p' = { p with backers, objectors, updatedAt }
  marks : ∀ y, ¬may y →
    (y ∈ p'.backers ↔ y ∈ p.backers) ∧ (y ∈ p'.objectors ↔ y ∈ p.objectors)

/-- The member is as it was, but for the name that one who tapped goes by. -/
def SparedMember (tapper : String → Prop) (m m' : Member) : Prop :=
  m' = m ∨ tapper m.telegramId ∧ ∃ username, m' = { m with username }

/-- Someone who tapped, and waits for an approval. -/
def Waiting (tapper : String → Prop) (m : Member) : Prop :=
  tapper m.telegramId ∧ ∃ telegramId joinedAt username, m = { telegramId, joinedAt, username }

/-- All that taps of strangers do to a fund: marks of approved members who tapped, and requests to
join of those who did. -/
structure Spared (tapper : String → Prop) (s s' : FundState) : Prop where
  rest : ∃ proposals members revision updatedAt,
    s' = { s with proposals, members, revision, updatedAt }
  proposals : Grown (SparedProposal fun y => tapper y ∧ ApprovedAs s y) (fun _ => False)
    s.proposals s'.proposals
  members : Grown (SparedMember tapper) (Waiting tapper) s.members s'.members

variable {tapper may : String → Prop} {s'' : FundState} {n : ℤ}

lemma sparedProposal_refl (p : ProposalRecord) : SparedProposal may p p :=
  ⟨⟨_, _, _, rfl⟩, fun _ _ => ⟨Iff.rfl, Iff.rfl⟩⟩

lemma sparedProposal_trans (p p' p'' : ProposalRecord) (h : SparedProposal may p p')
    (h' : SparedProposal may p' p'') : SparedProposal may p p'' := by
  obtain ⟨⟨b, o, t, rfl⟩, hmarks⟩ := h
  obtain ⟨⟨b', o', t', rfl⟩, hmarks'⟩ := h'
  refine ⟨⟨b', o', t', rfl⟩, fun y hy => ?_⟩
  exact ⟨(hmarks' y hy).1.trans (hmarks y hy).1, (hmarks' y hy).2.trans (hmarks y hy).2⟩

lemma sparedMember_refl (m : Member) : SparedMember tapper m m := Or.inl rfl

lemma sparedMember_trans (m m' m'' : Member) (h : SparedMember tapper m m')
    (h' : SparedMember tapper m' m'') : SparedMember tapper m m'' := by
  rcases h with rfl | ⟨hm, username, rfl⟩
  · exact h'
  · rcases h' with rfl | ⟨-, username', rfl⟩
    · exact Or.inr ⟨hm, username, rfl⟩
    · exact Or.inr ⟨hm, username', rfl⟩

lemma waiting_renamed (m m' : Member) (h : Waiting tapper m) (h' : SparedMember tapper m m') :
    Waiting tapper m' := by
  obtain ⟨hm, tid, joined, username, rfl⟩ := h
  rcases h' with rfl | ⟨-, username', rfl⟩
  · exact ⟨hm, tid, joined, username, rfl⟩
  · exact ⟨hm, tid, joined, username', rfl⟩

/-- Nobody gains or loses an approval. -/
lemma approvedAs_iff (h : Grown (SparedMember tapper) (Waiting tapper) s.members s'.members)
    (y : String) : ApprovedAs s' y ↔ ApprovedAs s y := by
  constructor
  · rintro ⟨m', hm', htid, happroved⟩
    obtain ⟨i, hi⟩ := List.getElem?_of_mem hm'
    cases hold : s.members[i]? with
    | none =>
      obtain ⟨-, tid, joined, username, rfl⟩ := h.came i m' hi hold
      cases happroved
    | some m =>
      obtain ⟨m'', hm'', hspared⟩ := h.kept i m hold
      obtain rfl : m'' = m' := Option.some.inj (hm''.symm.trans hi)
      refine ⟨m, List.mem_of_getElem? hold, ?_⟩
      rcases hspared with rfl | ⟨-, username, rfl⟩
      · exact ⟨htid, happroved⟩
      · exact ⟨htid, happroved⟩
  · rintro ⟨m, hm, htid, happroved⟩
    obtain ⟨i, hi⟩ := List.getElem?_of_mem hm
    obtain ⟨m', hm', hspared⟩ := h.kept i m hi
    refine ⟨m', List.mem_of_getElem? hm', ?_⟩
    rcases hspared with rfl | ⟨-, username, rfl⟩
    · exact ⟨htid, happroved⟩
    · exact ⟨htid, happroved⟩

lemma Spared.refl (s : FundState) : Spared tapper s s where
  rest := ⟨_, _, _, _, rfl⟩
  proposals := .refl sparedProposal_refl _
  members := .refl sparedMember_refl _

lemma Spared.trans (h : Spared tapper s s') (h' : Spared tapper s' s'') : Spared tapper s s'' where
  rest := by
    obtain ⟨ps, ms, r, t, rfl⟩ := h.rest
    obtain ⟨ps', ms', r', t', rfl⟩ := h'.rest
    exact ⟨ps', ms', r', t', rfl⟩
  proposals := by
    have hsame : (fun y => tapper y ∧ ApprovedAs s' y) = fun y => tapper y ∧ ApprovedAs s y :=
      funext fun y => by rw [approvedAs_iff h.members y]
    have hnext := h'.proposals
    rw [hsame] at hnext
    exact h.proposals.trans sparedProposal_trans (fun _ _ hno _ => hno) hnext
  members := h.members.trans sparedMember_trans waiting_renamed h'.members

lemma Spared.bump (h : Spared tapper s s') (stamp : Time) : Spared tapper s (bump s' stamp) where
  rest := by
    obtain ⟨ps, ms, r, t, rfl⟩ := h.rest
    exact ⟨ps, ms, r + 1, stamp, rfl⟩
  proposals := h.proposals
  members := h.members

/-- A record that a user's id finds is the user's own. -/
lemma own_member {j : ℕ} {m : Member} (hs : WalletsOk s)
    (hm : s.member (toString n) = some (j, m)) : m.telegramId = toString n := by
  have hkey : lookupKey (toString n) = toString n := by
    rw [lookupKey, strip_toString, lower_toString]
  have hgoes := goesBy_iff.1 (member_goesBy hm)
  rw [hkey] at hgoes
  refine hgoes.elim eq_of_lower_toString fun hwallet => ?_
  rcases hs m (List.mem_of_getElem? (member_getElem? hm)) with hempty | haddress
  · exact absurd hempty hwallet.1
  · rw [eq_of_lower_toString hwallet.2, isAddress_toString] at haddress
    cases haddress

/-- A vote of one who tapped. -/
lemma spared_recordVote {pid side : String} {now : Time} {r : ProposalRecord} (hs : WalletsOk s)
    (htapper : tapper (toString n))
    (h : recordVote pid (toString n) side "member" "" now s = .ok (r, s')) : Spared tapper s s' := by
  obtain ⟨i, old, hfind, rfl, ⟨hkind, -⟩ | ⟨-, j, m, hmember, hvote, hr⟩⟩ := recordVote_ok h
  · exact absurd hkind (by decide)
  have hown := own_member hs hmember
  have hne : toString n ≠ "" := fun hempty => by
    rw [member_eq, hempty, if_pos (by decide)] at hmember
    cases hmember
  rw [hown, if_neg hne] at hr
  obtain ⟨⟨m', hm', happroved⟩, -⟩ := checkMemberVote_ok.1 hvote
  rw [← Option.some.inj hm'] at happroved
  have hmay : tapper (toString n) ∧ ApprovedAs s (toString n) :=
    ⟨htapper, m, List.mem_of_getElem? (member_getElem? hmember), hown, happroved⟩
  refine ⟨⟨_, _, _, _, rfl⟩, .set sparedProposal_refl (proposal_getElem? hfind) ?_,
    .refl sparedMember_refl _⟩
  rw [hr]
  refine ⟨⟨_, _, _, rfl⟩, fun y hy => ?_⟩
  have hyne : y ≠ toString n := by
    rintro rfl
    exact hy hmay
  rw [mem_backers_marked, mem_objectors_marked]
  simp only [ne_eq, hyne, not_false_iff, and_true, and_false, or_false, iff_self, and_self]

/-- A request to join of one who tapped. -/
lemma spared_requestMembership {username : String} {now : Time} {r : Member} (hs : WalletsOk s)
    (htapper : tapper (toString n))
    (h : requestMembership (toString n) "" username now s = .ok (r, s')) : Spared tapper s s' := by
  obtain ⟨i, m, members, hslot, hr, rfl⟩ := requestMembership_ok h
  have hfill : withAddress m "" = m := by simp [withAddress]
  rw [hfill] at hr
  have hrenamed : tapper m.telegramId → SparedMember tapper m r := by
    intro hm
    rw [hr, withUsername]
    split_ifs
    · exact Or.inr ⟨hm, username, rfl⟩
    · exact sparedMember_refl m
  refine ⟨⟨_, _, _, _, rfl⟩, .refl sparedProposal_refl _, ?_⟩
  cases hfor : memberFor s (toString n) "" with
  | none =>
    rw [hfor] at hslot
    cases hslot
    have hnew : Waiting tapper r := by
      refine waiting_renamed _ r ?_ (hrenamed htapper)
      exact ⟨htapper, _, _, _, rfl⟩
    have hset : ∀ fresh : Member,
        (s.members ++ [fresh]).set s.members.length r = s.members ++ [r] := by simp
    dsimp only
    rw [hset]
    exact .concat sparedMember_refl hnew
  | some found =>
    obtain ⟨j, m'⟩ := found
    rw [hfor] at hslot
    cases hslot
    rcases memberFor_cases hfor with hm | ⟨-, hne, -⟩
    · refine .set sparedMember_refl (member_getElem? hm) (hrenamed ?_)
      rw [own_member hs hm]
      exact htapper
    · exact absurd rfl hne

/-! ### One write -/

lemma walletsOk_set {i : ℕ} {m r : Member} {members : List Member} (hs : WalletsOk s)
    (hslot : Slot s i m members) (hr : r.address = "" ∨ isAddress r.address = true) :
    ∀ b ∈ members.set i r, b.address = "" ∨ isAddress b.address = true := by
  intro b hb
  obtain ⟨j, hj⟩ := List.getElem?_of_mem hb
  rcases eq_or_ne j i with rfl | hne
  · rw [hslot.self r] at hj
    rw [← Option.some.inj hj]
    exact hr
  · rw [hslot.other r hne] at hj
    exact hs b (List.mem_of_getElem? hj)

/-- A wallet is checked before it is filled in. -/
lemma requested_address {tid address username : String} {now : Time} {r : Member}
    (hs : WalletsOk s) (h : requestMembership tid address username now s = .ok (r, s')) :
    r.address = "" ∨ isAddress r.address = true := by
  rcases hslot : slotFor s (memberFor s tid address) { telegramId := tid, joinedAt := now } with
    ⟨i, m, members⟩
  simp only [requestMembership, hslot, bind_eq_ok, refuseIf_eq_ok, pure_eq_ok, Prod.mk.injEq] at h
  obtain ⟨-, hok, rfl, -⟩ := h
  rw [withUsername_address, withAddress_address]
  split_ifs with hempty
  · by_cases haddress : address = ""
    · exact Or.inl haddress
    · refine Or.inr ?_
      by_contra hbad
      exact hok ⟨haddress, hempty, by simpa using hbad⟩
  · rcases slotFor_cases hslot with rfl | hm
    · exact absurd rfl hempty
    · exact hs m hm

lemma walletsOk_exec {w : Write} {r : w.Reply} (hs : WalletsOk s) (h : w.exec s = .ok (r, s')) :
    WalletsOk s' := by
  rcases members_exec h with ⟨a, clock, rfl, ha⟩ | ⟨⟨f, hmembers, hf⟩, -⟩
  · obtain ⟨mid, hm, rfl⟩ := Op.exec_ok h
    rcases ha with ⟨tid, address, username, rfl⟩ | ⟨actor, who, address, tx, caller, rfl⟩ <;>
      dsimp only [Update.mutate, Act.mutate] at hm
    · have hr := requested_address hs hm
      obtain ⟨i, m, members, hslotFor, -, rfl⟩ := requestMembership_ok hm
      exact walletsOk_set hs (slot_slotFor hslotFor) hr
    · obtain ⟨i, m, members, hslot, haddress, hr, -, rfl⟩ := approveMember_slot hm
      refine walletsOk_set hs (slot_approvalSlot hslot) (Or.inr ?_)
      rw [hr]
      exact haddress
  · intro m hm
    rw [hmembers] at hm
    obtain ⟨m₀, hm₀, rfl⟩ := List.mem_map.1 hm
    obtain ⟨k, hk⟩ := hf m₀
    rw [hk]
    exact hs m₀ hm₀

lemma mem_put {e : String × FundState} (h : e ∈ d.put name s) : e ∈ d ∨ e = (name, s) := by
  obtain ⟨e₀, he₀, rfl⟩ := List.mem_map.1 h
  split_ifs
  · exact Or.inr rfl
  · exact Or.inl he₀

lemma find_put (d : Disk) (name : String) (s : FundState) (other : String) :
    (d.put name s).find other =
      if other = name then (d.find name).map fun _ => s else d.find other := by
  induction d with
  | nil => simp [Disk.put, Disk.find]
  | cons e d ih =>
    by_cases he : e.1 = name
    · by_cases ho : other = name
      · subst ho
        simp [Disk.put, Disk.find, he]
      · have hne : ¬name = other := fun h => ho h.symm
        simp only [Disk.put, Disk.find, List.map_cons, he, if_true, List.find?_cons, hne,
          decide_false, if_neg ho] at ih ⊢
        exact ih
    · by_cases heo : e.1 = other
      · have ho : ¬other = name := by rwa [← heo]
        simp [Disk.put, Disk.find, heo, ho]
      · simp only [Disk.put, Disk.find, List.map_cons, he, if_false, List.find?_cons, heo,
          decide_false] at ih ⊢
        exact ih

lemma find_of_mem {e : String × FundState} (hkeys : (d.map (·.1)).Nodup) (he : e ∈ d) :
    d.find e.1 = some e.2 := by
  induction d with
  | nil => exact absurd he List.not_mem_nil
  | cons a d ih =>
    rw [List.map_cons, List.nodup_cons] at hkeys
    rcases List.mem_cons.1 he with rfl | he
    · simp [Disk.find]
    · have hne : ¬a.1 = e.1 := fun h => hkeys.1 (h ▸ List.mem_map_of_mem he)
      have hrest := ih hkeys.2 he
      simp only [Disk.find, List.find?_cons, hne, decide_false] at hrest ⊢
      exact hrest

lemma DiskOk.find (hd : DiskOk d) (hfind : d.find name = some s) : WalletsOk s := by
  obtain ⟨e, he, rfl⟩ := Option.map_eq_some_iff.1 hfind
  exact hd.wallets e (List.mem_of_find?_eq_some he)

lemma keys_put (d : Disk) (name : String) (s : FundState) :
    (d.put name s).map (·.1) = d.map (·.1) := by
  rw [Disk.put, List.map_map]
  refine List.map_congr_left fun e _ => ?_
  dsimp only [Function.comp_apply]
  split_ifs with he
  · exact he.symm
  · rfl

lemma DiskOk.put (hd : DiskOk d) (hs : WalletsOk s) : DiskOk (d.put name s) where
  keys := by
    rw [keys_put]
    exact hd.keys
  wallets := by
    intro e he
    rcases mem_put he with he | rfl
    · exact hd.wallets e he
    · exact hs

lemma DiskOk.exec {op : DiskOp} {r : op.Reply} (hd : DiskOk d)
    (h : diskStore.exec op d = .ok (r, d')) : DiskOk d' := by
  cases op with
  | create fund host clock =>
    simp only [diskStore, DiskOp.exec, bind_eq_ok, raiseIf_eq_ok, pure_eq_ok] at h
    obtain ⟨state, hcreate, -, hfresh, heq⟩ := h
    obtain ⟨-, rfl⟩ := Prod.mk.inj heq
    have hnew : WalletsOk state := by
      simp only [createFund, bind_eq_ok, pure_eq_ok] at hcreate
      obtain ⟨-, -, -, -, rfl⟩ := hcreate
      exact fun m hm => absurd hm List.not_mem_nil
    constructor
    · rw [List.map_append, List.nodup_append]
      refine ⟨hd.keys, List.nodup_singleton _, ?_⟩
      intro k hk k' hk' heq
      obtain ⟨e, he, rfl⟩ := List.mem_map.1 hk
      rw [List.map_singleton, List.mem_singleton] at hk'
      have hname : e.1 = state.fund.name := heq.trans hk'
      rw [← hname, find_of_mem hd.keys he] at hfresh
      exact hfresh (by simp)
    · intro e he
      rcases List.mem_append.1 he with he | he
      · exact hd.wallets e he
      · rw [List.mem_singleton.1 he]
        exact hnew
  | write name w =>
    dsimp only [diskStore] at h
    rw [DiskOp.exec, bind_eq_ok] at h
    obtain ⟨st, hload, h⟩ := h
    rw [bind_eq_ok] at h
    obtain ⟨⟨reply, st'⟩, hexec, heq⟩ := h
    obtain ⟨-, rfl⟩ := Prod.mk.inj (pure_eq_ok.1 heq)
    exact hd.put (walletsOk_exec (hd.find (load_eq_ok.1 hload)) hexec)

/-- What operations lead to from the empty disk. -/
lemma diskOk_runOps (ops : List DiskOp) : DiskOk (diskStore.runOps ops []) :=
  @Interface.runOps_preserves _ _ diskStore (fun _ => True) DiskOk
    (fun _ _ _ _ _ hd h => hd.exec h) ops (fun _ _ => trivial) [] ⟨by simp, by simp⟩

/-- Every fund is still there; one with a host who did not tap is spared. -/
def Step (tapper : String → Prop) (d d' : Disk) : Prop :=
  ∀ name st, d.find name = some st → ∃ st', d'.find name = some st' ∧ st'.fund = st.fund ∧
    ((∀ u, tapper u → st.fund.hostTelegramId ≠ u) → Spared tapper st st')

lemma step_refl (d : Disk) : Step tapper d d :=
  fun _ st h => ⟨st, h, rfl, fun _ => .refl st⟩

lemma step_trans (d d' d'' : Disk) (h : Step tapper d d') (h' : Step tapper d' d'') :
    Step tapper d d'' := by
  intro name st hfind
  obtain ⟨st', hfind', hfund, hspared⟩ := h name st hfind
  obtain ⟨st'', hfind'', hfund', hspared'⟩ := h' name st' hfind'
  refine ⟨st'', hfind'', hfund'.trans hfund, fun hstrange => ?_⟩
  exact (hspared hstrange).trans (hspared' (by rwa [hfund]))

/-- A state is written back under its fund's name. -/
lemma step_put {st mid : FundState} {stamp : Time} (hd : Same d d') (hfind : d'.find name = some st)
    (hwallets : WalletsOk mid) (hfund : mid.fund = st.fund)
    (hspared : (∀ u, tapper u → st.fund.hostTelegramId ≠ u) → Spared tapper st mid) :
    Same d (d'.put name (bump mid stamp)) ∧ Step tapper d' (d'.put name (bump mid stamp)) := by
  refine ⟨⟨?_, hd.ok.put hwallets⟩, fun other s hs => ?_⟩
  · rw [← hd.funds, Disk.put, List.map_map]
    refine List.map_congr_left fun e he => ?_
    dsimp only [Function.comp_apply]
    split_ifs with hname
    · have hown := find_of_mem hd.ok.keys he
      rw [hname, hfind] at hown
      rw [← Option.some.inj hown, hname]
      exact congrArg (Prod.mk name) hfund
    · rfl
  · rw [find_put]
    split_ifs with hother
    · subst hother
      obtain rfl : st = s := Option.some.inj (hfind.symm.trans hs)
      rw [hfind]
      exact ⟨_, rfl, hfund, fun h => (hspared h).bump stamp⟩
    · exact ⟨s, hs, rfl, fun _ => .refl s⟩

lemma walletsOk_act {a : Act} {now : Time} {r : a.Reply} (hs : WalletsOk s)
    (hm : a.mutate now s = .ok (r, s')) : WalletsOk s' :=
  have hwritten : WalletsOk (bump s' 0) :=
    walletsOk_exec (w := .op ⟨.act a, ⟨now, 0⟩⟩) hs (Op.exec_of_ok ⟨.act a, ⟨now, 0⟩⟩ hm)
  hwritten

/-- One write of a user's taps. -/
lemma writes_step {op : DiskOp} {r : op.Reply} {d'' : Disk} (hop : Writes d (toString n) op)
    (htapper : tapper (toString n)) (hd : Same d d')
    (h : diskStore.exec op d' = .ok (r, d'')) : Same d d'' ∧ Step tapper d' d'' := by
  -- a write that the rules let the host alone do
  have hhosts : ∀ (name : String) (st : FundState), HostOf d (toString n) name →
      d'.find name = some st → ¬∀ u, tapper u → st.fund.hostTelegramId ≠ u := by
    intro name st hhost hfind hstrange
    obtain ⟨st₀, hfind₀, hid⟩ := hhost
    obtain ⟨st₁, hfind₁, hfund⟩ := hd.exists_find hfind
    obtain rfl : st₀ = st₁ := Option.some.inj (hfind₀.symm.trans hfind₁)
    exact hstrange _ htapper (by rw [← hfund, hid])
  have hcaller : ∀ (name : String) (st : FundState), d'.find name = some st →
      (checkCallerIsHost st (some (toString n))).ok = true →
      ¬∀ u, tapper u → st.fund.hostTelegramId ≠ u := by
    intro name st hfind hok
    exact hhosts name st (hd.hostOf hfind (checkCallerIsHost_some.1 hok).2.symm) hfind
  cases hop with
  | mark name pid side clock =>
    obtain ⟨st, mid, hfind, hm, rfl⟩ := exec_write_act h
    have hs := hd.ok.find hfind
    have hwallets := walletsOk_act hs hm
    dsimp only [Act.mutate] at hm
    have hspared := spared_recordVote hs htapper hm
    obtain ⟨i, old, -, rfl, -⟩ := recordVote_ok hm
    exact step_put hd hfind hwallets rfl fun _ => hspared
  | join name username clock =>
    obtain ⟨st, mid, hfind, hm, rfl⟩ := exec_write_act h
    have hs := hd.ok.find hfind
    have hwallets := walletsOk_act hs hm
    dsimp only [Act.mutate] at hm
    have hspared := spared_requestMembership hs htapper hm
    obtain ⟨i, m, members, -, -, rfl⟩ := requestMembership_ok hm
    exact step_put hd hfind hwallets rfl fun _ => hspared
  | ship name pid clock =>
    obtain ⟨st, mid, hfind, hm, rfl⟩ := exec_write_act h
    have hwallets := walletsOk_act (hd.ok.find hfind) hm
    dsimp only [Act.mutate] at hm
    obtain ⟨hok, -, i, old, -, -, -, rfl⟩ := shipDraft_ok hm
    exact step_put hd hfind hwallets rfl fun hstrange => absurd hstrange (hcaller name st hfind hok)
  | @wallet name who address clock hhost =>
    obtain ⟨st, mid, hfind, hm, rfl⟩ := exec_write_act h
    have hwallets := walletsOk_act (hd.ok.find hfind) hm
    dsimp only [Act.mutate] at hm
    obtain ⟨i, m, members, -, -, rfl⟩ := requestMembership_ok hm
    exact step_put hd hfind hwallets rfl fun hstrange =>
      absurd hstrange (hhosts name st hhost hfind)
  | approveMember name actor who clock =>
    obtain ⟨st, mid, hfind, hm, rfl⟩ := exec_write_act h
    have hwallets := walletsOk_act (hd.ok.find hfind) hm
    dsimp only [Act.mutate] at hm
    obtain ⟨hok, -, members, no, rfl⟩ := approveMember_ok hm
    exact step_put hd hfind hwallets rfl fun hstrange => absurd hstrange (hcaller name st hfind hok)
  | approveAgent name actor agent clock =>
    obtain ⟨st, mid, hfind, hm, rfl⟩ := exec_write_act h
    have hwallets := walletsOk_act (hd.ok.find hfind) hm
    dsimp only [Act.mutate] at hm
    obtain ⟨hok, -, i, target, -, -, -, -, -, rfl⟩ := approveAgent_ok hm
    exact step_put hd hfind hwallets rfl fun hstrange => absurd hstrange (hcaller name st hfind hok)
  | removeAgent name actor agent clock =>
    obtain ⟨st, mid, hfind, hm, rfl⟩ := exec_write_act h
    have hwallets := walletsOk_act (hd.ok.find hfind) hm
    dsimp only [Act.mutate] at hm
    obtain ⟨hok, -, i, target, -, -, -, -, rfl⟩ := removeAgent_ok hm
    exact step_put hd hfind hwallets rfl fun hstrange => absurd hstrange (hcaller name st hfind hok)

/-! ### Any number of taps -/

/-- A tap, with what its user is handed. -/
def tapped (x : Setting) : DiskProg (Tap × Option Link) := do
  let link ← onCallback x
  return (x.tap, link)

/-- The disk and the handlers at work on it after a schedule of taps. -/
def afterTaps (d : Disk) (moves : List (Move Setting)) :
    Pool diskStore ToolEvent (Tap × Option Link) :=
  Pool.run tapped ⟨d, []⟩ moves

/-- Those who tap in a schedule. -/
def Taps (moves : List (Move Setting)) (u : String) : Prop :=
  ∃ x, Move.begin x ∈ moves ∧ x.user = u

lemma keeps_tapped {P : DiskOp → Prop} (hP : ∀ op, Writes d x.user op → P op) :
    (tapped x).Within (Same d) P fun r =>
      ∀ link ∈ r.2, Handed d (toString r.1.userId) link := by
  refine Prog.Within.bind (keeps_onCallback.mono hP fun _ h => h) fun link h => ?_
  exact .pure h

lemma afterTaps_within (ops : List DiskOp) (moves : List (Move Setting)) :
    Same (diskStore.runOps ops []) (afterTaps (diskStore.runOps ops []) moves).store ∧
      Step (Taps moves) (diskStore.runOps ops [])
        (afterTaps (diskStore.runOps ops []) moves).store ∧
      ∀ p ∈ (afterTaps (diskStore.runOps ops []) moves).procs,
        p.Within (Same (diskStore.runOps ops []))
          (fun op => ∃ x : Setting, Taps moves x.user ∧ Writes (diskStore.runOps ops []) x.user op)
          fun r => ∀ link ∈ r.2, Handed (diskStore.runOps ops []) (toString r.1.userId) link := by
  refine Pool.run_within tapped step_refl step_trans ?_ ⟨rfl, diskOk_runOps ops⟩ (by simp) ?_
  · rintro op d r d' ⟨x, htaps, hop⟩ hd h
    exact writes_step hop htaps hd h
  · exact fun x hx => keeps_tapped fun op hop => ⟨x, ⟨x, hx, rfl⟩, hop⟩

/-- A fund whose chat is bound, with a proposal that is open. -/
def openOps : List DiskOp :=
  .create sampleFund sampleHost ⟨1000, 1000⟩ ::
    .write "alpha" (.bind { telegramChatId := some "-1001" } 1001) ::
      BackToggling.openWrites.map (.write "alpha")

/-- A tap in the chat of the fund. -/
def tapOf (data : String) (userId : ℤ) : Setting where
  rt := { settings := { agentName := "Iris" } }
  bot := ⟨fun _ _ => 0, ⟨fun _ _ => "", by simp⟩, "secret", "https://app", fun _ => true, fun _ => true⟩
  tap := ⟨data, -1001, userId⟩
  username := ""
  ts := 3000
  clock := fun _ => ⟨3000, 3000⟩
  joinCardRecent := false

/-- The member backs the proposal while a stranger forges the host's button. -/
def forgedTaps : List (Move Setting) :=
  [.begin (tapOf "shfund:approve_member:7" 7), .begin (tapOf "shfund:back:p-1" 42)] ++
    (List.replicate 8 [Move.go 0, Move.go 1]).flatten

lemma user_of_forgedTaps {u : String} (h : Taps forgedTaps u) : u = "7" ∨ u = "42" := by
  obtain ⟨x, hx, rfl⟩ := h
  simp only [forgedTaps, List.replicate, List.flatten_cons, List.flatten_nil, List.cons_append,
    List.nil_append, List.mem_cons, List.not_mem_nil, Move.begin.injEq, reduceCtorEq, or_false] at hx
  rcases hx with rfl | rfl
  · exact Or.inl rfl
  · exact Or.inr rfl

end SherwoodMonitor.TapAuthority
