import SherwoodMonitor.AgentAuthority
import SherwoodMonitor.BackToggling
import SherwoodMonitor.Tools

/-! What `/fund-approve` is about (`fund/commands.py`). Its argument is an agent's name or wallet, or
a member's telegram id or wallet; agents are looked up first, and requesters choose their names. -/
namespace SherwoodMonitor.ApprovalTargets
open PyUnicode PyText Lookup Models FundState Rules Service Calls Effects AtomicStore FundWrites FundDisk Tools
  MemberRecords MembershipRequests AgentAuthority TallyIntegrity

/-- The four ways to name somebody. -/
inductive Kind
  | agentName | agentWallet | memberId | memberWallet
  deriving DecidableEq

instance : Fintype Kind :=
  ⟨{.agentName, .agentWallet, .memberId, .memberWallet}, fun k => by cases k <;> decide⟩

/-- The spellings that are compared. -/
def spellings (s : FundState) : Kind → List String
  | .agentName => s.agents.map fun a => lower a.name
  | .agentWallet => s.agents.map fun a => lower a.address
  | .memberId => s.members.map fun m => lower m.telegramId
  | .memberWallet => (s.members.filter fun m => m.address ≠ "").map fun m => lower m.address

/-- Somebody is named `x` in this way. -/
def Resolves (s : FundState) (k : Kind) (x : String) : Prop :=
  (k ≠ .agentName → lookupKey x ≠ "") ∧ lookupKey x ∈ spellings s k

instance (s : FundState) (k : Kind) (x : String) : Decidable (Resolves s k x) :=
  inferInstanceAs (Decidable (_ ∧ _))

/-- No string names somebody in two ways. -/
def Unambiguous (s : FundState) : Prop :=
  ∀ x k k', Resolves s k x → Resolves s k' x → k = k'

/-- The wallet that is filled in where a member has none. -/
def filledWallet (m : Member) (address : String) : List (Kind × String) :=
  if m.address = "" ∧ address ≠ "" then [(.memberWallet, address)] else []

/-- The names, ids and wallets that an operation writes into the records. -/
def written (s : FundState) : Act → List (Kind × String)
  | .requestAgent agent => [(.agentName, agent.name), (.agentWallet, agent.address)]
  | .requestMembership tid address _ =>
      match memberFor s tid address with
      | some (_, m) => filledWallet m address
      | none => [(.memberId, tid), (.memberWallet, address)]
  | .approveMember _ who address _ _ =>
      match memberFor s who address with
      | some (_, m) => filledWallet m address
      | none =>
          if isAddress who then [(.memberWallet, who)]
          else [(.memberId, who), (.memberWallet, address)]
  | _ => []

/-- What the operation writes names nobody in another way, and not each other. -/
structure ActFresh (s : FundState) (a : Act) : Prop where
  others : ∀ e ∈ written s a, ∀ k, k ≠ e.1 → ¬Resolves s k e.2
  apart : ∀ e ∈ written s a, ∀ e' ∈ written s a, e.1 ≠ e'.1 → lookupKey e.2 ≠ lookupKey e'.2

def WriteFresh (s : FundState) (w : Write) : Prop :=
  ∀ a clock, w = .op ⟨.act a, clock⟩ → ActFresh s a

/-! ### The command -/

/-- `raw.split()`. -/
def words (raw : String) : List String :=
  ((raw.toList.splitOnP isSpace).filter (· ≠ [])).map String.ofList

/-- `^0x[0-9a-fA-F]{64}$`. -/
def isTxHash (value : String) : Bool := isHexData value && (beforeDollar value).length = 66

inductive ApproveReply
  | usage
  | agent (agent : Agent) (body : RegisterBody)
  | member (member : Member) (body : DepositorBody)
  | unlinked (who : String)

/-- `fund_for` in a chat: the fund bound to the chat goes before the configured one. -/
def fundForChat (rt : Runtime) (chat : Option String) (disk : Disk) : Except Exc String :=
  let bound := chat.bind fun chat =>
    disk.names.find? fun name => (disk.find name).any (·.fund.telegramChatId = chat)
  match bound with
  | some name => .ok name
  | none => rt.fundFor .null disk

def approvePlan (rt : Runtime) (chat : Option String) (disk : Disk) :
    Except Exc (String × String × FundState) := do
  let name ← fundForChat rt chat disk
  let actor ← rt.agentName
  let state ← disk.load name
  return (name, actor, state)

/-- `approve_member`; a member without a wallet is told from the other refusals. -/
def approveMemberOf (name actor who address tx : String) (user : Option String) (clock : Clock) :
    DiskProg ApproveReply :=
  Prog.update (.write name (.op ⟨.act (.approveMember actor who address tx user), clock⟩)) fun
    | .ok reply => do
        let (member, body) := (reply : Member × DepositorBody)
        Prog.tell (.fund name (.memberApproved member body))
        return .member member body
    | .error (.rule code reason) =>
        if code = "missing_address" then pure (.unlinked who) else Prog.raise (.rule code reason)
    | .error e => Prog.raise e

/-- What the command does with the state it loaded. -/
def approveTarget (rt : Runtime) (user : Option String) (name actor who : String)
    (extra : List String) (clock : ℕ → Clock) (state : FundState) : DiskProg ApproveReply :=
  let address := (extra.find? isAddress).getD ""
  let tx := (extra.find? isTxHash).getD ""
  if (state.agent who).isSome ∨ (state.agentByAddress who).isSome then do
    let reply ← runFundAct name (.approveAgent actor who tx user) (clock 0)
    let (agent, body) := (reply : Agent × RegisterBody)
    return .agent agent body
  else do
    check (require (checkCallerIsHost state user))
    check (require (checkHostAction state actor))
    if address = "" then ensureMemberAddress rt name who (clock 0)
    approveMemberOf name actor who address tx user (clock 1)

def fundApproveOn (rt : Runtime) (user chat : Option String) (raw : String) (clock : ℕ → Clock)
    (disk : Disk) : DiskProg ApproveReply :=
  match words raw with
  | [] => pure .usage
  | who :: extra => do
      let (name, actor, state) ← check (approvePlan rt chat disk)
      approveTarget rt user name actor who extra clock state

/-- `fund_approve`. -/
def fundApprove (rt : Runtime) (user chat : Option String) (raw : String) (clock : ℕ → Clock) :
    DiskProg ApproveReply := do
  let disk ← Prog.get
  fundApproveOn rt user chat raw clock disk

/-- The operation approves no agent. -/
def SparesAgents (op : DiskOp) : Prop :=
  ∀ name actor target tx caller clock,
    op ≠ .write name (.op ⟨.act (.approveAgent actor target tx caller), clock⟩)

variable {s s' s₀ : FundState} {k : Kind} {x y : String} {now : Time}

/-! ### The lookups -/

lemma resolves_congr (h : lookupKey x = lookupKey y) : Resolves s k x ↔ Resolves s k y := by
  rw [Resolves, Resolves, h]

lemma agent_isSome : (s.agent x).isSome = true ↔ Resolves s .agentName x := by
  rw [← not_iff_not, Option.not_isSome_iff_eq_none, FundState.agent, locate_eq_none]
  simp [Resolves, spellings]

lemma agentByAddress_isSome : (s.agentByAddress x).isSome = true ↔ Resolves s .agentWallet x := by
  rw [← not_iff_not, Option.not_isSome_iff_eq_none, agentByAddress]
  split_ifs with hkey
  · simp [Resolves, hkey]
  · rw [locate_eq_none]
    simp [Resolves, spellings, hkey]

lemma member_isSome : (s.member x).isSome = true ↔
    Resolves s .memberId x ∨ Resolves s .memberWallet x := by
  constructor
  · intro h
    obtain ⟨⟨i, m⟩, hm⟩ := Option.isSome_iff_exists.1 h
    have hkey : lookupKey x ≠ "" := fun hkey => by
      rw [member_eq, if_pos hkey] at hm
      cases hm
    have hmem := List.mem_of_getElem? (member_getElem? hm)
    rcases goesBy_iff.1 (member_goesBy hm) with hid | ⟨hne, hwallet⟩
    · exact Or.inl ⟨fun _ => hkey, List.mem_map.2 ⟨m, hmem, hid⟩⟩
    · exact Or.inr ⟨fun _ => hkey, List.mem_map.2 ⟨m, by simp [hmem, hne], hwallet⟩⟩
  · intro h
    have hfound : lookupKey x ≠ "" ∧ ∃ m ∈ s.members, goesBy (lookupKey x) m = true := by
      rcases h with ⟨hkey, hx⟩ | ⟨hkey, hx⟩
      · obtain ⟨m, hm, hid⟩ := List.mem_map.1 hx
        exact ⟨hkey (by decide), m, hm, goesBy_iff.2 (Or.inl hid)⟩
      · obtain ⟨m, hm, hwallet⟩ := List.mem_map.1 hx
        simp only [List.mem_filter, decide_eq_true_eq] at hm
        exact ⟨hkey (by decide), m, hm.1, goesBy_iff.2 (Or.inr ⟨hm.2, hwallet⟩)⟩
    obtain ⟨hkey, m, hm, hgoes⟩ := hfound
    obtain ⟨r, hr⟩ := exists_locate hm hgoes
    rw [member_eq, if_neg hkey, hr]
    rfl

/-! ### What a write adds -/

/-- Who is named after the write was named before, or is named by what was written. -/
def Adds (s s' : FundState) (new : List (Kind × String)) : Prop :=
  ∀ k x, Resolves s' k x → Resolves s k x ∨ ∃ e ∈ new, e.1 = k ∧ lookupKey e.2 = lookupKey x

lemma adds_of_same {new : List (Kind × String)} (h : ∀ k, spellings s' k = spellings s k) :
    Adds s s' new := by
  intro k x hx
  rw [Resolves, h] at hx
  exact Or.inl hx

/-- Records of the agents with what they are spelled by. -/
lemma adds_of_agents {new : List (Kind × String)} (hmembers : s'.members = s.members)
    (h : ∀ a ∈ s'.agents,
      ((∃ b ∈ s.agents, lower b.name = lower a.name) ∨ (.agentName, a.name) ∈ new) ∧
      ((∃ b ∈ s.agents, lower b.address = lower a.address) ∨ (.agentWallet, a.address) ∈ new)) :
    Adds s s' new := by
  rintro k x ⟨hkey, hx⟩
  cases k with
  | agentName =>
    obtain ⟨a, ha, heq⟩ := List.mem_map.1 hx
    rcases (h a ha).1 with ⟨b, hb, hsame⟩ | hnew
    · exact Or.inl ⟨hkey, List.mem_map.2 ⟨b, hb, hsame.trans heq⟩⟩
    · exact Or.inr ⟨_, hnew, rfl, lookupKey_of_lower heq⟩
  | agentWallet =>
    obtain ⟨a, ha, heq⟩ := List.mem_map.1 hx
    rcases (h a ha).2 with ⟨b, hb, hsame⟩ | hnew
    · exact Or.inl ⟨hkey, List.mem_map.2 ⟨b, hb, hsame.trans heq⟩⟩
    · exact Or.inr ⟨_, hnew, rfl, lookupKey_of_lower heq⟩
  | memberId =>
    rw [spellings, hmembers] at hx
    exact Or.inl ⟨hkey, hx⟩
  | memberWallet =>
    rw [spellings, hmembers] at hx
    exact Or.inl ⟨hkey, hx⟩

/-- Records of the members with what they are spelled by. -/
lemma adds_of_members {new : List (Kind × String)} (hagents : s'.agents = s.agents)
    (h : ∀ m ∈ s'.members,
      (m.telegramId = "" ∨ (∃ b ∈ s.members, b.telegramId = m.telegramId) ∨
        (.memberId, m.telegramId) ∈ new) ∧
      (m.address = "" ∨ (∃ b ∈ s.members, b.address = m.address) ∨
        (.memberWallet, m.address) ∈ new)) :
    Adds s s' new := by
  rintro k x ⟨hkey, hx⟩
  cases k with
  | agentName =>
    rw [spellings, hagents] at hx
    exact Or.inl ⟨hkey, hx⟩
  | agentWallet =>
    rw [spellings, hagents] at hx
    exact Or.inl ⟨hkey, hx⟩
  | memberId =>
    obtain ⟨m, hm, heq⟩ := List.mem_map.1 hx
    rcases (h m hm).1 with hempty | ⟨b, hb, hsame⟩ | hnew
    · rw [hempty] at heq
      exact absurd heq.symm (hkey (by decide))
    · exact Or.inl ⟨hkey, List.mem_map.2 ⟨b, hb, by rw [hsame, heq]⟩⟩
    · exact Or.inr ⟨_, hnew, rfl, lookupKey_of_lower heq⟩
  | memberWallet =>
    obtain ⟨m, hm, heq⟩ := List.mem_map.1 hx
    simp only [List.mem_filter, decide_eq_true_eq] at hm
    rcases (h m hm.1).2 with hempty | ⟨b, hb, hsame⟩ | hnew
    · exact absurd hempty hm.2
    · refine Or.inl ⟨hkey, List.mem_map.2 ⟨b, ?_, by rw [hsame, heq]⟩⟩
      simp [hb, hsame, hm.2]
    · exact Or.inr ⟨_, hnew, rfl, lookupKey_of_lower heq⟩

/-- An unambiguous state stays so where what is written is fresh. -/
lemma unambiguous_of_adds {a : Act} (hs : Unambiguous s) (hfresh : ActFresh s a)
    (hadds : Adds s s' (written s a)) : Unambiguous s' := by
  intro x k k' hk hk'
  rcases hadds k x hk with hold | ⟨e, he, rfl, hx⟩
  · rcases hadds k' x hk' with hold' | ⟨e', he', rfl, hx'⟩
    · exact hs x k k' hold hold'
    · by_contra hne
      exact hfresh.others e' he' k hne ((resolves_congr hx').2 hold)
  · rcases hadds k' x hk' with hold' | ⟨e', he', rfl, hx'⟩
    · by_contra hne
      exact hfresh.others e he k' (Ne.symm hne) ((resolves_congr hx).2 hold')
    · by_contra hne
      exact hfresh.apart e he e' he' hne (hx.trans hx'.symm)

/-! ### Each write -/

lemma adds_agents_set {new : List (Kind × String)} {i : ℕ} {old r : Agent}
    (hmembers : s'.members = s.members) (hagents : s'.agents = s.agents.set i r)
    (hold : s.agents[i]? = some old) (hname : r.name = old.name)
    (haddress : r.address = old.address ∨ (.agentWallet, r.address) ∈ new) : Adds s s' new := by
  refine adds_of_agents hmembers fun a ha => ?_
  rw [hagents] at ha
  rcases mem_set_cases ha with rfl | ha
  · have hmem := List.mem_of_getElem? hold
    refine ⟨Or.inl ⟨old, hmem, by rw [hname]⟩, haddress.imp_left fun h => ⟨old, hmem, by rw [h]⟩⟩
  · exact ⟨Or.inl ⟨a, ha, rfl⟩, Or.inl ⟨a, ha, rfl⟩⟩

lemma approvedAgent_address (target : Agent) (tx : String) :
    (approvedAgent target tx now).address = target.address := by
  rw [approvedAgent]
  split_ifs <;> rfl

lemma adds_requestAgent {agent r : Agent} (h : requestAgent agent now s = .ok (r, s')) :
    Adds s s' (written s (.requestAgent agent)) := by
  have hjoined : ∀ kept : List Agent, (∀ a ∈ kept, a ∈ s.agents) →
      Adds s { s with agents := kept ++ [joinedAgent agent now] } (written s (.requestAgent agent)) := by
    intro kept hkept
    refine adds_of_agents rfl fun a ha => ?_
    rcases List.mem_append.1 ha with ha | ha
    · exact ⟨Or.inl ⟨a, hkept a ha, rfl⟩, Or.inl ⟨a, hkept a ha, rfl⟩⟩
    · rw [List.mem_singleton.1 ha]
      exact ⟨Or.inr (by simp [written, joinedAgent]), Or.inr (by simp [written, joinedAgent])⟩
  obtain ⟨-, -, ⟨i, old, -, -, rfl, rfl⟩ | ⟨i, old, hold, -, -, rfl, rfl⟩ | ⟨-, rfl, rfl⟩⟩ :=
    requestAgent_ok h
  · exact hjoined _ fun a ha => List.mem_of_mem_erase ha
  · exact adds_agents_set rfl rfl (agent_getElem? hold) rfl
      (Or.inr (by simp [written, rejoinedAgent]))
  · exact hjoined _ fun a ha => ha

/-- A member's record written back, in its place or in a new one. -/
lemma adds_members_set {new : List (Kind × String)} {i : ℕ} {m r : Member} {members : List Member}
    (hagents : s'.agents = s.agents) (hmembers : s'.members = members.set i r)
    (hslot : Slot s i m members)
    (hid : r.telegramId = "" ∨ (∃ b ∈ s.members, b.telegramId = r.telegramId) ∨
      (.memberId, r.telegramId) ∈ new)
    (hwallet : r.address = "" ∨ (∃ b ∈ s.members, b.address = r.address) ∨
      (.memberWallet, r.address) ∈ new) : Adds s s' new := by
  refine adds_of_members hagents fun b hb => ?_
  rw [hmembers] at hb
  obtain ⟨j, hj⟩ := List.getElem?_of_mem hb
  rcases eq_or_ne j i with rfl | hne
  · rw [hslot.self] at hj
    rw [← Option.some.inj hj]
    exact ⟨hid, hwallet⟩
  · rw [hslot.other r hne] at hj
    have hmem := List.mem_of_getElem? hj
    exact ⟨Or.inr (Or.inl ⟨b, hmem, rfl⟩), Or.inr (Or.inl ⟨b, hmem, rfl⟩)⟩

/-- The wallet of a found record after it is filled in. -/
lemma filled_cases {m : Member} {address : String} (hm : m ∈ s.members) :
    (withAddress m address).address = "" ∨
      (∃ b ∈ s.members, b.address = (withAddress m address).address) ∨
        (.memberWallet, (withAddress m address).address) ∈ filledWallet m address := by
  rw [withAddress_address]
  by_cases hempty : m.address = ""
  · rw [if_pos hempty]
    by_cases haddress : address = ""
    · exact Or.inl haddress
    · exact Or.inr (Or.inr (by simp [filledWallet, hempty, haddress]))
  · rw [if_neg hempty]
    exact Or.inr (Or.inl ⟨m, hm, rfl⟩)

lemma adds_requestMembership {tid address username : String} {r : Member}
    (h : requestMembership tid address username now s = .ok (r, s')) :
    Adds s s' (written s (.requestMembership tid address username)) := by
  obtain ⟨i, m, members, hslotFor, hr, rfl⟩ := requestMembership_ok h
  have htid : r.telegramId = m.telegramId := by
    rw [hr, withUsername_telegramId, withAddress_telegramId]
  have haddress : r.address = (withAddress m address).address := by rw [hr, withUsername_address]
  refine adds_members_set rfl rfl (slot_slotFor hslotFor) ?_ ?_
  · rw [htid]
    cases hfor : memberFor s tid address with
    | none =>
      rw [hfor] at hslotFor
      cases hslotFor
      exact Or.inr (Or.inr (by simp [written, hfor]))
    | some found =>
      obtain ⟨j, m'⟩ := found
      rw [hfor] at hslotFor
      cases hslotFor
      exact Or.inr (Or.inl ⟨m, List.mem_of_getElem? (memberFor_getElem? hfor), rfl⟩)
  · rw [haddress]
    cases hfor : memberFor s tid address with
    | none =>
      rw [hfor] at hslotFor
      cases hslotFor
      rw [withAddress_address, if_pos rfl]
      exact Or.inr (Or.inr (by simp [written, hfor]))
    | some found =>
      obtain ⟨j, m'⟩ := found
      rw [hfor] at hslotFor
      cases hslotFor
      have hcases := @filled_cases s m address (List.mem_of_getElem? (memberFor_getElem? hfor))
      simpa only [written, hfor] using hcases

lemma adds_approveMember {actor who address tx : String} {caller : Option String}
    {r : Member × DepositorBody}
    (h : approveMember actor who address tx caller now s = .ok (r, s')) :
    Adds s s' (written s (.approveMember actor who address tx caller)) := by
  obtain ⟨i, m, members, hslot, -, hr, -, rfl⟩ := approveMember_slot h
  have htid : r.1.telegramId = m.telegramId := by
    rw [hr, ← withAddress_telegramId m address]
    rfl
  have haddress : r.1.address = (withAddress m address).address := by rw [hr]; rfl
  refine adds_members_set rfl rfl (slot_approvalSlot hslot) ?_ ?_
  · rw [htid]
    rcases approvalSlot_cases hslot with ⟨hfor, -⟩ | ⟨hnone, -, -, ⟨hwho, rfl⟩ | ⟨hwho, -, rfl⟩⟩
    · exact Or.inr (Or.inl ⟨m, List.mem_of_getElem? (memberFor_getElem? hfor), rfl⟩)
    · exact Or.inl rfl
    · exact Or.inr (Or.inr (by simp [written, hnone, hwho]))
  · rw [haddress]
    rcases approvalSlot_cases hslot with ⟨hfor, -⟩ | ⟨hnone, -, -, ⟨hwho, rfl⟩ | ⟨hwho, hne, rfl⟩⟩
    · have hcases := @filled_cases s m address (List.mem_of_getElem? (memberFor_getElem? hfor))
      simpa only [written, hfor] using hcases
    · have hne : who ≠ "" := by
        rintro rfl
        rw [isAddress_empty] at hwho
        cases hwho
      rw [withAddress_address, if_neg hne]
      exact Or.inr (Or.inr (by simp [written, hnone, hwho]))
    · rw [withAddress_address, if_neg hne]
      exact Or.inr (Or.inr (by simp [written, hnone, hwho]))

lemma adds_act {a : Act} {r : a.Reply} (h : a.mutate now s = .ok (r, s')) :
    Adds s s' (written s a) := by
  rcases (actFrame h).agents with
    (⟨agent, rfl⟩ | ⟨actor, name, tx, caller, rfl⟩ | ⟨actor, name, caller, rfl⟩) | hagents
  · dsimp only [Act.mutate] at h
    exact adds_requestAgent h
  · dsimp only [Act.mutate] at h
    obtain ⟨-, -, i, target, hfound, -, -, hr, -, rfl⟩ := approveAgent_ok h
    refine adds_agents_set rfl rfl (targetAgent_getElem? hfound) ?_ (Or.inl ?_)
    · rw [hr, approvedAgent_name]
    · rw [hr, approvedAgent_address]
  · dsimp only [Act.mutate] at h
    obtain ⟨-, -, i, target, hfound, -, -, rfl, rfl⟩ := removeAgent_ok h
    exact adds_agents_set rfl rfl (targetAgent_getElem? hfound) rfl (Or.inl rfl)
  · rcases members_mutate h with
      (⟨tid, address, username, rfl⟩ | ⟨actor, who, address, tx, caller, rfl⟩) | ⟨hmembers, -⟩
    · dsimp only [Act.mutate] at h
      exact adds_requestMembership h
    · dsimp only [Act.mutate] at h
      exact adds_approveMember h
    · exact adds_of_same fun k => by cases k <;> simp only [spellings, hagents, hmembers]

/-- A card, a change of status and the writes of the operator name nobody anew. -/
lemma adds_exec {w : Write} {r : w.Reply} (h : w.exec s = .ok (r, s')) :
    (∃ a clock, w = .op ⟨.act a, clock⟩ ∧ Adds s s' (written s a)) ∨ Adds s s' [] := by
  rcases frame_of_exec h with ⟨⟨u, clock⟩, rfl⟩ | ⟨-, -, -, hagents, hmembers, -⟩
  · obtain ⟨mid, hm, rfl⟩ := Op.exec_ok h
    cases u with
    | act a =>
      have hadds : Adds s mid (written s a) := adds_act hm
      exact Or.inl ⟨a, clock, rfl, hadds⟩
    | cardFund card =>
      obtain ⟨period, veto, till, -, -, -, rfl⟩ := cardFund_ok hm
      refine Or.inr (adds_of_members rfl fun m hm => ?_)
      obtain ⟨b, hb, rfl⟩ := List.mem_map.1 hm
      obtain ⟨n, hn⟩ := depositedMember_eq card.depositOrder b
      rw [hn]
      exact ⟨Or.inr (Or.inl ⟨b, hb, rfl⟩), Or.inr (Or.inl ⟨b, hb, rfl⟩)⟩
    | chainStatus pid status =>
      obtain ⟨j, old, -, -, rfl⟩ := chainStatus_ok hm
      exact Or.inr (adds_of_same fun k => by cases k <;> rfl)
  · exact Or.inr (adds_of_same fun k => by cases k <;> simp only [spellings, hagents, hmembers])

lemma unambiguous_next {w : Write} (hs : Unambiguous s) (hfresh : WriteFresh s w) :
    Unambiguous (writeStore.next w s) := by
  refine @Interface.next_preserves _ _ writeStore Unambiguous _ _ hs fun reply s' h => ?_
  rcases adds_exec h with ⟨a, clock, rfl, hadds⟩ | hadds
  · exact unambiguous_of_adds hs (hfresh a clock rfl) hadds
  · intro x k k' hk hk'
    have hold : ∀ {k}, Resolves s' k x → Resolves s k x := fun hx =>
      (hadds _ x hx).resolve_right fun ⟨e, he, _⟩ => absurd he List.not_mem_nil
    exact hs x k k' (hold hk) (hold hk')

lemma unambiguous_runOps {writes : List Write} (hs : Unambiguous s)
    (hfresh : ∀ pre w post, writes = pre ++ w :: post → WriteFresh (writeStore.runOps pre s) w) :
    Unambiguous (writeStore.runOps writes s) := by
  induction writes generalizing s with
  | nil => exact hs
  | cons w writes ih =>
    refine ih (unambiguous_next hs (hfresh [] w writes rfl)) ?_
    rintro pre v post rfl
    exact hfresh (w :: pre) v post rfl

/-- A new fund has its host agent alone. -/
lemma unambiguous_createFund {fund : Fund} {host : Agent} {stamp : Time}
    (hcreate : createFund fund host now stamp = .ok s₀)
    (hhost : lower host.name ≠ lower host.address) : Unambiguous s₀ := by
  obtain ⟨a, hagents, hname, haddress, hmembers⟩ : ∃ a, s₀.agents = [a] ∧ a.name = host.name ∧
      a.address = host.address ∧ s₀.members = [] := by
    simp only [createFund, bind_eq_ok, pure_eq_ok] at hcreate
    obtain ⟨-, -, name, -, rfl⟩ := hcreate
    exact ⟨_, rfl, rfl, rfl, rfl⟩
  intro x k k' hk hk'
  have hagent : ∀ k, Resolves s₀ k x → k = .agentName ∧ lookupKey x = lower host.name ∨
      k = .agentWallet ∧ lookupKey x = lower host.address := by
    rintro k ⟨-, hx⟩
    cases k with
    | agentName => exact Or.inl ⟨rfl, by simpa [spellings, hagents, hname] using hx⟩
    | agentWallet => exact Or.inr ⟨rfl, by simpa [spellings, hagents, haddress] using hx⟩
    | memberId => simp [spellings, hmembers] at hx
    | memberWallet => simp [spellings, hmembers] at hx
  rcases hagent k hk with ⟨rfl, hx⟩ | ⟨rfl, hx⟩ <;> rcases hagent k' hk' with ⟨rfl, hx'⟩ | ⟨rfl, hx'⟩
  · rfl
  · exact absurd (hx.symm.trans hx') hhost
  · exact absurd (hx'.symm.trans hx) hhost
  · rfl

/-! ### The command on a member -/

/-- The program approves no agent, whatever it loads and whatever its writes reply. -/
structure Spares {α : Type} (p : DiskProg α) : Prop where
  uses : p.Uses SparesAgents

lemma Spares.bind {α β : Type} {p : DiskProg α} {f : α → DiskProg β} (hp : Spares p)
    (hf : ∀ a, Spares (f a)) : Spares (p >>= f) :=
  ⟨Prog.uses_bind hp.uses fun a => (hf a).uses⟩

lemma Spares.pure {α : Type} (a : α) : Spares (Pure.pure a) := ⟨True.intro⟩

lemma Spares.raise {α : Type} (e : Exc) : Spares (Prog.raise e : DiskProg α) := ⟨True.intro⟩

lemma Spares.tell (ev : ToolEvent) : Spares (Prog.tell ev) := ⟨True.intro⟩

lemma Spares.get : Spares Prog.get := ⟨fun _ => True.intro⟩

lemma Spares.check {α : Type} (e : Except Exc α) : Spares (FundDisk.check e) := by
  cases e with
  | error e => exact .raise e
  | ok a => exact .pure a

lemma sparesAgents_of_ne {name : String} {a : Act} {clock : Clock}
    (h : ∀ actor target tx caller, a ≠ .approveAgent actor target tx caller) :
    SparesAgents (.write name (.op ⟨.act a, clock⟩)) := by
  rintro name' actor target tx caller clock' ⟨⟩
  exact h actor target tx caller rfl

lemma Spares.runFundAct {name : String} {a : Act} {clock : Clock}
    (h : ∀ actor target tx caller, a ≠ .approveAgent actor target tx caller) :
    Spares (FundDisk.runFundAct name a clock) := by
  refine Spares.bind ⟨sparesAgents_of_ne h, fun _ => True.intro⟩ fun reply => ?_
  cases a.event? reply with
  | some ev => exact Spares.bind (.tell _) fun _ => .pure reply
  | none => exact .pure reply

lemma spares_ensureMemberAddress (rt : Runtime) (name who : String) (clock : Clock) :
    Spares (ensureMemberAddress rt name who clock) := by
  rw [ensureMemberAddress]
  refine Spares.bind .get fun disk => Spares.bind (.check _) fun state => ?_
  dsimp only
  split_ifs
  · exact .pure _
  · cases rt.applink with
    | none => exact .pure _
    | some linkedAddress =>
      refine Spares.bind (.tell _) fun _ => ?_
      cases linkedAddress state.fund.vault who with
      | none => exact .pure _
      | some address => exact Spares.bind (.runFundAct fun _ _ _ _ => by rintro ⟨⟩) fun _ => .pure _

lemma spares_approveMemberOf (name actor who address tx : String) (user : Option String)
    (clock : Clock) : Spares (approveMemberOf name actor who address tx user clock) := by
  refine ⟨sparesAgents_of_ne fun _ _ _ _ => by rintro ⟨⟩, fun r => Spares.uses ?_⟩
  cases r with
  | ok reply => exact Spares.bind (.tell _) fun _ => .pure _
  | error e =>
    cases e with
    | rule code reason =>
      dsimp only
      split_ifs
      · exact .pure _
      · exact .raise _
    | raised kind text => exact .raise _

/-- Where the argument is no agent's, no agent is approved. -/
lemma spares_approveTarget {rt : Runtime} {user : Option String} {name actor who : String}
    {extra : List String} {clock : ℕ → Clock} (hname : ¬Resolves s .agentName who)
    (hwallet : ¬Resolves s .agentWallet who) :
    Spares (approveTarget rt user name actor who extra clock s) := by
  have hno : ¬((s.agent who).isSome = true ∨ (s.agentByAddress who).isSome = true) := by
    rw [agent_isSome, agentByAddress_isSome]
    exact fun h => h.elim hname hwallet
  rw [approveTarget]
  dsimp only
  rw [if_neg hno]
  refine Spares.bind (.check _) fun _ => Spares.bind (.check _) fun _ => ?_
  split_ifs
  · exact Spares.bind (spares_ensureMemberAddress ..) fun _ => spares_approveMemberOf ..
  · exact spares_approveMemberOf ..

lemma spares_fundApproveOn {rt : Runtime} {user chat : Option String} {raw name : String}
    {clock : ℕ → Clock} {disk : Disk} (hname : fundForChat rt chat disk = .ok name)
    (hstate : disk.find name = some s)
    (h : ∀ who ∈ (words raw).head?, ¬Resolves s .agentName who ∧ ¬Resolves s .agentWallet who) :
    Spares (fundApproveOn rt user chat raw clock disk) := by
  rw [fundApproveOn]
  cases hwords : words raw with
  | nil => exact .pure _
  | cons who extra =>
    obtain ⟨hagent, hwallet⟩ := h who (by rw [hwords]; rfl)
    dsimp only
    cases hplan : approvePlan rt chat disk with
    | error e => exact .raise e
    | ok plan =>
      obtain ⟨name', actor, state⟩ := plan
      simp only [approvePlan, hname, bind_eq_ok, load_eq_ok, pure_eq_ok, Except.ok.injEq,
        Prod.mk.injEq] at hplan
      obtain ⟨_, rfl, actor', -, state', hload, rfl, rfl, rfl⟩ := hplan
      obtain rfl : state' = s := Option.some.inj (hload.symm.trans hstate)
      exact spares_approveTarget hagent hwallet

/-- In a run from a new fund whose writes are fresh no string names two, and `/fund-approve` with the
id or the wallet of a member approves no agent. -/
theorem approval_targets {fund : Fund} {host : Agent} {stamp : Time}
    (hcreate : createFund fund host now stamp = .ok s₀)
    (hhost : lower host.name ≠ lower host.address) {writes : List Write}
    (hfresh : ∀ pre w post, writes = pre ++ w :: post → WriteFresh (writeStore.runOps pre s₀) w) :
    Unambiguous (writeStore.runOps writes s₀) ∧
      ∀ (rt : Runtime) (user chat : Option String) (raw : String) (clock : ℕ → Clock) (disk : Disk)
        (name : String), fundForChat rt chat disk = .ok name →
        disk.find name = some (writeStore.runOps writes s₀) →
        (∀ who ∈ (words raw).head?, Resolves (writeStore.runOps writes s₀) .memberId who ∨
          Resolves (writeStore.runOps writes s₀) .memberWallet who) →
        Spares (fundApproveOn rt user chat raw clock disk) := by
  have hone := unambiguous_runOps (unambiguous_createFund hcreate hhost) hfresh
  refine ⟨hone, fun rt user chat raw clock disk name hname hstate hmember => ?_⟩
  refine spares_fundApproveOn hname hstate fun who hwho => ⟨fun hagent => ?_, fun hagent => ?_⟩
  · rcases hmember who hwho with hid | hwallet
    · exact absurd (hone who _ _ hagent hid) (by decide)
    · exact absurd (hone who _ _ hagent hwallet) (by decide)
  · rcases hmember who hwho with hid | hwallet
    · exact absurd (hone who _ _ hagent hid) (by decide)
    · exact absurd (hone who _ _ hagent hwallet) (by decide)

def askWrite (agent : Agent) : Write := .op ⟨.act (.requestAgent agent), ⟨2000, 2000⟩⟩

def targetRuntime : Runtime := ⟨{ agentName := "Iris", defaultFund := "alpha" }, none⟩

lemma writeFresh_act {a : Act} {clock : Clock} (h : ActFresh s a) :
    WriteFresh s (.op ⟨.act a, clock⟩) := by
  rintro a' clock' ⟨⟩
  exact h

/-- A member waits and an agent asks to join. -/
def unmixedWrites : List Write := [joinWrite "42" walletA "ana", askWrite sampleGuest]

/-- Approving 42 approves no agent. -/
theorem approval_targets_unmixed : Unambiguous (writeStore.runOps unmixedWrites sampleState) ∧
    Spares (fundApproveOn targetRuntime (some "100") none "42" (fun _ => ⟨2010, 2010⟩)
      [("alpha", writeStore.runOps unmixedWrites sampleState)]) := by
  have hfresh : ∀ pre w post, unmixedWrites = pre ++ w :: post →
      WriteFresh (writeStore.runOps pre sampleState) w := by
    intro pre w post heq
    match pre with
    | [] =>
      obtain ⟨rfl, -⟩ := List.cons.inj heq
      exact writeFresh_act ⟨by decide +kernel, by decide +kernel⟩
    | [_] =>
      obtain ⟨rfl, htail⟩ := List.cons.inj heq
      obtain ⟨rfl, -⟩ := List.cons.inj htail
      exact writeFresh_act ⟨by decide +kernel, by decide +kernel⟩
    | _ :: _ :: _ =>
      have hlength := congrArg List.length heq
      simp [unmixedWrites] at hlength
  obtain ⟨hone, hspares⟩ := approval_targets createFund_sample (by decide +kernel) hfresh
  refine ⟨hone, hspares targetRuntime _ none "42" _ _ "alpha" (by decide +kernel) rfl ?_⟩
  intro who hwho
  have hwords : (words "42").head? = some "42" := by decide +kernel
  obtain rfl : "42" = who := Option.some.inj (hwords.symm.trans hwho)
  exact Or.inl (by decide +kernel)

/-- An agent asks under the telegram id of a waiting member. -/
def squatted : FundState :=
  writeStore.runOps [joinWrite "42" walletA "ana", askWrite { sampleGuest with name := "42" }]
    sampleState

/-- The host approves 42, and it is the agent that is approved. -/
theorem approval_of_squatter : ¬Unambiguous squatted ∧ Resolves squatted .memberId "42" ∧
    ((((fundApprove targetRuntime (some "100") none "42" fun _ => ⟨2010, 2010⟩).run
      [("alpha", squatted)]).store.find "alpha").map fun s =>
        (s.agents.map fun a => (a.name, a.approved), s.members.map fun m => m.approved)) =
      some ([("Iris", true), ("42", true)], [false]) := by
  have hid : Resolves squatted .memberId "42" := by decide +kernel
  have hname : Resolves squatted .agentName "42" := by decide +kernel
  refine ⟨fun h => absurd (h "42" _ _ hname hid) (by decide), hid, by decide +kernel⟩

end SherwoodMonitor.ApprovalTargets
