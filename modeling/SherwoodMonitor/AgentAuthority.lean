import SherwoodMonitor.Effects

/-! Who may act for an agent. A name that acts resolves to a registered record that is not removed,
and the host agent's approval with a transaction hash is the only thing that registers a guest; a
join starts over. -/
namespace SherwoodMonitor.AgentAuthority
open PyText Lookup Models FundState Rules Service Calls Effects AtomicStore

variable {now : Time} {s s₀ s' : FundState} {op : Op} {a : Agent}

-- the names of the agent records

/-- A name as it is compared; a lookup only asks for one without outer blanks. -/
def key (a : Agent) : String := lower a.name

def Trimmed (k : String) : Prop := strip k = k

lemma trimmed_lookupKey (name : String) : Trimmed (lookupKey name) := by
  rw [Trimmed, lookupKey, strip_lower, strip_strip]

lemma lookupKey_of_trimmed {name : String} (h : Trimmed (lower name)) :
    lookupKey name = lower name := by
  rw [lookupKey, ← strip_lower]
  exact h

/-- No two agents share a name that lookups ask for. -/
def NamesDistinct (agents : List Agent) : Prop :=
  (agents.map key).Pairwise fun k k' => Trimmed k → k ≠ k'

lemma NamesDistinct.set {agents : List Agent} {i : ℕ} {old new : Agent}
    (h : NamesDistinct agents) (hget : agents[i]? = some old) (hname : new.name = old.name) :
    NamesDistinct (agents.set i new) := by
  have hkey : key new = key old := congrArg lower hname
  rwa [NamesDistinct, map_set_of_eq hget hkey]

lemma NamesDistinct.append {agents : List Agent} {new : Agent} (h : NamesDistinct agents)
    (hfresh : ∀ b ∈ agents, Trimmed (key b) → key b ≠ key new) :
    NamesDistinct (agents ++ [new]) := by
  rw [NamesDistinct, List.map_append, List.pairwise_append]
  refine ⟨h, List.pairwise_singleton _ _, fun k hk k' hk' => ?_⟩
  obtain ⟨b, hb, rfl⟩ := List.mem_map.1 hk
  obtain rfl := List.mem_singleton.1 hk'
  exact hfresh b hb

/-- Only one record has the name of a record that a lookup found. -/
lemma NamesDistinct.of_erase {agents : List Agent} {old b : Agent} (h : NamesDistinct agents)
    (hold : old ∈ agents) (hb : b ∈ agents.erase old) (htrim : Trimmed (key old)) :
    key b ≠ key old := by
  have hsymm : ∀ k k' : String, (Trimmed k → k ≠ k') → Trimmed k' → k' ≠ k := by
    intro k k' hkk' htrim' heq
    rw [heq] at htrim' hkk'
    exact hkk' htrim' rfl
  have hperm : (agents.map key).Perm ((old :: agents.erase old).map key) :=
    (List.perm_cons_erase hold).map key
  have hpair := (hperm.pairwise_iff fun {k k'} => hsymm k k').1 h
  rw [List.map_cons, List.pairwise_cons] at hpair
  exact (hpair.1 (key b) (List.mem_map_of_mem hb) htrim).symm

lemma NamesDistinct.erase {agents : List Agent} (h : NamesDistinct agents) (old : Agent) :
    NamesDistinct (agents.erase old) :=
  h.sublist (List.erase_sublist.map key)

lemma NamesDistinct.not_lt {agents : List Agent} {i j : ℕ} {a b : Agent}
    (h : NamesDistinct agents) (ha : agents[i]? = some a) (hb : agents[j]? = some b)
    (htrim : Trimmed (key a)) (hkey : key a = key b) : ¬i < j := by
  intro hlt
  obtain ⟨hi, rfl⟩ := List.getElem?_eq_some_iff.1 ha
  obtain ⟨hj, rfl⟩ := List.getElem?_eq_some_iff.1 hb
  have hpair := List.pairwise_iff_getElem.1 h i j (by simpa using hi) (by simpa using hj) hlt
  simp only [List.getElem_map] at hpair
  exact hpair htrim hkey

lemma NamesDistinct.eq_of_key {agents : List Agent} {i j : ℕ} {a b : Agent}
    (h : NamesDistinct agents) (ha : agents[i]? = some a) (hb : agents[j]? = some b)
    (htrim : Trimmed (key a)) (hkey : key a = key b) : a = b := by
  have hij : ¬i < j := h.not_lt ha hb htrim hkey
  have hji : ¬j < i := h.not_lt hb ha (hkey ▸ htrim) hkey.symm
  obtain rfl : i = j := by omega
  exact Option.some.inj (ha.symm.trans hb)

/-- What holds of the agent records in every run. -/
structure AgentsOk (agents : List Agent) : Prop where
  names : NamesDistinct agents
  /-- The host agent is registered from the start. -/
  host : ∀ a ∈ agents, a.role = "host" → a.registered = true

lemma AgentsOk.set {agents : List Agent} {i : ℕ} {old new : Agent} (h : AgentsOk agents)
    (hget : agents[i]? = some old) (hname : new.name = old.name) (hrole : new.role = old.role)
    (hreg : old.registered = true → new.registered = true) : AgentsOk (agents.set i new) where
  names := h.names.set hget hname
  host a ha hhost := by
    rcases mem_set_cases ha with rfl | ha
    · exact hreg (h.host old (List.mem_of_getElem? hget) (hrole ▸ hhost))
    · exact h.host a ha hhost

lemma AgentsOk.joined {agents : List Agent} {new : Agent} (h : AgentsOk agents)
    (hfresh : ∀ b ∈ agents, Trimmed (key b) → key b ≠ key new) :
    AgentsOk (agents ++ [joinedAgent new now]) where
  names := h.names.append hfresh
  host a ha hhost := by
    rcases List.mem_append.1 ha with ha | ha
    · exact h.host a ha hhost
    · obtain rfl := List.mem_singleton.1 ha
      exact absurd hhost (by simp [joinedAgent])

lemma AgentsOk.erase {agents : List Agent} (h : AgentsOk agents) (old : Agent) :
    AgentsOk (agents.erase old) :=
  ⟨h.names.erase old, fun a ha => h.host a (List.mem_of_mem_erase ha)⟩

/-- A join whose name no record has is fresh, whatever blanks it carries. -/
lemma fresh_of_notFound {agent b : Agent} (hnone : key b ≠ lookupKey agent.name)
    (htrim : Trimmed (key b)) : key b ≠ key agent := by
  intro heq
  rw [heq] at htrim hnone
  exact hnone (lookupKey_of_trimmed htrim).symm

lemma key_of_found {name : String} {i : ℕ} (h : s.agent name = some (i, a)) :
    key a = lookupKey name := agent_name h

lemma key_ne_of_notFound {name : String} (h : s.agent name = none) {b : Agent}
    (hb : b ∈ s.agents) : key b ≠ lookupKey name := by
  have hmiss := locate_eq_none.1 h b hb
  exact of_decide_eq_false hmiss

lemma targetAgent_getElem? {name : String} {i : ℕ} (h : targetAgent s name = some (i, a)) :
    s.agents[i]? = some a := by
  rw [targetAgent, Option.or_eq_some_iff] at h
  rcases h with h | ⟨-, h⟩
  · exact agent_getElem? h
  · exact agentByAddress_getElem? h

/-- A record that a lookup by name found is gone once it is erased. -/
lemma key_ne_of_erase {name : String} {i : ℕ} {old b : Agent} (h : AgentsOk s.agents)
    (hfound : s.agent name = some (i, old)) (hb : b ∈ s.agents.erase old) :
    key b ≠ lookupKey name := by
  have hkey := key_of_found hfound
  have htrim : Trimmed (key old) := hkey ▸ trimmed_lookupKey name
  rw [← hkey]
  exact h.names.of_erase (List.mem_of_getElem? (agent_getElem? hfound)) hb htrim

lemma agentsOk_requestAgent {agent r : Agent} (hs : AgentsOk s.agents)
    (h : requestAgent agent now s = .ok (r, s')) : AgentsOk s'.agents := by
  obtain ⟨-, -, ⟨i, old, hfound, -, rfl, rfl⟩ | ⟨i, old, hfound, -, -, rfl, rfl⟩ |
    ⟨hnone, rfl, rfl⟩⟩ := requestAgent_ok h
  · exact (hs.erase old).joined fun b hb => fresh_of_notFound (key_ne_of_erase hs hfound hb)
  · exact hs.set (agent_getElem? hfound) rfl rfl id
  · exact hs.joined fun b hb => fresh_of_notFound (key_ne_of_notFound hnone hb)

lemma approvedAgent_name (target : Agent) (tx : String) :
    (approvedAgent target tx now).name = target.name := by
  rw [approvedAgent]
  split_ifs <;> rfl

lemma approvedAgent_role (target : Agent) (tx : String) :
    (approvedAgent target tx now).role = target.role := by
  rw [approvedAgent]
  split_ifs <;> rfl

lemma approvedAgent_registered (target : Agent) (tx : String) :
    (approvedAgent target tx now).registered = (target.registered || tx ≠ "") := by
  rw [approvedAgent]
  by_cases htx : tx = "" <;> simp [htx]

lemma agentsOk_act {act : Act} {r : act.Reply} (hs : AgentsOk s.agents)
    (h : act.mutate now s = .ok (r, s')) : AgentsOk s'.agents := by
  rcases (actFrame h).agents with
    (⟨agent, rfl⟩ | ⟨actor, name, tx, caller, rfl⟩ | ⟨actor, name, caller, rfl⟩) | heq
  · exact agentsOk_requestAgent hs h
  · obtain ⟨-, -, i, target, hfound, -, -, hr, -, rfl⟩ := approveAgent_ok h
    refine hs.set (targetAgent_getElem? hfound) ?_ ?_ fun hreg => ?_
    · rw [hr, approvedAgent_name]
    · rw [hr, approvedAgent_role]
    · rw [hr, approvedAgent_registered, hreg, Bool.true_or]
  · obtain ⟨-, -, i, target, hfound, -, -, rfl, rfl⟩ := removeAgent_ok h
    exact hs.set (targetAgent_getElem? hfound) rfl rfl id
  · rwa [heq]

lemma agents_cardFund {card : ChainCard.CardFund} {r : Unit}
    (h : ChainCard.cardFund card s = .ok (r, s')) : s'.agents = s.agents := by
  obtain ⟨period, veto, till, -, -, -, rfl⟩ := cardFund_ok h
  rfl

lemma agents_chainStatus {pid : String} {status : Status} {r : ProposalRecord × Status}
    (h : chainStatus pid status now s = .ok (r, s')) : s'.agents = s.agents := by
  obtain ⟨i, old, -, -, rfl⟩ := chainStatus_ok h
  rfl

/-- Only an operation changes the agent records. -/
lemma agents_of_exec {reply : op.update.Reply} (h : op.exec s = .ok (reply, s')) :
    s'.agents = s.agents ∨ ∃ act clock r mid, op = ⟨.act act, clock⟩ ∧
      act.mutate clock.now s = .ok (r, mid) ∧ s'.agents = mid.agents := by
  obtain ⟨mid, hm, rfl⟩ := Op.exec_ok h
  obtain ⟨update, clock⟩ := op
  cases update with
  | act act => exact Or.inr ⟨act, clock, reply, mid, rfl, hm, rfl⟩
  | cardFund card =>
    have hmid : mid.agents = s.agents := agents_cardFund hm
    exact Or.inl hmid
  | chainStatus pid status =>
    have hmid : mid.agents = s.agents := agents_chainStatus hm
    exact Or.inl hmid

lemma agentsOk_next (hs : AgentsOk s.agents) : AgentsOk (fundStore.next op s).agents := by
  refine @Interface.next_preserves _ _ fundStore (fun s => AgentsOk s.agents) op s hs ?_
  intro reply s' h
  rcases agents_of_exec h with heq | ⟨act, clock, r, mid, -, hm, heq⟩
  · rwa [heq]
  · rw [heq]
    exact agentsOk_act hs hm

lemma agentsOk_createFund {fund : Fund} {host : Agent} {stamp : Time}
    (h : createFund fund host now stamp = .ok s) : AgentsOk s.agents := by
  simp only [createFund, bind_eq_ok, pure_eq_ok] at h
  obtain ⟨-, -, name, -, rfl⟩ := h
  exact ⟨List.pairwise_singleton _ _, by simp⟩

-- acting under a name

/-- The name that an operation acts under. -/
inductive ActsAs : Act → String → Prop
  | claim (agent topic : String) : ActsAs (.claimTopic agent topic) agent
  | request (agent topic : String) (from_ : Pitch) : ActsAs (.requestDraft agent topic from_) agent
  | draft (agent : String) (d : Draft) : ActsAs (.draftProposal agent d) agent
  | review (pid agent side note : String) : ActsAs (.recordVote pid agent side "agent" note) agent
  | setStatus (actor pid status : String) (note : StatusNote) :
      ActsAs (.setProposalStatus actor pid status note) actor
  | settle (actor pid : String) (d : Settle) : ActsAs (.recordSettle actor pid d) actor

/-- The name resolves to a registered record that is not removed. -/
def HasAuthority (s : FundState) (name : String) : Prop :=
  ∃ i a, s.agent name = some (i, a) ∧ a.registered = true ∧ a.removed = false

lemma hasAuthority_of_gates {name : String} (h : (checkProposerGates s name now).ok = true) :
    HasAuthority s name := by
  rw [checkProposerGates, firstFailure_ok] at h
  exact checkAgentCanAct_ok.1 (h _ (by simp))

/-- The host agent has authority because it is registered. -/
lemma hasAuthority_of_proposerOrHost {actor : String} {r : ProposalRecord}
    (hs : AgentsOk s.agents) (h : requireProposerOrHost s actor r = .ok ()) :
    HasAuthority s actor := by
  rw [requireProposerOrHost] at h
  split_ifs at h with hwho
  · exact checkAgentCanAct_ok.1 (require_eq_ok.1 h)
  · obtain ⟨i, a, hfound, hhost, hrem⟩ := checkHostAction_ok.1 (require_eq_ok.1 h)
    exact ⟨i, a, hfound, hs.host a (List.mem_of_getElem? (agent_getElem? hfound)) hhost, hrem⟩

lemma hasAuthority_of_actsAs {act : Act} {r : act.Reply} {name : String} (hs : AgentsOk s.agents)
    (hname : ActsAs act name) (h : act.mutate now s = .ok (r, s')) : HasAuthority s name := by
  cases hname with
  | claim agent topic =>
    obtain ⟨hcheck, -⟩ := claimTopic_ok h
    exact hasAuthority_of_gates (checkClaim_ok.1 hcheck).1
  | request agent topic from_ =>
    obtain ⟨hcheck, -⟩ := requestDraft_ok h
    exact hasAuthority_of_gates (checkClaim_ok.1 hcheck).1
  | draft agent d =>
    obtain ⟨v, hv, hok, -⟩ := draftProposal_ok h
    exact hasAuthority_of_gates (checkDraft_ok hv hok).1
  | review pid agent side note =>
    obtain ⟨i, old, -, -, ⟨-, hreview, -⟩ | ⟨hkind, -⟩⟩ := recordVote_ok h
    · exact checkAgentCanAct_ok.1 (checkReview_ok.1 hreview).1
    · exact absurd rfl hkind
  | setStatus actor pid status note =>
    obtain ⟨i, old, -, hauth, -⟩ := setProposalStatus_ok h
    exact hasAuthority_of_proposerOrHost hs hauth
  | settle actor pid d =>
    obtain ⟨i, old, -, hauth, -⟩ := recordSettle_ok h
    exact hasAuthority_of_proposerOrHost hs hauth

-- where a registration comes from

/-- A successful approval by the host agent, with a transaction hash, that writes `r`. -/
def Registers (s : FundState) (op : Op) (r : Agent) : Prop :=
  ∃ actor name tx caller clock body s', op = ⟨.act (.approveAgent actor name tx caller), clock⟩ ∧
    approveAgent actor name tx caller clock.now s = .ok ((r, body), s') ∧ tx ≠ "" ∧
    (checkHostAction s actor).ok = true

/-- A successful join under a name that lookups compare as `k`. -/
def Joins (s : FundState) (op : Op) (k : String) : Prop :=
  ∃ agent clock r s', op = ⟨.act (.requestAgent agent), clock⟩ ∧
    requestAgent agent clock.now s = .ok (r, s') ∧ lookupKey agent.name = k

/-- Nobody joins as `k` while `ops` run. -/
def Unjoined (k : String) : FundState → List Op → Prop
  | _, [] => True
  | s, op :: ops => ¬Joins s op k ∧ Unjoined k (fundStore.next op s) ops

lemma unjoined_concat {k : String} {ops : List Op} :
    Unjoined k s (ops ++ [op]) ↔
      Unjoined k s ops ∧ ¬Joins (fundStore.runOps ops s) op k := by
  induction ops generalizing s with
  | nil => exact ⟨fun h => ⟨trivial, h.1⟩, fun h => ⟨h.2, trivial⟩⟩
  | cons o ops ih =>
    rw [List.cons_append, Unjoined, Unjoined, ih, and_assoc, Interface.runOps_cons]

/-- What an approval fixes of a record: later only its removal is marked. -/
structure SameAgent (r a : Agent) : Prop where
  name : a.name = r.name
  identityId : a.identityId = r.identityId
  address : a.address = r.address
  registered : r.registered = true
  registerTx : a.registerTx = r.registerTx

/-- An operation of the run registered the agent, and nobody has joined under its name since. -/
def ApprovedSinceJoin (s₀ : FundState) (ops : List Op) (a : Agent) : Prop :=
  ∃ before op after r, ops = before ++ op :: after ∧
    Registers (fundStore.runOps before s₀) op r ∧ SameAgent r a ∧
    Unjoined (key a) (fundStore.next op (fundStore.runOps before s₀)) after

lemma ApprovedSinceJoin.concat {ops : List Op} (h : ApprovedSinceJoin s₀ ops a)
    (hop : ¬Joins (fundStore.runOps ops s₀) op (key a)) :
    ApprovedSinceJoin s₀ (ops ++ [op]) a := by
  obtain ⟨before, o, after, r, rfl, hreg, hsame, hunjoined⟩ := h
  refine ⟨before, o, after ++ [op], r, by simp, hreg, hsame, unjoined_concat.2 ⟨hunjoined, ?_⟩⟩
  rwa [Interface.runOps_append, Interface.runOps_cons] at hop

/-- A removal keeps what the approval fixed. -/
lemma ApprovedSinceJoin.removed {ops : List Op} (h : ApprovedSinceJoin s₀ ops a) :
    ApprovedSinceJoin s₀ ops { a with removed := true, removedAt := some now } := by
  obtain ⟨before, o, after, r, hops, hreg, hsame, hunjoined⟩ := h
  exact ⟨before, o, after, r, hops, hreg,
    ⟨hsame.name, hsame.identityId, hsame.address, hsame.registered, hsame.registerTx⟩, hunjoined⟩

/-- A guest that is registered was approved since it last joined. -/
def GuestsApproved (s₀ : FundState) (ops : List Op) : Prop :=
  ∀ a ∈ (fundStore.runOps ops s₀).agents, a.role ≠ "host" → a.registered = true →
    ApprovedSinceJoin s₀ ops a

/-- A join leaves the registered guests that go by other names, and adds none. -/
lemma guest_of_requestAgent {agent r : Agent} (hs : AgentsOk s.agents)
    (h : requestAgent agent now s = .ok (r, s')) (ha : a ∈ s'.agents)
    (hreg : a.registered = true) : a ∈ s.agents ∧ key a ≠ lookupKey agent.name := by
  obtain ⟨-, -, ⟨i, old, hfound, -, rfl, rfl⟩ | ⟨i, old, hfound, -, hold, rfl, rfl⟩ |
    ⟨hnone, rfl, rfl⟩⟩ := requestAgent_ok h
  · rcases List.mem_append.1 ha with ha | ha
    · exact ⟨List.mem_of_mem_erase ha, key_ne_of_erase hs hfound ha⟩
    · rw [List.mem_singleton.1 ha] at hreg
      exact absurd hreg (by simp [joinedAgent])
  · have hwaiting : ∀ b : Agent, b.registered = old.registered → b.registered ≠ true := by
      intro b hb
      rw [hb, hold]
      exact Bool.false_ne_true
    rcases mem_set_cases ha with rfl | ha
    · exact absurd hreg (hwaiting _ rfl)
    · refine ⟨ha, fun hkey => ?_⟩
      have hget := agent_getElem? hfound
      obtain ⟨j, hj⟩ := List.getElem?_of_mem ha
      have htrim : Trimmed (key old) := key_of_found hfound ▸ trimmed_lookupKey _
      have hsame := hs.names.eq_of_key hget hj htrim ((key_of_found hfound).trans hkey.symm)
      exact absurd hreg (hwaiting a (by rw [hsame]))
  · rcases List.mem_append.1 ha with ha | ha
    · exact ⟨ha, key_ne_of_notFound hnone ha⟩
    · rw [List.mem_singleton.1 ha] at hreg
      exact absurd hreg (by simp [joinedAgent])

lemma not_joins_of_ne {agent : Agent} {clock : Clock} {k : String}
    (hne : k ≠ lookupKey agent.name) : ¬Joins s ⟨.act (.requestAgent agent), clock⟩ k := by
  rintro ⟨q, clock', r, s', heq, -, hk⟩
  cases heq
  exact hne hk.symm

lemma not_joins_of_ne_request {act : Act} {clock : Clock} {k : String}
    (hne : ∀ agent, act ≠ .requestAgent agent) : ¬Joins s ⟨.act act, clock⟩ k := by
  rintro ⟨q, clock', r, s', heq, -, -⟩
  cases heq
  exact hne q rfl

/-- What an operation leaves as a registered guest: an earlier one, nobody joining under its name,
or the one it approves. -/
lemma approvedSinceJoin_act {ops : List Op} {act : Act} {clock : Clock} {r : act.Reply}
    (hst : fundStore.runOps ops s₀ = s) (hs : AgentsOk s.agents) (h : GuestsApproved s₀ ops)
    (hm : act.mutate clock.now s = .ok (r, s')) (ha : a ∈ s'.agents) (hguest : a.role ≠ "host")
    (hreg : a.registered = true) : ApprovedSinceJoin s₀ (ops ++ [⟨.act act, clock⟩]) a := by
  have hkeep : ∀ b ∈ s.agents, b.role ≠ "host" → b.registered = true →
      ¬Joins s ⟨.act act, clock⟩ (key b) → ApprovedSinceJoin s₀ (ops ++ [⟨.act act, clock⟩]) b :=
    fun b hb hbguest hbreg hjoins => (h b (hst ▸ hb) hbguest hbreg).concat (hst ▸ hjoins)
  by_cases hrequest : ∃ agent, act = .requestAgent agent
  · obtain ⟨agent, rfl⟩ := hrequest
    obtain ⟨hmem, hne⟩ := guest_of_requestAgent hs hm ha hreg
    exact hkeep a hmem hguest hreg (not_joins_of_ne hne)
  · have hother (k : String) : ¬Joins s ⟨.act act, clock⟩ k :=
      not_joins_of_ne_request fun agent heq => hrequest ⟨agent, heq⟩
    rcases (actFrame hm).agents with
      (hagent | ⟨actor, name, tx, caller, rfl⟩ | ⟨actor, name, caller, rfl⟩) | heq
    · exact absurd hagent hrequest
    · obtain ⟨-, hhost, i, target, hfound, -, hwaiting, hr, -, rfl⟩ := approveAgent_ok hm
      rcases mem_set_cases ha with rfl | ha
      · have htx : tx ≠ "" := by
          intro htx
          rw [hr, approvedAgent_registered, hwaiting, htx] at hreg
          exact absurd hreg (by simp)
        exact ⟨ops, _, [], r.1, rfl,
          ⟨actor, name, tx, caller, clock, r.2, _, rfl, hst ▸ hm, htx, hst ▸ hhost⟩,
          ⟨rfl, rfl, rfl, hreg, rfl⟩, trivial⟩
      · exact hkeep a ha hguest hreg (hother _)
    · obtain ⟨-, -, i, target, hfound, -, -, rfl, rfl⟩ := removeAgent_ok hm
      have htarget : target ∈ s.agents := List.mem_of_getElem? (targetAgent_getElem? hfound)
      rcases mem_set_cases ha with rfl | ha
      · exact (hkeep target htarget hguest hreg (hother _)).removed
      · exact hkeep a ha hguest hreg (hother _)
    · exact hkeep a (heq ▸ ha) hguest hreg (hother _)

/-- An operation that fails or writes no agents is not a join and keeps the guests. -/
lemma guestsApproved_concat_of_eq {ops : List Op} (h : GuestsApproved s₀ ops)
    (hagents : (fundStore.runOps (ops ++ [op]) s₀).agents = (fundStore.runOps ops s₀).agents)
    (hop : ∀ k, ¬Joins (fundStore.runOps ops s₀) op k) : GuestsApproved s₀ (ops ++ [op]) := by
  intro a ha hguest hreg
  rw [hagents] at ha
  exact (h a ha hguest hreg).concat (hop _)

lemma guestsApproved_concat {ops : List Op} (hs : AgentsOk (fundStore.runOps ops s₀).agents)
    (h : GuestsApproved s₀ ops) : GuestsApproved s₀ (ops ++ [op]) := by
  cases hexec : op.exec (fundStore.runOps ops s₀) with
  | error e =>
    have hnext : fundStore.next op (fundStore.runOps ops s₀) = fundStore.runOps ops s₀ := by
      simp only [Interface.next, hexec]
    refine guestsApproved_concat_of_eq h (by rw [Interface.runOps_concat, hnext]) fun k hjoins => ?_
    obtain ⟨agent, clock, r, s', rfl, hrequest, -⟩ := hjoins
    have hok := Op.exec_of_ok ⟨.act (.requestAgent agent), clock⟩ hrequest
    rw [hexec] at hok
    cases hok
  | ok out =>
    obtain ⟨reply, s'⟩ := out
    have hnext : fundStore.next op (fundStore.runOps ops s₀) = s' := Interface.next_of_ok hexec
    obtain ⟨mid, hm, rfl⟩ := Op.exec_ok hexec
    obtain ⟨update, clock⟩ := op
    cases update with
    | act act =>
      intro a ha hguest hreg
      rw [Interface.runOps_concat, hnext] at ha
      exact approvedSinceJoin_act rfl hs h hm ha hguest hreg
    | cardFund card =>
      have hagents : mid.agents = (fundStore.runOps ops s₀).agents := agents_cardFund hm
      refine guestsApproved_concat_of_eq h (by rw [Interface.runOps_concat, hnext]; exact hagents) ?_
      rintro k ⟨agent, clock', r, s', heq, -⟩
      cases heq
    | chainStatus pid status =>
      have hagents : mid.agents = (fundStore.runOps ops s₀).agents := agents_chainStatus hm
      refine guestsApproved_concat_of_eq h (by rw [Interface.runOps_concat, hnext]; exact hagents) ?_
      rintro k ⟨agent, clock', r, s', heq, -⟩
      cases heq

lemma agents_of_run {fund : Fund} {host : Agent} {stamp : Time}
    (hcreate : createFund fund host now stamp = .ok s₀) (ops : List Op) :
    AgentsOk (fundStore.runOps ops s₀).agents ∧ GuestsApproved s₀ ops := by
  induction ops using List.reverseRecOn with
  | nil =>
    have hcreated := agentsOk_createFund hcreate
    refine ⟨hcreated, fun a ha hguest hreg => ?_⟩
    simp only [createFund, bind_eq_ok, pure_eq_ok] at hcreate
    obtain ⟨-, -, name, -, rfl⟩ := hcreate
    rw [List.mem_singleton.1 ha] at hguest
    exact absurd rfl hguest
  | append_singleton ops op ih =>
    refine ⟨?_, guestsApproved_concat ih.1 ih.2⟩
    rw [Interface.runOps_concat]
    exact agentsOk_next ih.1

/-- After any run from a new fund: whoever acts has authority, and every registered guest was
approved by the host, with a transaction hash, since it last joined. -/
theorem agentAuthority_of_run {fund : Fund} {host : Agent} {stamp : Time}
    (hcreate : createFund fund host now stamp = .ok s₀) (ops : List Op) :
    (∀ (act : Act) (name : String) (t : Time) (r : act.Reply) (s' : FundState),
      ActsAs act name → act.mutate t (fundStore.runOps ops s₀) = .ok (r, s') →
      HasAuthority (fundStore.runOps ops s₀) name) ∧
    ∀ a ∈ (fundStore.runOps ops s₀).agents, a.role ≠ "host" → a.registered = true →
      ApprovedSinceJoin s₀ ops a := by
  obtain ⟨hs, hguests⟩ := agents_of_run hcreate ops
  exact ⟨fun act name t r s' hname h => hasAuthority_of_actsAs hs hname h, hguests⟩

/-- A second agent joins and is registered by the host. -/
def joinOps : List Op :=
  [⟨.act (.requestAgent sampleGuest), ⟨1010, 1010⟩⟩,
    ⟨.act (.approveAgent "Iris" "beta" "0xaa" none), ⟨1020, 1020⟩⟩]

def registeredGuest : Agent :=
  { joinedAgent sampleGuest 1010 with
    approved := true, approvedAt := some 1020, registered := true, registeredAt := some 1020,
    registerTx := "0xaa" }

theorem approvedSinceJoin_of_sample_run : ApprovedSinceJoin sampleState joinOps registeredGuest := by
  have hmem : registeredGuest ∈ (fundStore.runOps joinOps sampleState).agents := by
    decide +kernel
  have hguest : registeredGuest.role ≠ "host" := by decide
  exact (agentAuthority_of_run createFund_sample joinOps).2 registeredGuest hmem hguest rfl

end SherwoodMonitor.AgentAuthority
