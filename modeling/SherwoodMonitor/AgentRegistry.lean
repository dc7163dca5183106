import SherwoodMonitor.AgentAuthority

/-! The registry of agents: one host agent, names unique up to case, and no wallet that two active
agents share. A join's wallet is looked up as the first record that has it, removed ones
included, so what the lookup finds may hide an active agent with the same wallet. -/
namespace SherwoodMonitor.AgentRegistry
open PyText Lookup Models FundState Rules Service Calls Effects AtomicStore AgentAuthority

variable {now : Time} {s s₀ s' : FundState} {agent a : Agent}

/-- Both records have a wallet, the same up to case. -/
def SameWallet (a b : Agent) : Prop :=
  a.address ≠ "" ∧ b.address ≠ "" ∧ lower a.address = lower b.address

/-- No two active records share a wallet. -/
def WalletsApart (a b : Agent) : Prop :=
  a.removed = false → b.removed = false → ¬SameWallet a b

structure Registry (agents : List Agent) : Prop where
  host : ∃ a, agents.filter (fun a => a.role = "host") = [a] ∧ a.registered = true ∧
    a.removed = false
  names : agents.Pairwise fun a b => lower a.name ≠ lower b.name
  wallets : agents.Pairwise WalletsApart

lemma WalletsApart.symm {a b : Agent} (h : WalletsApart a b) : WalletsApart b a :=
  fun hb ha hsame => h ha hb ⟨hsame.2.1, hsame.1, hsame.2.2.symm⟩

/-- The checks of a join request other than that of its wallet pass. -/
structure Joinable (s : FundState) (agent : Agent) : Prop where
  identity : agent.identityId ≠ ""
  address : isAddress agent.address = true
  waiting : ∀ i old, s.agent agent.name = some (i, old) → old.removed = true ∨
    old.registered = false

/-- Another active agent has the wallet. -/
def WalletTaken (s : FundState) (agent : Agent) : Prop :=
  ∃ b ∈ s.agents, b.removed = false ∧ lower b.address = lower agent.address ∧
    lower b.name ≠ lower agent.name

/-- What the lookup of the wallet finds, if anything, is removed or the agent's own record. -/
def LookupMisses (s : FundState) (agent : Agent) : Prop :=
  ∀ i b, s.agentByAddress agent.address = some (i, b) → b.removed = true ∨
    lower b.name = lower agent.name

/-- A join request for a taken wallet that the lookup does not notice. -/
structure HiddenJoin (s : FundState) (agent : Agent) : Prop where
  joinable : Joinable s agent
  taken : WalletTaken s agent
  missed : LookupMisses s agent

-- when a join request succeeds

lemma requireFreeAddress_eq_ok : requireFreeAddress s agent = .ok () ↔ LookupMisses s agent := by
  rw [requireFreeAddress, LookupMisses]
  rcases s.agentByAddress agent.address with _ | ⟨i, b⟩
  · simp
  · cases hrem : b.removed <;> simp [hrem]

theorem requestAgent_isOk : (∃ r s', requestAgent agent now s = .ok (r, s')) ↔
    Joinable s agent ∧ LookupMisses s agent := by
  constructor
  · rintro ⟨r, s', h⟩
    have hmisses : LookupMisses s agent := by
      simp only [requestAgent, bind_eq_ok] at h
      obtain ⟨-, -, ⟨⟩, hfree, -⟩ := h
      exact requireFreeAddress_eq_ok.1 hfree
    obtain ⟨hid, haddr, hcases⟩ := requestAgent_ok h
    refine ⟨⟨hid, haddr, fun i old hold => ?_⟩, hmisses⟩
    rcases hcases with ⟨j, b, hb, hrem, -⟩ | ⟨j, b, hb, -, hreg, -⟩ | ⟨hnone, -⟩
    · obtain ⟨rfl, rfl⟩ : i = j ∧ old = b := by simpa [hold] using hb
      exact Or.inl hrem
    · obtain ⟨rfl, rfl⟩ : i = j ∧ old = b := by simpa [hold] using hb
      exact Or.inr hreg
    · simp [hold] at hnone
  · rintro ⟨⟨hid, haddr, hwaiting⟩, hmisses⟩
    have hfree := requireFreeAddress_eq_ok.2 hmisses
    have hidentity : refuseIf (agent.identityId = "" ∨ !isAddress agent.address) "missing_identity"
        "joining needs an ERC-8004 identity id and a 0x wallet address" = .ok () := by
      simp [hid, haddr]
    simp only [requestAgent, hidentity, hfree, bind, Except.bind]
    rcases hold : s.agent agent.name with _ | ⟨i, old⟩
    · exact ⟨_, _, rfl⟩
    · cases hrem : old.removed with
      | true =>
        simp only [hrem, if_true]
        exact ⟨_, _, rfl⟩
      | false =>
        have hreg : old.registered = false :=
          (hwaiting i old hold).resolve_left (by simp [hrem])
        simp only [hreg, hrem, refuseIf, Bool.false_eq_true, if_false]
        exact ⟨_, _, rfl⟩

-- what the operations preserve

lemma wallets_set {agents : List Agent} {i : ℕ} {old new : Agent}
    (h : agents.Pairwise WalletsApart) (hget : agents[i]? = some old)
    (haddr : new.address = old.address) (hrem : new.removed = false → old.removed = false) :
    (agents.set i new).Pairwise WalletsApart := by
  refine pairwise_set (fun _ _ => WalletsApart.symm) h fun j b hj hb => ?_
  have hold : WalletsApart old b :=
    pairwise_getElem? (fun _ _ => WalletsApart.symm) h hj.symm hget hb
  intro hnew hb' hsame
  rw [SameWallet, haddr] at hsame
  exact hold (hrem hnew) hb' hsame

/-- The one record with role host. -/
lemma Registry.registered_of_host {agents : List Agent} (h : Registry agents) (ha : a ∈ agents)
    (hrole : a.role = "host") : a.registered = true ∧ a.removed = false := by
  obtain ⟨host, hfilter, hreg, hrem⟩ := h.host
  have hmem : a ∈ agents.filter (fun a => a.role = "host") := by
    simp [ha, hrole]
  rw [hfilter, List.mem_singleton] at hmem
  rw [hmem]
  exact ⟨hreg, hrem⟩

lemma host_set {agents : List Agent} {i : ℕ} {old new : Agent} (h : Registry agents)
    (hget : agents[i]? = some old) (hguest : old.role ≠ "host") (hrole : new.role = old.role) :
    ∃ a, (agents.set i new).filter (fun a => a.role = "host") = [a] ∧ a.registered = true ∧
      a.removed = false := by
  obtain ⟨host, hfilter, hhost⟩ := h.host
  refine ⟨host, ?_, hhost⟩
  rw [filter_set_of_neg hget (by simpa using hguest) (by rw [hrole]; simpa using hguest), hfilter]

/-- A name without outer blanks. -/
def TrimmedName (a : Agent) : Prop := strip a.name = a.name

instance (a : Agent) : Decidable (TrimmedName a) :=
  inferInstanceAs (Decidable (strip a.name = a.name))

lemma trimmed_of_trimmedName (h : TrimmedName a) : Trimmed (key a) := by
  rw [Trimmed, key, strip_lower, h]

lemma lookupKey_of_trimmedName (h : TrimmedName a) : lookupKey a.name = lower a.name := by
  rw [lookupKey, h]

def NamesTrimmed (s : FundState) : Prop := ∀ a ∈ s.agents, TrimmedName a

lemma names_of_trimmed (hs : AgentsOk s.agents) (htrim : NamesTrimmed s) :
    s.agents.Pairwise fun a b => lower a.name ≠ lower b.name :=
  (List.pairwise_map.1 hs.names).imp_of_mem fun ha _ hne => hne (trimmed_of_trimmedName (htrim _ ha))

lemma namesTrimmed_set {i : ℕ} {old new : Agent} (hs : NamesTrimmed s)
    (ha : a ∈ s.agents.set i new) (hget : s.agents[i]? = some old) (hname : new.name = old.name) :
    TrimmedName a := by
  rcases mem_set_cases ha with rfl | ha
  · rw [TrimmedName, hname]
    exact hs old (List.mem_of_getElem? hget)
  · exact hs a ha

lemma namesTrimmed_act {act : Act} {r : act.Reply} (hs : NamesTrimmed s)
    (hrequest : ∀ agent, act = .requestAgent agent → TrimmedName agent)
    (h : act.mutate now s = .ok (r, s')) : NamesTrimmed s' := by
  rcases (actFrame h).agents with
    (⟨agent, rfl⟩ | ⟨actor, name, tx, caller, rfl⟩ | ⟨actor, name, caller, rfl⟩) | heq
  · have hjoined : TrimmedName (joinedAgent agent now) := hrequest agent rfl
    obtain ⟨-, -, ⟨i, old, -, -, rfl, rfl⟩ | ⟨i, old, hfound, -, -, rfl, rfl⟩ | ⟨-, rfl, rfl⟩⟩ :=
      requestAgent_ok h
    · intro a ha
      rcases List.mem_append.1 ha with ha | ha
      · exact hs a (List.mem_of_mem_erase ha)
      · rwa [List.mem_singleton.1 ha]
    · exact fun a ha => namesTrimmed_set hs ha (agent_getElem? hfound) rfl
    · intro a ha
      rcases List.mem_append.1 ha with ha | ha
      · exact hs a ha
      · rwa [List.mem_singleton.1 ha]
  · obtain ⟨-, -, i, target, hfound, -, -, hr, -, rfl⟩ := approveAgent_ok h
    have hname : r.1.name = target.name := by rw [hr, approvedAgent_name]
    exact fun a ha => namesTrimmed_set hs ha (targetAgent_getElem? hfound) hname
  · obtain ⟨-, -, i, target, hfound, -, -, rfl, rfl⟩ := removeAgent_ok h
    exact fun a ha => namesTrimmed_set hs ha (targetAgent_getElem? hfound) rfl
  · rwa [NamesTrimmed, heq]

/-- The record that a join writes shares its wallet with no other active agent. -/
lemma walletsApart_of_join {r b : Agent} (hok : Joinable s agent ∧ LookupMisses s agent)
    (hgood : ¬HiddenJoin s agent) (haddr : r.address = agent.address) (hb : b ∈ s.agents)
    (hname : lower b.name ≠ lower agent.name) : WalletsApart r b := by
  rintro - hrem ⟨-, -, hsame⟩
  refine hgood ⟨hok.1, ⟨b, hb, hrem, ?_, hname⟩, hok.2⟩
  rw [← hsame, haddr]

/-- What the registry asks besides unique names. -/
structure HostAndWallets (agents : List Agent) : Prop where
  host : ∃ a, agents.filter (fun a => a.role = "host") = [a] ∧ a.registered = true ∧
    a.removed = false
  wallets : agents.Pairwise WalletsApart

lemma hostAndWallets_joined {agents : List Agent} (h : HostAndWallets agents)
    (hapart : ∀ b ∈ agents, WalletsApart (joinedAgent agent now) b) :
    HostAndWallets (agents ++ [joinedAgent agent now]) where
  host := by
    obtain ⟨host, hfilter, hhost⟩ := h.host
    refine ⟨host, ?_, hhost⟩
    rw [List.filter_append, hfilter]
    simp [joinedAgent]
  wallets := by
    refine List.pairwise_append.2 ⟨h.wallets, List.pairwise_singleton _ _, fun b hb r hr => ?_⟩
    obtain rfl := List.mem_singleton.1 hr
    exact (hapart b hb).symm

lemma hostAndWallets_requestAgent {r : Agent} (hs : Registry s.agents) (hsok : AgentsOk s.agents)
    (htrim : TrimmedName agent) (hgood : ¬HiddenJoin s agent)
    (h : requestAgent agent now s = .ok (r, s')) : HostAndWallets s'.agents := by
  have hok := requestAgent_isOk.1 ⟨r, s', h⟩
  have hkey : lookupKey agent.name = lower agent.name := lookupKey_of_trimmedName htrim
  have hapart : ∀ b ∈ s.agents, lower b.name ≠ lower agent.name →
      WalletsApart (joinedAgent agent now) b :=
    fun b hb hname => walletsApart_of_join hok hgood rfl hb hname
  obtain ⟨-, -, ⟨i, old, hfound, hrem, rfl, rfl⟩ | ⟨i, old, hfound, hrem, hreg, rfl, rfl⟩ |
    ⟨hnone, rfl, rfl⟩⟩ := requestAgent_ok h
  · have hold : old ∈ s.agents := List.mem_of_getElem? (agent_getElem? hfound)
    have hrole : old.role ≠ "host" := by
      intro hrole
      rw [(hs.registered_of_host hold hrole).2] at hrem
      exact Bool.false_ne_true hrem
    have herased : HostAndWallets (s.agents.erase old) := by
      obtain ⟨host, hfilter, hhost⟩ := hs.host
      refine ⟨⟨host, ?_, hhost⟩, hs.wallets.sublist List.erase_sublist⟩
      rw [filter_erase_of_neg _ (by simpa using hrole), hfilter]
    refine hostAndWallets_joined herased fun b hb => hapart b (List.mem_of_mem_erase hb) ?_
    rw [← hkey]
    exact key_ne_of_erase hsok hfound hb
  · have hget := agent_getElem? hfound
    have hold : old ∈ s.agents := List.mem_of_getElem? hget
    have hrole : old.role ≠ "host" := by
      intro hrole
      rw [(hs.registered_of_host hold hrole).1] at hreg
      exact Bool.false_ne_true hreg.symm
    refine ⟨host_set hs hget hrole rfl, ?_⟩
    refine pairwise_set (fun _ _ => WalletsApart.symm) hs.wallets fun j b hj hb => ?_
    have hname : lower b.name ≠ lower agent.name := by
      rw [← hkey, ← agent_name hfound]
      exact pairwise_getElem? (fun _ _ h => h.symm) hs.names hj hb hget
    exact walletsApart_of_join hok hgood rfl (List.mem_of_getElem? hb) hname
  · refine hostAndWallets_joined ⟨hs.host, hs.wallets⟩ fun b hb => hapart b hb ?_
    rw [← hkey]
    exact key_ne_of_notFound hnone hb

lemma hostAndWallets_act {act : Act} {r : act.Reply} (hs : Registry s.agents)
    (hsok : AgentsOk s.agents)
    (hrequest : ∀ agent, act = .requestAgent agent → TrimmedName agent ∧ ¬HiddenJoin s agent)
    (h : act.mutate now s = .ok (r, s')) : HostAndWallets s'.agents := by
  rcases (actFrame h).agents with
    (⟨agent, rfl⟩ | ⟨actor, name, tx, caller, rfl⟩ | ⟨actor, name, caller, rfl⟩) | heq
  · obtain ⟨htrim, hgood⟩ := hrequest agent rfl
    exact hostAndWallets_requestAgent hs hsok htrim hgood h
  · obtain ⟨-, -, i, target, hfound, -, hwaiting, hr, -, rfl⟩ := approveAgent_ok h
    have hget := targetAgent_getElem? hfound
    have hguest : target.role ≠ "host" := by
      intro hrole
      rw [(hs.registered_of_host (List.mem_of_getElem? hget) hrole).1] at hwaiting
      exact Bool.false_ne_true hwaiting.symm
    have hkept : r.1.address = target.address ∧ r.1.removed = target.removed := by
      rw [hr, approvedAgent]
      split_ifs <;> exact ⟨rfl, rfl⟩
    refine ⟨host_set hs hget hguest (by rw [hr, approvedAgent_role]), ?_⟩
    exact wallets_set hs.wallets hget hkept.1 (by rw [hkept.2]; exact id)
  · obtain ⟨-, -, i, target, hfound, -, hguest, rfl, rfl⟩ := removeAgent_ok h
    have hget := targetAgent_getElem? hfound
    exact ⟨host_set hs hget hguest rfl, wallets_set hs.wallets hget rfl (by simp)⟩
  · rw [heq]
    exact ⟨hs.host, hs.wallets⟩

-- runs

/-- The joins of an operation have a name without outer blanks. -/
def TrimmedJoin (op : Op) : Prop :=
  ∀ agent, op.update = .act (.requestAgent agent) → TrimmedName agent

/-- The operation is a join request for a taken wallet that the lookup does not notice. -/
def JoinsHidden (s : FundState) (op : Op) : Prop :=
  ∃ agent, op.update = .act (.requestAgent agent) ∧ HiddenJoin s agent

lemma namesTrimmed_next {op : Op} (hs : NamesTrimmed s) (htrim : TrimmedJoin op) :
    NamesTrimmed (fundStore.next op s) := by
  refine @Interface.next_preserves _ _ fundStore NamesTrimmed op s hs ?_
  intro reply s' h
  rcases agents_of_exec h with heq | ⟨act, clock, r, mid, rfl, hm, heq⟩
  · rwa [NamesTrimmed, heq]
  · rw [NamesTrimmed, heq]
    refine namesTrimmed_act hs ?_ hm
    rintro agent rfl
    exact htrim agent rfl

lemma registry_next {op : Op} (hs : Registry s.agents) (hsok : AgentsOk s.agents)
    (hnames : NamesTrimmed s) (htrim : TrimmedJoin op) (hgood : ¬JoinsHidden s op) :
    Registry (fundStore.next op s).agents := by
  have hunique := names_of_trimmed (agentsOk_next hsok) (namesTrimmed_next hnames htrim)
  have hrest : HostAndWallets (fundStore.next op s).agents := by
    refine @Interface.next_preserves _ _ fundStore (fun s => HostAndWallets s.agents) op s
      ⟨hs.host, hs.wallets⟩ ?_
    intro reply s' h
    rcases agents_of_exec h with heq | ⟨act, clock, r, mid, rfl, hm, heq⟩
    · rw [heq]
      exact ⟨hs.host, hs.wallets⟩
    · rw [heq]
      refine hostAndWallets_act hs hsok ?_ hm
      rintro agent rfl
      exact ⟨htrim agent rfl, fun hhidden => hgood ⟨agent, rfl, hhidden⟩⟩
  exact ⟨hrest.host, hunique, hrest.wallets⟩

/-- A hidden join leaves two active agents with one wallet. -/
lemma not_registry_of_hidden {op : Op} (htrim : TrimmedJoin op) (h : JoinsHidden s op) :
    ¬Registry (fundStore.next op s).agents := by
  obtain ⟨agent, hop, hjoinable, ⟨b, hb, hbrem, hsame, hname⟩, hmissed⟩ := h
  obtain ⟨update, clock⟩ := op
  obtain rfl : update = .act (.requestAgent agent) := hop
  obtain ⟨r, mid, hrequest⟩ :=
    (@requestAgent_isOk clock.now _ _).2 ⟨hjoinable, hmissed⟩
  have hnext : (fundStore.next ⟨.act (.requestAgent agent), clock⟩ s).agents = mid.agents := by
    rw [Interface.next_of_ok (I := fundStore)
      (Op.exec_of_ok ⟨.act (.requestAgent agent), clock⟩ hrequest)]
    rfl
  have htrimmed : lookupKey agent.name = lower agent.name :=
    lookupKey_of_trimmedName (htrim agent rfl)
  have haddr : agent.address ≠ "" := by
    intro hempty
    have hbad := hjoinable.address
    rw [hempty] at hbad
    exact absurd hbad (by decide)
  have hbaddr : b.address ≠ "" := by
    intro hempty
    rw [hempty] at hsame
    exact haddr (lower_eq_empty hsame.symm)
  suffices hpair : ∃ r' ∈ mid.agents, b ∈ mid.agents ∧ r'.removed = false ∧
      r'.address = agent.address ∧ lower r'.name = lower agent.name by
    obtain ⟨r', hr', hbmid, hrem, hraddr, hrname⟩ := hpair
    rintro ⟨-, -, hwallets⟩
    rw [hnext] at hwallets
    obtain ⟨i, hi⟩ := List.getElem?_of_mem hr'
    obtain ⟨j, hj⟩ := List.getElem?_of_mem hbmid
    have hij : i ≠ j := by
      rintro rfl
      obtain rfl : r' = b := Option.some.inj (hi.symm.trans hj)
      exact hname hrname
    have hapart := pairwise_getElem? (fun _ _ => WalletsApart.symm) hwallets hij hi hj
    refine hapart hrem hbrem ⟨hraddr ▸ haddr, hbaddr, ?_⟩
    rw [hraddr, hsame]
  obtain ⟨-, -, ⟨i, old, hfound, hrem, rfl, rfl⟩ | ⟨i, old, hfound, hrem, hreg, rfl, rfl⟩ |
    ⟨hnone, rfl, rfl⟩⟩ := requestAgent_ok hrequest
  · have hbold : b ≠ old := by
      rintro rfl
      rw [hbrem] at hrem
      exact Bool.false_ne_true hrem
    refine ⟨joinedAgent agent clock.now, by simp, ?_, rfl, rfl, rfl⟩
    exact List.mem_append_left _ ((List.mem_erase_of_ne hbold).2 hb)
  · have hget := agent_getElem? hfound
    have hown : lower old.name = lower agent.name := (agent_name hfound).trans htrimmed
    obtain ⟨j, hj⟩ := List.getElem?_of_mem hb
    have hij : i ≠ j := by
      rintro rfl
      obtain rfl : b = old := Option.some.inj (hj.symm.trans hget)
      exact hname hown
    have hlt : i < s.agents.length := (List.getElem?_eq_some_iff.1 hget).1
    refine ⟨rejoinedAgent old agent, List.mem_set hlt _, ?_, hrem, rfl, hown⟩
    exact List.mem_of_getElem? (by rw [List.getElem?_set_ne hij, hj])
  · exact ⟨joinedAgent agent clock.now, by simp, List.mem_append_left _ hb, rfl, rfl, rfl⟩

/-- No join of a run is hidden. -/
def NoJoinHidden (s₀ : FundState) (ops : List Op) : Prop :=
  ∀ pre op post, ops = pre ++ op :: post → ¬JoinsHidden (fundStore.runOps pre s₀) op

/-- The registry is intact in every state of a run. -/
def RegistryAlways (s₀ : FundState) (ops : List Op) : Prop :=
  ∀ pre post, ops = pre ++ post → Registry (fundStore.runOps pre s₀).agents

lemma namesTrimmed_runOps {ops : List Op} (htrim : ∀ op ∈ ops, TrimmedJoin op)
    (hs : NamesTrimmed s) : NamesTrimmed (fundStore.runOps ops s) := by
  induction ops generalizing s with
  | nil => exact hs
  | cons op ops ih =>
    exact ih (fun o ho => htrim o (by simp [ho])) (namesTrimmed_next hs (htrim op (by simp)))

lemma agentsOk_runOps (hs : AgentsOk s.agents) (ops : List Op) :
    AgentsOk (fundStore.runOps ops s).agents := by
  induction ops generalizing s with
  | nil => exact hs
  | cons op ops ih => exact ih (agentsOk_next hs)

lemma registry_runOps {ops : List Op} (htrim : ∀ op ∈ ops, TrimmedJoin op)
    (hs : Registry s.agents) (hsok : AgentsOk s.agents) (hnames : NamesTrimmed s)
    (hgood : NoJoinHidden s ops) : Registry (fundStore.runOps ops s).agents := by
  induction ops generalizing s with
  | nil => exact hs
  | cons op ops ih =>
    have hop : TrimmedJoin op := htrim op (by simp)
    have hfirst : ¬JoinsHidden s op := hgood [] op ops rfl
    refine ih (fun o ho => htrim o (by simp [ho])) (registry_next hs hsok hnames hop hfirst)
      (agentsOk_next hsok) (namesTrimmed_next hnames hop) ?_
    rintro pre o post rfl
    exact hgood (op :: pre) o post rfl

/-- In a run from a new fund the registry is intact throughout exactly when the host agent is not
created as a removed one and no join is hidden. -/
theorem registryAlways_iff {fund : Fund} {host : Agent} {stamp : Time}
    (hcreate : createFund fund host now stamp = .ok s₀) (hname : TrimmedName host) {ops : List Op}
    (htrim : ∀ op ∈ ops, TrimmedJoin op) :
    RegistryAlways s₀ ops ↔ host.removed = false ∧ NoJoinHidden s₀ ops := by
  have hsok := agentsOk_createFund hcreate
  obtain ⟨created, hs₀, hcname, hcrole, hcreg, hcremoved⟩ : ∃ a, s₀.agents = [a] ∧
      a.name = host.name ∧ a.role = "host" ∧ a.registered = true ∧ a.removed = host.removed := by
    simp only [createFund, bind_eq_ok, pure_eq_ok] at hcreate
    obtain ⟨-, -, name, -, rfl⟩ := hcreate
    exact ⟨_, rfl, rfl, rfl, rfl, rfl⟩
  have hfilter : s₀.agents.filter (fun a => a.role = "host") = [created] := by
    simp [hs₀, hcrole]
  have hnames : NamesTrimmed s₀ := by
    intro a ha
    rw [hs₀, List.mem_singleton] at ha
    rw [ha, TrimmedName, hcname]
    exact hname
  constructor
  · intro hall
    constructor
    · obtain ⟨a, ha, -, hrem⟩ := (hall [] ops rfl).host
      rw [Interface.runOps_nil, hfilter] at ha
      obtain rfl : created = a := by simpa using ha
      rw [← hcremoved, hrem]
    · rintro pre op post hops hhidden
      refine not_registry_of_hidden (htrim op (by simp [hops])) hhidden ?_
      have hnext := hall (pre ++ [op]) post (by simp [hops])
      rwa [Interface.runOps_concat] at hnext
  · rintro ⟨hremoved, hgood⟩ pre post rfl
    have hs : Registry s₀.agents := by
      refine ⟨⟨created, hfilter, hcreg, hcremoved.trans hremoved⟩, ?_, ?_⟩
      · rw [hs₀]
        exact List.pairwise_singleton _ _
      · rw [hs₀]
        exact List.pairwise_singleton _ _
    refine registry_runOps (fun o ho => htrim o (by simp [ho])) hs hsok hnames ?_
    rintro before op after rfl
    exact hgood before op (after ++ post) (by simp)

theorem registryAlways_of_join : RegistryAlways sampleState joinOps := by
  have htrim : ∀ op ∈ joinOps, TrimmedJoin op := by
    simp only [joinOps, List.forall_mem_cons, List.not_mem_nil, false_imp_iff, implies_true,
      and_true]
    refine ⟨fun agent hop => ?_, fun agent hop => ?_⟩
    · cases hop
      decide +kernel
    · cases hop
  refine (registryAlways_iff createFund_sample (by decide +kernel) htrim).2 ⟨rfl, ?_⟩
  rintro pre op post hops ⟨agent, hop, -, ⟨b, hb, -, hsame, -⟩, -⟩
  match pre with
  | [] =>
    obtain rfl : op = ⟨.act (.requestAgent sampleGuest), ⟨1010, 1010⟩⟩ :=
      (List.cons.inj hops).1.symm
    cases hop
    obtain rfl : b = _ := List.mem_singleton.1 hb
    exact absurd hsame (by decide +kernel)
  | [_] =>
    obtain rfl : op = ⟨.act (.approveAgent "Iris" "beta" "0xaa" none), ⟨1020, 1020⟩⟩ := by
      exact (List.cons.inj (List.cons.inj hops).2).1.symm
    cases hop
  | _ :: _ :: _ => simp [joinOps] at hops

/-- Beta's wallet, after its removal, taken up by two other agents. -/
def reusedWalletOps : List Op :=
  [⟨.act (.requestAgent sampleGuest), ⟨1010, 1010⟩⟩,
    ⟨.act (.removeAgent "Iris" "Beta" none), ⟨1020, 1020⟩⟩,
    ⟨.act (.requestAgent { sampleGuest with name := "Gamma" }), ⟨1030, 1030⟩⟩,
    ⟨.act (.requestAgent { sampleGuest with name := "Delta" }), ⟨1040, 1040⟩⟩]

theorem not_registryAlways_of_reused_wallet : ¬RegistryAlways sampleState reusedWalletOps := by
  intro hall
  have hwallets := (hall reusedWalletOps [] rfl).wallets
  have hgamma : (fundStore.runOps reusedWalletOps sampleState).agents[2]? =
      some (joinedAgent { sampleGuest with name := "Gamma" } 1030) := by
    decide +kernel
  have hdelta : (fundStore.runOps reusedWalletOps sampleState).agents[3]? =
      some (joinedAgent { sampleGuest with name := "Delta" } 1040) := by
    decide +kernel
  have hapart := pairwise_getElem? (fun _ _ => WalletsApart.symm) hwallets
    (by decide) hgamma hdelta
  exact hapart rfl rfl ⟨by decide, by decide, rfl⟩

end SherwoodMonitor.AgentRegistry
