import SherwoodMonitor.AgentAuthority
import SherwoodMonitor.FundWrites
import SherwoodMonitor.Library.Table

/-! What the host signs for an agent, and what is later marked registered. The body of the signature
is handed out at one time, by `approve_agent` or in the link of `host_action_url`; the record is
marked by a later approval with a transaction hash. In between, anyone may ask to join. -/
namespace SherwoodMonitor.ApprovalBinding
open PyText Lookup Models FundState Rules Service Calls Effects AtomicStore FundWrites AgentAuthority

/-- The wallet and the ERC-8004 identity of an agent. -/
structure Details where
  address : String
  identityId : String
  deriving DecidableEq

def detailsOf (a : Agent) : Details := ⟨a.address, a.identityId⟩

/-- What a body has signed. -/
def bodyDetails (body : RegisterBody) : Details := ⟨body.agentAddress, body.agentId⟩

/-- The bodies of the host's links. -/
inductive HostBody
  | depositor (body : DepositorBody)
  | register (body : RegisterBody)

/-- `host_action_url`: the body that its link carries. -/
def hostActionBody (state : FundState) (action arg : String) : Option HostBody :=
  if action = "approve_member" then
    match state.member arg with
    | none => none
    | some (_, member) =>
        if member.address = "" then none
        else some (.depositor ⟨state.fund.chainId, state.fund.vault, member.address⟩)
  else if action = "approve_agent" then
    (state.agent arg).map fun r => .register (registerBody state.fund r.2)
  else none

/-- A body is handed to the host for the agent of a name, and the state is then `s'`. -/
inductive HandsOut (s : FundState) : FundState → RegisterBody → String → Prop
  | reply {actor name tx : String} {caller : Option String} {clock : Clock} {a : Agent}
      {body : RegisterBody} {mid : FundState} :
      approveAgent actor name tx caller clock.now s = .ok ((a, body), mid) →
      HandsOut s (bump mid clock.stamp) body (key a)
  | link {arg : String} {body : RegisterBody} :
      hostActionBody s "approve_agent" arg = some (.register body) →
      HandsOut s s body (lookupKey arg)

/-- The details that a write joins under the name with. -/
def joinsWith (k : String) (s : FundState) : Write → Option Details
  | .op ⟨.act (.requestAgent agent), clock⟩ =>
      match requestAgent agent clock.now s with
      | .ok _ => if lookupKey agent.name = k then some ⟨agent.address, agent.identityId⟩ else none
      | .error _ => none
  | _ => none

/-- The details of the last join under the name; those given where there is none. -/
def lastAsked (k : String) : Details → FundState → List Write → Details
  | d, _, [] => d
  | d, s, w :: writes => lastAsked k ((joinsWith k s w).getD d) (writeStore.next w s) writes

/-- Whoever goes by the name has these details. -/
def Known (k : String) (d : Details) (s : FundState) : Prop :=
  ∀ (j : ℕ) (b : Agent), s.agents[j]? = some b → key b = k → detailsOf b = d

variable {k : String} {d : Details} {s s' : FundState} {now : Time}

lemma detailsOf_approvedAgent (target : Agent) (tx : String) :
    detailsOf (approvedAgent target tx now) = detailsOf target := by
  unfold approvedAgent
  dsimp only
  split_ifs <;> rfl

/-- A record written in its place under its old name. -/
lemma Known.set {i : ℕ} {old r : Agent} (h : Known k d s)
    (hs : s'.agents = s.agents.set i r) (hname : r.name = old.name)
    (hr : key old = k → detailsOf r = d) : Known k d s' := by
  intro j b hb hkey
  rw [hs] at hb
  rcases Table.set_cases hb with ⟨-, rfl⟩ | ⟨-, hb⟩
  · refine hr ?_
    rw [← hkey]
    exact congrArg lower hname.symm
  · exact h j b hb hkey

lemma Known.of_eq (h : Known k d s) (hs : s'.agents = s.agents) : Known k d s' := by
  intro j b hb
  rw [hs] at hb
  exact h j b hb

/-- Records that join stand behind those that stay. -/
lemma Known.joined {agents : List Agent} {r : Agent} (hs : s'.agents = agents ++ [r])
    (hold : ∀ b ∈ agents, key b = k → detailsOf b = d) (hr : key r = k → detailsOf r = d) :
    Known k d s' := by
  intro j b hb hkey
  rw [hs] at hb
  rcases Table.concat_cases hb with ⟨-, rfl⟩ | hb
  · exact hr hkey
  · exact hold b (List.mem_of_getElem? hb) hkey

/-- A join under another name. -/
lemma known_other {agent r : Agent} (htrim : Trimmed k) (h : Known k d s)
    (hm : requestAgent agent now s = .ok (r, s')) (hne : lookupKey agent.name ≠ k) :
    Known k d s' := by
  have hmem : ∀ b ∈ s.agents, key b = k → detailsOf b = d := by
    intro b hb hkey
    obtain ⟨j, hj⟩ := List.getElem?_of_mem hb
    exact h j b hj hkey
  have hnew : key (joinedAgent agent now) ≠ k := by
    intro hkey
    have hlower : lower agent.name = k := hkey
    refine hne ?_
    rw [lookupKey_of_trimmed (by rw [hlower]; exact htrim), hlower]
  obtain ⟨-, -, ⟨i, old, hfound, -, rfl, rfl⟩ | ⟨i, old, hfound, -, -, rfl, rfl⟩ |
    ⟨hnone, rfl, rfl⟩⟩ := requestAgent_ok hm
  · exact Known.joined rfl (fun b hb => hmem b (List.mem_of_mem_erase hb)) fun hkey => absurd hkey hnew
  · refine h.set rfl rfl fun hkey => absurd ?_ hne
    rw [← hkey]
    exact (key_of_found hfound).symm
  · exact Known.joined rfl hmem fun hkey => absurd hkey hnew

/-- A join under the name leaves no other details under it. -/
lemma known_join {agent r : Agent} (hs : AgentsOk s.agents)
    (hm : requestAgent agent now s = .ok (r, s')) :
    Known (lookupKey agent.name) ⟨agent.address, agent.identityId⟩ s' := by
  obtain ⟨-, -, ⟨i, old, hfound, -, rfl, rfl⟩ | ⟨i, old, hfound, -, -, rfl, rfl⟩ |
    ⟨hnone, rfl, rfl⟩⟩ := requestAgent_ok hm
  · exact Known.joined rfl (fun b hb hkey => absurd hkey (key_ne_of_erase hs hfound hb)) fun _ => rfl
  · intro j b hb hkey
    rcases Table.set_cases hb with ⟨-, rfl⟩ | ⟨hj, hb⟩
    · rfl
    · have hold := agent_getElem? hfound
      have hsame : key b = key old := hkey.trans (key_of_found hfound).symm
      have htrim : Trimmed (key old) := key_of_found hfound ▸ trimmed_lookupKey _
      have hlt := hs.names.not_lt hold hb htrim hsame.symm
      have hgt := hs.names.not_lt hb hold (hsame ▸ htrim) hsame
      omega
  · exact Known.joined rfl (fun b hb hkey => absurd hkey (key_ne_of_notFound hnone hb)) fun _ => rfl

lemma known_act {act : Act} {r : act.Reply} (h : Known k d s)
    (hm : act.mutate now s = .ok (r, s')) (hother : ∀ agent, act ≠ .requestAgent agent) :
    Known k d s' := by
  rcases (actFrame hm).agents with
    (⟨agent, rfl⟩ | ⟨actor, name, tx, caller, rfl⟩ | ⟨actor, name, caller, rfl⟩) | heq
  · exact absurd rfl (hother agent)
  · obtain ⟨-, -, i, target, hfound, -, -, hr, -, rfl⟩ := approveAgent_ok hm
    have hget := targetAgent_getElem? hfound
    have hname : r.1.name = target.name := by rw [hr, approvedAgent_name]
    refine h.set rfl hname fun hkey => ?_
    rw [hr, detailsOf_approvedAgent]
    exact h i target hget hkey
  · obtain ⟨-, -, i, target, hfound, -, -, rfl, rfl⟩ := removeAgent_ok hm
    have hget := targetAgent_getElem? hfound
    exact h.set rfl rfl fun hkey => h i target hget hkey
  · exact h.of_eq heq

lemma agentsOk_write {w : Write} (hs : AgentsOk s.agents) :
    AgentsOk (writeStore.next w s).agents := by
  refine @Interface.next_preserves _ _ writeStore (fun s => AgentsOk s.agents) w s hs ?_
  intro reply s' h
  rcases frame_of_exec h with ⟨op, rfl⟩ | ⟨-, -, -, hagents, -⟩
  · have hnext : AgentsOk (fundStore.next op s).agents := agentsOk_next hs
    rwa [Interface.next_of_ok (I := fundStore) h] at hnext
  · rwa [hagents]

/-- A write leaves the details under a name, or the ones that it joins with. -/
lemma known_next {w : Write} (htrim : Trimmed k) (hs : AgentsOk s.agents) (h : Known k d s) :
    Known k ((joinsWith k s w).getD d) (writeStore.next w s) := by
  cases hexec : w.exec s with
  | error e =>
    have hnext : writeStore.next w s = s := by simp only [Interface.next, hexec]
    have hnone : joinsWith k s w = none := by
      unfold joinsWith
      split
      · rename_i agent clock
        cases hm : requestAgent agent clock.now s with
        | error e => rfl
        | ok r =>
          obtain ⟨reply, mid⟩ := r
          have hok := Op.exec_of_ok ⟨.act (.requestAgent agent), clock⟩ hm
          have hfail : (⟨.act (.requestAgent agent), clock⟩ : Op).exec s = .error e := hexec
          rw [hok] at hfail
          cases hfail
      · rfl
    rw [hnext, hnone]
    exact h
  | ok r =>
    obtain ⟨reply, s'⟩ := r
    have hnext : writeStore.next w s = s' := Interface.next_of_ok (I := writeStore) hexec
    rw [hnext]
    by_cases hjoin : ∃ agent clock, w = .op ⟨.act (.requestAgent agent), clock⟩
    · obtain ⟨agent, clock, rfl⟩ := hjoin
      have hop : (⟨.act (.requestAgent agent), clock⟩ : Op).exec s = .ok (reply, s') := hexec
      obtain ⟨mid, hm, rfl⟩ := Op.exec_ok hop
      have hm' : requestAgent agent clock.now s = .ok (reply, mid) := hm
      unfold joinsWith
      dsimp only
      rw [hm']
      dsimp only
      by_cases hk : lookupKey agent.name = k
      · subst hk
        rw [if_pos rfl]
        exact (known_join hs hm').of_eq rfl
      · rw [if_neg hk]
        exact (known_other htrim h hm' hk).of_eq rfl
    · have hnone : joinsWith k s w = none := by
        unfold joinsWith
        split
        · rename_i agent clock
          exact absurd ⟨agent, clock, rfl⟩ hjoin
        · rfl
      rw [hnone]
      rcases frame_of_exec hexec with ⟨op, rfl⟩ | ⟨-, -, -, hagents, -⟩
      · rcases agents_of_exec hexec with heq | ⟨act, clock, reply, mid, rfl, hm, heq⟩
        · exact h.of_eq heq
        · refine (known_act h hm fun agent hact => hjoin ⟨agent, clock, ?_⟩).of_eq heq
          rw [hact]
      · exact h.of_eq hagents

/-- After any writes, whoever goes by a name has the details of the last join under it. -/
lemma known_run {writes : List Write} (htrim : Trimmed k) (hs : AgentsOk s.agents)
    (h : Known k d s) : Known k (lastAsked k d s writes) (writeStore.runOps writes s) := by
  induction writes generalizing s d with
  | nil => exact h
  | cons w writes ih =>
    rw [lastAsked, Interface.runOps_cons]
    exact ih (agentsOk_write hs) (known_next htrim hs h)

lemma agentsOk_run {writes : List Write} (hs : AgentsOk s.agents) :
    AgentsOk (writeStore.runOps writes s).agents := by
  induction writes generalizing s with
  | nil => exact hs
  | cons w writes ih =>
    rw [Interface.runOps_cons]
    exact ih (agentsOk_write hs)

lemma known_self {a : Agent} (hs : AgentsOk s.agents) (ha : a ∈ s.agents)
    (htrim : Trimmed (key a)) : Known (key a) (detailsOf a) s := by
  intro j b hb hkey
  obtain ⟨i, hi⟩ := List.getElem?_of_mem ha
  rw [hs.names.eq_of_key hi hb htrim hkey.symm]

/-- What is handed out is what is known under the name. -/
lemma known_handsOut {body : RegisterBody} (hs : AgentsOk s.agents) (htrim : Trimmed k)
    (h : HandsOut s s' body k) : AgentsOk s'.agents ∧ Known k (bodyDetails body) s' := by
  cases h with
  | @reply actor name tx caller clock a _ mid hm =>
    obtain ⟨-, -, i, target, hfound, -, -, ha, hbody, hmid⟩ := approveAgent_ok hm
    have hok : AgentsOk mid.agents :=
      @agentsOk_act _ _ _ (.approveAgent actor name tx caller) _ hs hm
    have hmem : a ∈ mid.agents := by
      rw [hmid]
      exact List.mem_of_getElem? (Table.set_self (targetAgent_getElem? hfound))
    have hdetails : bodyDetails body = detailsOf a := by
      rw [show body = registerBody s.fund a from hbody]
      rfl
    rw [hdetails]
    exact ⟨hok, (known_self hok hmem htrim).of_eq rfl⟩
  | @link arg _ hbody =>
    unfold hostActionBody at hbody
    rw [if_neg (by decide), if_pos rfl, Option.map_eq_some_iff] at hbody
    obtain ⟨⟨i, a⟩, hfound, heq⟩ := hbody
    have hdetails : bodyDetails body = detailsOf a := by
      rw [← HostBody.register.inj heq]
      rfl
    have hmem := List.mem_of_getElem? (agent_getElem? hfound)
    have hkey := key_of_found hfound
    rw [hdetails, ← hkey]
    rw [← hkey] at htrim
    exact ⟨hs, known_self hs hmem htrim⟩

/-- A fund's whole life: a body is handed to the host for a name that lookups find, any writes
follow, and an approval with a transaction hash marks the agent of that name registered. The record
has the wallet and the identity of the body exactly when the last join under the name in between, if
there is one, asked with them. -/
theorem registered_as_signed_iff {fund : Fund} {host : Agent} {created stamp : Time}
    {s₀ s₁ : FundState} (hcreate : createFund fund host created stamp = .ok s₀) {before between : List Write}
    {body : RegisterBody} (htrim : Trimmed k)
    (hhanded : HandsOut (writeStore.runOps before s₀) s₁ body k)
    {actor name tx : String} {caller : Option String} {r : Agent} {reply : RegisterBody}
    (htx : tx ≠ "")
    (happrove : approveAgent actor name tx caller now (writeStore.runOps between s₁) =
      .ok ((r, reply), s'))
    (hname : key r = k) :
    r ∈ s'.agents ∧ r.registered = true ∧ r.registerTx = tx ∧
      (detailsOf r = bodyDetails body ↔
        lastAsked k (bodyDetails body) s₁ between = bodyDetails body) := by
  have hcreated : AgentsOk (writeStore.runOps before s₀).agents :=
    agentsOk_run (agentsOk_createFund hcreate)
  obtain ⟨hs, hknown⟩ := known_handsOut hcreated htrim hhanded
  have hlast : Known k (lastAsked k (bodyDetails body) s₁ between)
      (writeStore.runOps between s₁) := known_run htrim hs hknown
  obtain ⟨-, -, i, target, hfound, -, -, hr, -, hs'⟩ := approveAgent_ok happrove
  have hget := targetAgent_getElem? hfound
  have hkey : key target = k := by
    rw [← hname, key, key, show r = approvedAgent target tx now from hr, approvedAgent_name]
  have hdetails : detailsOf r = lastAsked k (bodyDetails body) s₁ between := by
    rw [show r = approvedAgent target tx now from hr, detailsOf_approvedAgent]
    exact hlast i target hget hkey
  refine ⟨?_, ?_, ?_, by rw [hdetails]⟩
  · rw [hs']
    exact List.mem_of_getElem? (Table.set_self hget)
  · rw [show r = approvedAgent target tx now from hr, approvedAgent_registered]
    simp [htx]
  · rw [show r = approvedAgent target tx now from hr, approvedAgent]
    simp [htx]

/-- A guest asks to join. -/
def askedWrites : List Write := [.op ⟨.act (.requestAgent sampleGuest), ⟨1010, 1010⟩⟩]

/-- The guest asks again, with another wallet. -/
def askedAgain : List Write :=
  [.op ⟨.act (.requestAgent
    { sampleGuest with address := "0x9999999999999999999999999999999999999999" }), ⟨1020, 1020⟩⟩]

/-- What the host's link carries for the guest. -/
def linkBody : RegisterBody :=
  registerBody sampleState.fund sampleGuest

/-- The approval with a transaction hash that follows. -/
def marked : Except Exc ((Agent × RegisterBody) × FundState) :=
  approveAgent "Iris" "beta" "0xaa" none 1030
    (writeStore.runOps askedAgain (writeStore.runOps askedWrites sampleState))

/-- The agent that asked again with another wallet is registered with it, not as signed. -/
theorem registered_as_signed_asked_again : ∃ r reply s', marked = .ok ((r, reply), s') ∧
    r.registered = true ∧
    (detailsOf r = bodyDetails linkBody ↔
      lastAsked "beta" (bodyDetails linkBody) (writeStore.runOps askedWrites sampleState)
        askedAgain = bodyDetails linkBody) ∧
    detailsOf r ≠ bodyDetails linkBody := by
  have htrim : Trimmed "beta" := by
    unfold Trimmed
    decide +kernel
  have hlink : HandsOut (writeStore.runOps askedWrites sampleState)
      (writeStore.runOps askedWrites sampleState) linkBody "beta" := by
    have hkey : lookupKey "beta" = "beta" := by decide +kernel
    have hfound : ((writeStore.runOps askedWrites sampleState).agent "beta").map
        (fun r => registerBody (writeStore.runOps askedWrites sampleState).fund r.2) =
          some linkBody := by decide +kernel
    have hbody : hostActionBody (writeStore.runOps askedWrites sampleState) "approve_agent" "beta" =
        some (.register linkBody) := by
      obtain ⟨r, hr, hlink⟩ := Option.map_eq_some_iff.1 hfound
      rw [hostActionBody, if_neg (by decide), if_pos rfl, hr, Option.map_some, hlink]
    have hhanded := HandsOut.link hbody
    rwa [hkey] at hhanded
  have hkey : marked.toOption.map (fun out => key out.1.1) = some "beta" := by decide +kernel
  cases hmarked : marked with
  | error e =>
    rw [hmarked] at hkey
    cases hkey
  | ok out =>
    obtain ⟨⟨r, reply⟩, s'⟩ := out
    rw [hmarked] at hkey
    have happrove : approveAgent "Iris" "beta" "0xaa" none 1030
        (writeStore.runOps askedAgain (writeStore.runOps askedWrites sampleState)) =
          .ok ((r, reply), s') := by
      rw [← hmarked, marked]
    have htx : "0xaa" ≠ "" := by decide
    have hname : key r = "beta" := Option.some.inj hkey
    obtain ⟨-, hregistered, -, hiff⟩ :=
      registered_as_signed_iff createFund_sample htrim hlink htx happrove hname
    have hlast : lastAsked "beta" (bodyDetails linkBody)
        (writeStore.runOps askedWrites sampleState) askedAgain ≠ bodyDetails linkBody := by
      decide +kernel
    exact ⟨r, reply, s', rfl, hregistered, hiff, fun h => hlast (hiff.1 h)⟩

end SherwoodMonitor.ApprovalBinding
