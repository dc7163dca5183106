import SherwoodMonitor.Units

/-! The coordination rules of a fund (`fund/rules.py`): every check takes the state, and the time
where it needs one, and returns a verdict. -/
namespace SherwoodMonitor.Rules
open PyUnicode PyText Lookup Models SherwoodMonitor.Units

structure Verdict where
  ok : Bool
  code : String := ""
  reason : String := ""

def allow : Verdict := ⟨true, "", ""⟩

def deny (code reason : String) : Verdict := ⟨false, code, reason⟩

/-- A failed verdict is raised as a `RuleViolation`. -/
def require (v : Verdict) : Except Exc Unit :=
  if v.ok then .ok () else .error (.rule v.code v.reason)

def firstFailure (vs : List Verdict) : Verdict := (vs.find? fun v => !v.ok).getD allow

@[simp] lemma allow_ok : allow.ok = true := rfl
@[simp] lemma deny_ok (code reason : String) : (deny code reason).ok = false := rfl

@[simp] lemma require_eq_ok {v : Verdict} {u : Unit} : require v = .ok u ↔ v.ok = true := by
  simp [require]

@[simp] lemma firstFailure_ok {vs : List Verdict} :
    (firstFailure vs).ok = true ↔ ∀ v ∈ vs, v.ok = true := by
  induction vs with
  | nil => simp [firstFailure]
  | cons v vs ih =>
    cases hv : v.ok with
    | true => simpa [firstFailure, hv] using ih
    | false => simp [firstFailure, hv]

/-- A check that another one comes before. -/
@[simp] lemma gated_ok {v w : Verdict} :
    (if !v.ok then v else w).ok = true ↔ v.ok = true ∧ w.ok = true := by
  cases hv : v.ok <;> simp [hv]

@[simp] lemma denyIf_ok {c : Prop} [Decidable c] {code reason : String} {w : Verdict} :
    (if c then deny code reason else w).ok = true ↔ ¬c ∧ w.ok = true := by
  by_cases hc : c <;> simp [hc]

@[simp] lemma elseDeny_ok {c : Prop} [Decidable c] {code reason : String} {w : Verdict} :
    (if c then w else deny code reason).ok = true ↔ c ∧ w.ok = true := by
  by_cases hc : c <;> simp [hc]

def isHexChar (c : Char) : Bool :=
  (48 ≤ c.toNat && c.toNat ≤ 57) || (65 ≤ c.toNat && c.toNat ≤ 70) ||
    (97 ≤ c.toNat && c.toNat ≤ 102)

/-- `^0x[0-9a-fA-F]*$`. -/
def isHexData (value : String) : Bool :=
  match beforeDollar value with
  | '0' :: 'x' :: l => l.all isHexChar
  | _ => false

/-- `^0x[0-9a-fA-F]{40}$`. -/
def isAddress (value : String) : Bool :=
  isHexData value && (beforeDollar value).length = 42

-- topics and claims

/-- The class `[a-z0-9$#./+\- ]`. -/
def isTopicChar (c : Char) : Bool :=
  (97 ≤ c.toNat && c.toNat ≤ 122) || (48 ≤ c.toNat && c.toNat ≤ 57) ||
    c ∈ ['$', '#', '.', '/', '+', '-', ' ']

/-- Claims compare normalized topics. -/
def normalizeTopic (topic : String) : String :=
  let text := subRuns (fun c => !isTopicChar c) (lower topic).toList
  take (strip (String.ofList (subRuns isSpace text))) 80

def claimExpiresAt (now : Time) : Time := now + claimTtlSeconds

/-- Claims still alive at `now`; a claim is dead at exactly `expiresAt`. -/
def activeClaims (state : FundState) (now : Time) : List Claim :=
  state.claims.filter fun c => now < c.expiresAt

/-- The live claim of an agent, with its place in the state. -/
def claimOf (state : FundState) (agent : String) (now : Time) : Option (ℕ × Claim) :=
  locate (fun c => decide (now < c.expiresAt) && decide (lower c.agent = lower agent)) state.claims

def claimForTopic (state : FundState) (topic : String) (now : Time) : Option Claim :=
  (activeClaims state now).find? fun c => normalizeTopic c.topic = normalizeTopic topic

def openProposalsOf (state : FundState) (agent : String) : List ProposalRecord :=
  state.proposals.filter fun p => p.isOpen && decide (lower p.proposerAgent = lower agent)

-- who may act

def checkAgentCanAct (state : FundState) (agentName : String) : Verdict :=
  match state.agent agentName with
  | none => deny "unknown_agent"
      ("agent " ++ reprText agentName ++ " is not part of fund " ++ reprText state.fund.name)
  | some (_, agent) =>
      if agent.removed then
        deny "agent_removed" ("agent " ++ reprText agent.name ++ " was removed by the host")
      else if !agent.registered then
        deny "agent_not_registered" ("agent " ++ reprText agent.name ++
          " is not registered on the vault yet; the host must approve it " ++
          "(sign registerAgent) first")
      else allow

lemma checkAgentCanAct_ok {state : FundState} {name : String} :
    (checkAgentCanAct state name).ok = true ↔
      ∃ i a, state.agent name = some (i, a) ∧ a.registered = true ∧ a.removed = false := by
  rw [checkAgentCanAct]
  rcases h : state.agent name with _ | ⟨i, a⟩
  · simp
  · cases hrem : a.removed <;> cases hreg : a.registered <;> simp [hrem, hreg]

def checkHostAction (state : FundState) (actor : String) : Verdict :=
  let refusal := deny "not_host"
    ("only the host agent of " ++ reprText state.fund.name ++ " can do that")
  match state.agent actor with
  | some (_, agent) => if agent.removed || decide (agent.role ≠ "host") then refusal else allow
  | none => refusal

lemma checkHostAction_ok {state : FundState} {actor : String} :
    (checkHostAction state actor).ok = true ↔
      ∃ i a, state.agent actor = some (i, a) ∧ a.role = "host" ∧ a.removed = false := by
  rw [checkHostAction]
  rcases h : state.agent actor with _ | ⟨i, a⟩
  · simp
  · by_cases hr : a.role = "host" <;> cases hrem : a.removed <;> simp [hr, hrem]

def hostIdUnset : String :=
  "this fund has no host on record, so nobody may do that from chat; " ++
    "ask the operator to set the fund's host"

/-- `none` (CLI, cron) passes; a caller is refused when no host id is on record. -/
def checkCallerIsHost (state : FundState) (callerTelegramId : Option String) : Verdict :=
  match callerTelegramId with
  | none => allow
  | some caller =>
      if state.fund.hostTelegramId = "" then deny "host_unset" hostIdUnset
      else if caller ≠ state.fund.hostTelegramId then
        deny "not_host" "only the fund host can approve or remove members and agents"
      else allow

lemma checkCallerIsHost_some {state : FundState} {caller : String} :
    (checkCallerIsHost state (some caller)).ok = true ↔
      state.fund.hostTelegramId ≠ "" ∧ caller = state.fund.hostTelegramId := by
  by_cases h : state.fund.hostTelegramId = "" <;>
    by_cases h' : caller = state.fund.hostTelegramId <;> simp [checkCallerIsHost, h, h']

-- fund-level gates

/-- Two digits of the hour and of the minute, UTC. -/
def hhmm (ts : Time) : String :=
  let minutes := (ts.floor / 60 % 1440).toNat
  let two := fun n : ℕ => (if n < 10 then "0" else "") ++ toString n
  two (minutes / 60) ++ ":" ++ two (minutes % 60)

def checkCooldown (state : FundState) (now : Time) : Verdict :=
  match state.fund.cooldownUntil with
  | none => allow
  | some till =>
      if now < till then
        deny "cooldown" ("the governor's cooldown after the last veto/settle runs until " ++
          hhmm till ++ " UTC; no new proposal before then (CooldownNotElapsed)")
      else allow

lemma checkCooldown_ok {state : FundState} {now : Time} :
    (checkCooldown state now).ok = true ↔ ∀ till ∈ state.fund.cooldownUntil, till ≤ now := by
  rw [checkCooldown]
  cases state.fund.cooldownUntil with
  | none => simp
  | some till => by_cases h : now < till <;> simp [h, not_le.2, not_lt.1]

def checkProposableAsset (state : FundState) : Verdict :=
  if upper state.fund.asset ∈ proposableAssets then allow
  else deny "asset_not_usd_pegged" (upper state.fund.asset ++
    " funds cannot propose: PortfolioStrategy needs a USD-pegged asset " ++
    "(AssetNotUsdPegged; the bond quote reverts FeedNotConfigured). Use a USDG fund.")

def checkAgentFee : Option ℤ → Verdict
  | none => allow
  | some feeBps =>
      if feeBps < 0 then
        deny "bad_agent_fee" "agent fee must be a non-negative integer number of bps"
      else if maxAgentFeeBps < feeBps then
        deny "agent_fee_too_high" ("agent fee " ++ toString feeBps ++ " bps is above " ++
          toString maxAgentFeeBps ++ " bps: the guardian review blocks Approve near the 20% cap " ++
          "(EXCESSIVE_PERFORMANCE_FEE), so execute would never pass")
      else allow

def checkFeeRecorded (state : FundState) : Verdict :=
  match state.fund.agentFeeBps with
  | none => deny "agent_fee_unknown"
      ("the vault's agent fee is not on record; set it (<= 1500 bps, 500 recommended) with " ++
        "prepare/set-agent-fee and record it with fund_setup agent_fee_bps, or let the tg-card " ++
        "read fill it")
  | some fee => checkAgentFee (some fee)

-- claims

/-- The gates that a claim and a draft share. -/
def checkProposerGates (state : FundState) (agent : String) (now : Time) : Verdict :=
  firstFailure [checkAgentCanAct state agent, checkProposableAsset state, checkFeeRecorded state,
    checkCooldown state now]

/-- The holder of a topic, when that is another agent. -/
def otherHolder (state : FundState) (agent topic : String) (now : Time) : Option Claim :=
  (claimForTopic state topic now).filter fun c => lower c.agent ≠ lower agent

lemma otherHolder_eq_none {state : FundState} {agent topic : String} {now : Time} :
    otherHolder state agent topic now = none ↔
      ∀ c ∈ claimForTopic state topic now, lower c.agent = lower agent := by
  rw [otherHolder]
  cases claimForTopic state topic now <;> simp [Option.filter]

def otherClaims (state : FundState) (agent : String) (now : Time) : List Claim :=
  (activeClaims state now).filter fun c => lower c.agent ≠ lower agent

def checkClaim (state : FundState) (agent topic : String) (now : Time) : Verdict :=
  let v := checkProposerGates state agent now
  if !v.ok then v
  else
    let key := normalizeTopic topic
    if key = "" then
      deny "bad_topic" "say what you are drafting (a topic like 'TSLA momentum')"
    else if maxOpenPerAgent ≤ (openProposalsOf state agent).length then
      deny "agent_has_open_proposal" (agent ++
        " already has an open proposal; settle, veto or cancel it before claiming another")
    else
      -- the key is normalized once more inside the lookup
      match otherHolder state agent key now with
      | some holder => deny "topic_claimed"
          (holder.agent ++ " is already drafting " ++ reprText holder.topic)
      | none =>
          match claimOf state agent now with
          | some (_, mine) =>
              if normalizeTopic mine.topic ≠ key then
                deny "agent_has_claim" (agent ++ " is already drafting " ++ reprText mine.topic ++
                  "; release that claim first")
              else allow
          | none =>
              let used := state.openProposals.length + (otherClaims state agent now).length
              if maxOpenPerFund ≤ used then
                deny "fund_full" ("fund " ++ reprText state.fund.name ++ " already has " ++
                  toString used ++ " open proposals or claims (max " ++
                  toString maxOpenPerFund ++ ")")
              else allow

/-- A claim passes when the topic has a key, the agent has nothing open, nobody else holds the
topic, and the agent refreshes its own claim on it or takes a free slot. -/
lemma checkClaim_ok {state : FundState} {agent topic : String} {now : Time} :
    (checkClaim state agent topic now).ok = true ↔
      (checkProposerGates state agent now).ok = true ∧ normalizeTopic topic ≠ "" ∧
      (openProposalsOf state agent).length < maxOpenPerAgent ∧
      (∀ c ∈ claimForTopic state (normalizeTopic topic) now, lower c.agent = lower agent) ∧
      ((∃ i mine, claimOf state agent now = some (i, mine) ∧
          normalizeTopic mine.topic = normalizeTopic topic) ∨
        (claimOf state agent now = none ∧
          state.openProposals.length + (otherClaims state agent now).length
            < maxOpenPerFund)) := by
  simp only [checkClaim, gated_ok, denyIf_ok, not_le, ← otherHolder_eq_none]
  refine and_congr Iff.rfl (and_congr Iff.rfl (and_congr Iff.rfl ?_))
  rcases otherHolder state agent (normalizeTopic topic) now with _ | holder
  · rcases claimOf state agent now with _ | ⟨i, mine⟩ <;> simp
  · simp

-- drafts

/-- ERC-20 approve(address,uint256) amount, or 0 when the calldata is not one. -/
def approveAmountFromCalldata (data : String) : Except Exc ℤ :=
  let raw := (lower data).toList
  if !("0x095ea7b3".toList.isPrefixOf raw) ∨ raw.length < 10 + 128 then .ok 0
  else
    let word := String.ofList ((raw.drop (10 + 64)).take 64)
    match int16? word with
    | some n => .ok n
    | none =>
        .error (.raised .value ("invalid literal for int() with base 16: " ++ reprText word))

/-- `kind`-independent part of the check of one leg; `none` lets it pass. -/
def checkLegCall (i : ℕ) (leg : Leg) : Except Exc (Option Verdict) :=
  let pre := "leg " ++ toString i ++ ": "
  if leg.target = "" ∧ leg.data = "" then .ok none
  else if !isAddress leg.target then
    .ok (some (deny "bad_leg" (pre ++ "target must be a 0x address")))
  else if !isHexData leg.data then
    .ok (some (deny "bad_leg" (pre ++ "data must be 0x hex calldata")))
  else do
    let amount ← approveAmountFromCalldata leg.data
    if unlimitedThreshold ≤ amount then
      return some (deny "unlimited_approve" (pre ++ "unlimited approvals are never allowed"))
    else return none

def checkLegsFrom (maxCapital : ℤ) : ℕ → ℤ → ℤ → List Leg → Except Exc Verdict
  | _, executeCaps, settleCaps, [] =>
      .ok (if maxCapital < executeCaps then
        deny "caps_exceed_capital" ("execute leg caps sum to " ++ toString executeCaps ++
          ", above max capital " ++ toString maxCapital)
      else if maxCapital < settleCaps then
        deny "caps_exceed_capital" ("settle leg caps sum to " ++ toString settleCaps ++
          ", above max capital " ++ toString maxCapital)
      else allow)
  | i, executeCaps, settleCaps, leg :: legs => do
      let pre := "leg " ++ toString i ++ ": "
      if leg.phase ≠ "execute" ∧ leg.phase ≠ "settle" then
        return deny "bad_leg" (pre ++ "phase must be execute or settle")
      let unlimited ← if leg.kind = "approve" ∧ leg.amount ≠ "" then isUnlimited leg.amount
        else .ok false
      if unlimited then
        return deny "unlimited_approve" (pre ++ "unlimited approvals are never allowed")
      match ← checkLegCall i leg with
      | some v => return v
      | none =>
          match int? (if leg.cap = "" then "0" else leg.cap) with
          | none => return deny "bad_leg" (pre ++ "cap must be an integer of asset base units")
          | some cap =>
              if cap < 0 then return deny "bad_leg" (pre ++ "cap must not be negative")
              else if leg.phase = "execute" then
                checkLegsFrom maxCapital (i + 1) (executeCaps + cap) settleCaps legs
              else checkLegsFrom maxCapital (i + 1) executeCaps (settleCaps + cap) legs

def checkLegs (legs : List Leg) (maxCapital : ℤ) : Except Exc Verdict :=
  if legs.isEmpty then .ok (deny "no_legs" "a proposal needs at least one leg")
  else checkLegsFrom maxCapital 0 0 0 legs

def checkEnvelope (state : FundState) (maxCapital maxDrawdownBps : ℤ) : Except Exc Verdict := do
  if maxCapital ≤ 0 then return deny "bad_capital" "max capital must be above zero"
  let above ← match state.fund.maxCapital with
    | none => .ok false
    | some ceiling => do
        let n ← pyInt ceiling
        pure (decide (n < maxCapital))
  if above then
    return deny "exceeds_max_capital" ("max capital " ++ toString maxCapital ++
      " is above the fund ceiling " ++ state.fund.maxCapital.getD "" ++ " (asset base units)")
  if ¬(0 ≤ maxDrawdownBps ∧ maxDrawdownBps ≤ 10000) then
    return deny "bad_drawdown" "max drawdown must be an integer number of bps in [0, 10000]"
  if state.fund.maxDrawdownBps.any (· < maxDrawdownBps) then
    return deny "exceeds_max_drawdown" ("max drawdown " ++ toString maxDrawdownBps ++
      " bps is above the fund ceiling " ++ toString (state.fund.maxDrawdownBps.getD 0) ++ " bps")
  return allow

/-- Everything that must hold before a draft is recorded. -/
def checkDraft (state : FundState) (agent topic : String) (maxCapital maxDrawdownBps : ℤ)
    (legs : List Leg) (now : Time) : Except Exc Verdict :=
  let v := checkProposerGates state agent now
  if !v.ok then .ok v
  else if maxOpenPerAgent ≤ (openProposalsOf state agent).length then
    .ok (deny "agent_has_open_proposal" (agent ++ " already has an open proposal"))
  else if maxOpenPerFund ≤ state.openProposals.length then
    .ok (deny "fund_full" ("fund " ++ reprText state.fund.name ++ " already has " ++
      toString maxOpenPerFund ++ " open proposals"))
  else
    match claimOf state agent now with
    | none => .ok (deny "no_claim"
        ("claim the topic first (fund_claim_topic) so other agents know " ++ agent ++
          " is drafting it"))
    | some (_, claim) =>
        if normalizeTopic claim.topic ≠ normalizeTopic topic then
          .ok (deny "claim_mismatch" (agent ++ " claimed " ++ reprText claim.topic ++ ", not " ++
            reprText topic))
        else do
          let envelope ← checkEnvelope state maxCapital maxDrawdownBps
          let legs ← checkLegs legs maxCapital
          return firstFailure [envelope, legs]

lemma checkDraft_ok {state : FundState} {agent topic : String} {maxCapital maxDrawdownBps : ℤ}
    {legs : List Leg} {now : Time} {v : Verdict}
    (h : checkDraft state agent topic maxCapital maxDrawdownBps legs now = .ok v)
    (hv : v.ok = true) :
    (checkProposerGates state agent now).ok = true ∧
      (openProposalsOf state agent).length < maxOpenPerAgent ∧
      state.openProposals.length < maxOpenPerFund ∧
      ∃ i claim, claimOf state agent now = some (i, claim) ∧
        normalizeTopic claim.topic = normalizeTopic topic := by
  rw [checkDraft] at h
  split_ifs at h with hgates hmine hfull
  · simp_all
  · obtain rfl := Except.ok.inj h
    simp at hv
  · obtain rfl := Except.ok.inj h
    simp at hv
  · refine ⟨by simpa using hgates, by omega, by omega, ?_⟩
    rcases hclaim : claimOf state agent now with _ | ⟨i, claim⟩
    · simp only [hclaim] at h
      obtain rfl := Except.ok.inj h
      simp at hv
    · by_cases htopic : normalizeTopic claim.topic = normalizeTopic topic
      · exact ⟨i, claim, rfl, htopic⟩
      · simp only [hclaim, ne_eq, htopic, not_false_eq_true, if_true] at h
        obtain rfl := Except.ok.inj h
        simp at hv

-- votes and reviews

def votableStatuses : List Status := [.proposed, .voting]
def reviewableStatuses : List Status := [.draft, .proposed, .voting]

def checkReview (state : FundState) (agent : String) (proposal : Option ProposalRecord) :
    Verdict :=
  let v := checkAgentCanAct state agent
  if !v.ok then v
  else
    match proposal with
    | none => deny "unknown_proposal" "no such proposal"
    | some p =>
        if lower p.proposerAgent = lower agent then
          deny "own_proposal" "an agent reviews other agents' proposals, not its own"
        else if p.status ∉ reviewableStatuses then
          deny "not_reviewable" ("proposal " ++ p.id ++ " is " ++ p.status.text)
        else allow

lemma checkReview_ok {state : FundState} {agent : String} {proposal : Option ProposalRecord} :
    (checkReview state agent proposal).ok = true ↔ (checkAgentCanAct state agent).ok = true ∧
      ∃ p, proposal = some p ∧ lower p.proposerAgent ≠ lower agent ∧
        p.status ∈ reviewableStatuses := by
  simp only [checkReview.eq_def, gated_ok]
  cases proposal <;> simp

def checkMemberVote (member : Option Member) (proposal : Option ProposalRecord) (now : Time) :
    Verdict :=
  if !(member.any (·.approved)) then
    deny "not_member" "only approved members can back or object"
  else
    match proposal with
    | none => deny "unknown_proposal" "no such proposal"
    | some p =>
        if p.status ∉ votableStatuses then
          deny "voting_closed" ("proposal " ++ p.id ++ " is " ++ p.status.text ++
            ", not open for votes")
        else if p.votingEndsAt.any (· ≤ now) then
          deny "voting_closed" ("voting on proposal " ++ p.id ++ " has ended")
        else allow

lemma checkMemberVote_ok {member : Option Member} {proposal : Option ProposalRecord}
    {now : Time} : (checkMemberVote member proposal now).ok = true ↔
      (∃ m, member = some m ∧ m.approved = true) ∧
        ∃ p, proposal = some p ∧ p.status ∈ votableStatuses ∧
          ∀ till ∈ p.votingEndsAt, now < till := by
  simp only [checkMemberVote.eq_def, denyIf_ok]
  rcases member with _ | m
  · simp
  rcases proposal with _ | p
  · simp
  · cases hends : p.votingEndsAt <;> simp [hends]

-- lifecycle

/-- `TRANSITIONS`: where a proposal may go from each status. -/
def transitions : Status → List Status
  | .draft => [.proposed, .cancelled]
  | .proposed => [.voting, .passed, .review, .vetoed, .cancelled]
  | .voting => [.passed, .review, .vetoed, .cancelled]
  | .passed => [.review, .approved, .executed, .cancelled]
  | .review => [.approved, .vetoed, .cancelled]
  | .approved => [.executed, .cancelled]
  | .executed => [.settled]
  | .vetoed | .settled | .cancelled | .unknown _ _ => []

def checkTransition (old new : Status) : Verdict :=
  if new ∈ transitions old then allow
  else deny "bad_transition" ("a proposal cannot go from " ++ old.text ++ " to " ++ new.text)

@[simp] lemma checkTransition_ok {old new : Status} :
    (checkTransition old new).ok = true ↔ new ∈ transitions old := by
  by_cases h : new ∈ transitions old <;> simp [checkTransition, h]

-- host actions

def checkApproveAgent (state : FundState) (actor : String) (target : Option Agent) : Verdict :=
  let v := checkHostAction state actor
  if !v.ok then v
  else
    match target with
    | none => deny "unknown_agent" "no such agent has asked to join"
    | some t =>
        if t.removed then
          deny "agent_removed" (t.name ++ " was removed; it must /join-fund again")
        else if t.identityId = "" ∨ !isAddress t.address then
          deny "missing_identity"
            (t.name ++ " needs an ERC-8004 identity id and a wallet address")
        else allow

lemma checkApproveAgent_ok {state : FundState} {actor : String} {target : Option Agent} :
    (checkApproveAgent state actor target).ok = true ↔ (checkHostAction state actor).ok = true ∧
      ∃ t, target = some t ∧ t.removed = false ∧ t.identityId ≠ "" ∧
        isAddress t.address = true := by
  simp only [checkApproveAgent.eq_def, gated_ok]
  cases target <;> simp

def checkRemoveAgent (state : FundState) (actor : String) (target : Option Agent) : Verdict :=
  let v := checkHostAction state actor
  if !v.ok then v
  else
    match target with
    | none => deny "unknown_agent" "no such agent"
    | some t =>
        if t.removed then deny "agent_removed" (t.name ++ " is already removed")
        else if t.role = "host" then
          deny "cannot_remove_host" "the host agent cannot be removed"
        else allow

lemma checkRemoveAgent_ok {state : FundState} {actor : String} {target : Option Agent} :
    (checkRemoveAgent state actor target).ok = true ↔ (checkHostAction state actor).ok = true ∧
      ∃ t, target = some t ∧ t.removed = false ∧ t.role ≠ "host" := by
  simp only [checkRemoveAgent.eq_def, gated_ok]
  cases target <;> simp

def checkApproveMember (state : FundState) (actor : String) (member : Option Member) : Verdict :=
  let v := checkHostAction state actor
  if !v.ok then v
  else
    match member with
    | none => deny "unknown_member"
        "no such member; they must ask to join first (or pass an address)"
    | some m =>
        if m.approved then
          deny "already_approved" ("member " ++
            (if m.telegramId = "" then m.address else m.telegramId) ++ " is already approved")
        else if !isAddress m.address then
          deny "missing_address" "approving a depositor needs their wallet address"
        else allow

lemma checkApproveMember_ok {state : FundState} {actor : String} {member : Option Member} :
    (checkApproveMember state actor member).ok = true ↔ (checkHostAction state actor).ok = true ∧
      ∃ m, member = some m ∧ m.approved = false ∧ isAddress m.address = true := by
  simp only [checkApproveMember.eq_def, gated_ok]
  cases member <;> simp

-- bond

structure BondPlan where
  quote : ℤ
  approveAmount : ℤ
  woodBalance : ℤ
  gap : ℤ

def BondPlan.swapFirst (plan : BondPlan) : Bool := 0 < plan.gap

/-- `-(-a // b)` for a positive `b`. -/
def ceilDiv (a b : ℤ) : ℤ := -(-a / b)

def requiredBondValue (maxCapital : ℤ) (policy : BondPolicy) : ℤ :=
  ceilDiv (maxCapital * policy.bondBps) 10000

def approveAmountFor (quote : ℤ) (policy : BondPolicy) : ℤ :=
  ceilDiv (quote * (10000 + policy.approveBufferBps)) 10000

def planBond (quote woodBalance : ℤ) (policy : BondPolicy) : BondPlan :=
  let approve := approveAmountFor quote policy
  ⟨quote, approve, woodBalance, max 0 (approve - woodBalance)⟩

end SherwoodMonitor.Rules
