import Mathlib.Data.List.DropRight
import SherwoodMonitor.EventBlocks
import SherwoodMonitor.EventStream

/-! What the streams and the hooks leave for the agent's next turn (`event_buffer.py`,
`handlers.py`, `router.py`, `hooks.py`). The buffer is bounded; a turn is given the last blocks that
came in since the turn before. -/
namespace SherwoodMonitor.ContextBuffer
open PyJson Records EventStream EventBlocks

/-! ### The handlers -/

/-- What the handlers read of the plugin's config. -/
structure Config where
  xmtpSummaries : Bool := true
  injectMentionsOnly : Bool := true

def chainInjectOnly : List String :=
  ["VoteCast", "AgentRegistered", "AgentRemoved", "DepositorApproved", "DepositorRemoved",
   "RedemptionsLockedEvent", "RedemptionsUnlockedEvent", "Deposited", "Withdrawn", "SandboxRun"]

def chainInjectAndPost : List String :=
  ["ProposalCreated", "ProposalExecuted", "ProposalSettled", "ProposalCancelled",
   "SandboxPayloadStored", "ReviewOpened", "ReviewResolved", "GuardianSlashed"]

/-- The block that a handler pushes, and whether it posts a summary. -/
structure Handled where
  block : Option String := none
  posts : Bool := false

/-- `handle_chain_event`. -/
def handleChainEvent (cfg : Config) (subdomain : String) (ev : ChainEvent) : Handled :=
  if ev.type ∉ chainInjectOnly ∧ ev.type ∉ chainInjectAndPost then {}
  else
    { block := some (formatChainInjection subdomain ev "normal")
      posts := ev.type ∈ chainInjectAndPost && cfg.xmtpSummaries }

def xmtpPriority : List (String × String) :=
  [("RISK_ALERT", "high"), ("APPROVAL_REQUEST", "human-escalate"),
   ("STRATEGY_PROPOSAL", "normal"), ("TRADE_SIGNAL", "normal"), ("POSITION_UPDATE", "low"),
   ("LP_REPORT", "low"), ("TRADE_EXECUTED", "low"), ("MEMBER_JOIN", "low"),
   ("RAGEQUIT_NOTICE", "normal"), ("AGENT_REGISTERED", "low"), ("X402_RESEARCH", "normal")]

def xmtpNeverInject : List String := ["REACTION"]

/-- `handle_xmtp_message`. -/
def handleXmtpMessage (cfg : Config) (subdomain : String) (msg : SessionMessage) : Handled :=
  if msg.type ∈ xmtpNeverInject then {}
  else if msg.type = "MESSAGE" then
    if cfg.injectMentionsOnly && !msg.text.toList.contains '@' then {}
    else { block := some (formatXmtpInjection subdomain msg "normal") }
  else
    { block := (xmtpPriority.lookup msg.type).map (formatXmtpInjection subdomain msg) }

def handle (cfg : Config) (subdomain : String) : Record → Handled
  | .chain ev => handleChainEvent cfg subdomain ev
  | .message msg => handleXmtpMessage cfg subdomain msg

/-! ### The buffer -/

/-- `EventBuffer`, a deque with a `maxlen`. -/
structure EventBuffer where
  maxlen : ℕ := 200
  items : List String := []

/-- `push`: a full deque drops its oldest item. -/
def EventBuffer.push (b : EventBuffer) (block : String) : EventBuffer :=
  if b.maxlen = 0 then b
  else { b with items := (if b.items.length = b.maxlen then b.items.tail else b.items) ++ [block] }

/-- `drain`. -/
def EventBuffer.drain (b : EventBuffer) : List String × EventBuffer :=
  (b.items, { b with items := [] })

/-- What a context source of the hook did. -/
inductive Reply
  | raised
  | nothing
  | context (text : String)

/-- `out.get("context")`, where it is not empty. -/
def Reply.text? : Reply → Option String
  | context text => if text = "" then none else some text
  | _ => none

/-- The `pre_llm_call` hook's context, on the drained blocks. -/
def contextOf (drained : List String) (replies : List Reply) : Option String :=
  let blocks := drained ++ replies.filterMap Reply.text?
  if blocks.isEmpty then none else some ("\n\n".intercalate blocks)

/-! ### Runs -/

/-- What happens: a hook pushes a block, a stream routes a record, or a turn of the agent starts. -/
inductive Op
  | push (block : String)
  | route (subdomain : String) (raw : Json)
  | turn (replies : List Reply)

/-- The buffer and the router of every fund, with the contexts that were given. -/
structure Plugin where
  buffer : EventBuffer
  routers : String → Router := fun _ => {}
  contexts : List (Option String) := []

/-- What routing a record leaves of the fund's router, and the block that its handler pushes. -/
def routed (cfg : Config) (r : Router) (subdomain : String) (raw : Json) :
    Router × Option String :=
  match r.route raw with
  | .error _ => (r, none)
  | .ok (r, outcome) =>
      match outcome with
      | .handled rec => (r, (handle cfg subdomain rec).block)
      | _ => (r, none)

def Plugin.step (cfg : Config) (p : Plugin) : Op → Plugin
  | .push block => { p with buffer := p.buffer.push block }
  | .route subdomain raw =>
      let next := routed cfg (p.routers subdomain) subdomain raw
      { p with
        routers := Function.update p.routers subdomain next.1
        buffer := next.2.elim p.buffer p.buffer.push }
  | .turn replies =>
      let drained := p.buffer.drain
      { p with buffer := drained.2, contexts := p.contexts ++ [contextOf drained.1 replies] }

def Plugin.run (cfg : Config) (p : Plugin) (ops : List Op) : Plugin := ops.foldl (step cfg) p

/-! ### All blocks since the last turn -/

/-- The plugin with a buffer that keeps every block until the next turn. -/
structure Unbounded where
  pending : List String := []
  routers : String → Router := fun _ => {}
  contexts : List (Option String) := []

/-- A turn is given the last `maxlen` blocks. -/
def Unbounded.step (maxlen : ℕ) (cfg : Config) (u : Unbounded) : Op → Unbounded
  | .push block => { u with pending := u.pending ++ [block] }
  | .route subdomain raw =>
      let next := routed cfg (u.routers subdomain) subdomain raw
      { u with
        routers := Function.update u.routers subdomain next.1
        pending := u.pending ++ next.2.toList }
  | .turn replies =>
      { u with
        pending := []
        contexts := u.contexts ++ [contextOf (u.pending.rtake maxlen) replies] }

def Unbounded.run (maxlen : ℕ) (cfg : Config) (u : Unbounded) (ops : List Op) : Unbounded :=
  ops.foldl (step maxlen cfg) u

variable {cfg : Config} {maxlen : ℕ}

lemma rtake_append_rtake (l : List String) (block : String) (hpos : maxlen ≠ 0) :
    (l ++ [block]).rtake maxlen =
      (if (l.rtake maxlen).length = maxlen then (l.rtake maxlen).tail else l.rtake maxlen) ++
        [block] := by
  obtain ⟨n, rfl⟩ := Nat.exists_eq_succ_of_ne_zero hpos
  rw [List.rtake_concat_succ]
  congr 1
  have hlen : (l.rtake (n + 1)).length = min (n + 1) l.length := by
    unfold List.rtake
    rw [List.length_drop]
    omega
  rw [hlen]
  unfold List.rtake
  split_ifs with hfull
  · rw [List.tail_drop]
    congr 1
    omega
  · congr 1
    omega

/-- The bounded buffer holds the last blocks of the unbounded one. -/
structure Simulates (maxlen : ℕ) (u : Unbounded) (p : Plugin) : Prop where
  cap : p.buffer.maxlen = maxlen
  items : p.buffer.items = u.pending.rtake maxlen
  routers : p.routers = u.routers
  contexts : p.contexts = u.contexts

lemma items_push {b : EventBuffer} {pending : List String}
    (hitems : b.items = pending.rtake b.maxlen) (block : String) :
    (b.push block).items = (pending ++ [block]).rtake b.maxlen := by
  unfold EventBuffer.push
  by_cases hzero : b.maxlen = 0
  · rw [if_pos hzero, hitems, hzero, List.rtake_zero, List.rtake_zero]
  · rw [if_neg hzero, rtake_append_rtake pending block hzero, ← hitems]

lemma maxlen_push (b : EventBuffer) (block : String) : (b.push block).maxlen = b.maxlen := by
  unfold EventBuffer.push
  split_ifs <;> rfl

lemma Simulates.push {u : Unbounded} {p : Plugin} (h : Simulates maxlen u p)
    (block : Option String) (routers : String → Router) :
    Simulates maxlen { u with routers, pending := u.pending ++ block.toList }
      { p with routers, buffer := block.elim p.buffer p.buffer.push } := by
  obtain ⟨rfl, hitems, -, hcontexts⟩ := h
  cases block with
  | none => exact ⟨rfl, by simpa using hitems, rfl, hcontexts⟩
  | some block => exact ⟨maxlen_push _ _, items_push hitems block, rfl, hcontexts⟩

lemma Simulates.step {u : Unbounded} {p : Plugin} (h : Simulates maxlen u p) (op : Op) :
    Simulates maxlen (u.step maxlen cfg op) (p.step cfg op) := by
  cases op with
  | push block =>
    have hpush := h.push (some block) u.routers
    exact ⟨hpush.cap, hpush.items, h.routers, h.contexts⟩
  | route subdomain raw =>
    unfold Unbounded.step Plugin.step
    dsimp only
    rw [h.routers]
    exact h.push _ _
  | turn replies =>
    refine ⟨h.cap, by simp [Plugin.step, EventBuffer.drain, Unbounded.step], h.routers, ?_⟩
    simp only [Plugin.step, EventBuffer.drain, Unbounded.step, h.contexts, h.items]

/-- In whatever order blocks are pushed, records are routed and turns start, every turn is given the
last `maxlen` of the blocks that came in since the turn before, in their order, and what its sources
say. -/
theorem turns_given_last (maxlen : ℕ) (cfg : Config) (ops : List Op) :
    (Plugin.run cfg ⟨{ maxlen }, fun _ => {}, []⟩ ops).contexts =
      (Unbounded.run maxlen cfg {} ops).contexts := by
  have hsim : ∀ u p, Simulates maxlen u p →
      Simulates maxlen (Unbounded.run maxlen cfg u ops) (Plugin.run cfg p ops) := by
    induction ops with
    | nil => exact fun u p h => h
    | cons op ops ih => exact fun u p h => ih _ _ (h.step op)
  exact (hsim {} _ ⟨rfl, by simp, rfl, rfl⟩).contexts

end SherwoodMonitor.ContextBuffer
