import SherwoodMonitor.FundWrites
import SherwoodMonitor.StateRoundTrip
import SherwoodMonitor.Library.LockedFile

/-! The file of one fund (`fund/store.py`, `LocalJsonBackend`) under calls from several processes.
A process may be stopped between any two steps of a call. What the other modules take as one
atomic update is here the lock, the read, the edit of a copy, the temporary file and the rename. -/
namespace SherwoodMonitor.FundStore
open PyText PyJson JsonRecords Models FundState Service ChainCard Calls Effects StateCodec FundWrites
open LockedFile

/-- `SCHEMA_VERSION`. -/
def supportedSchema : ℤ := 1

/-- `_check_schema`. -/
def checkSchema (raw : Fields) (fund : String) : Load Unit := do
  let version ← fieldOr "schema_version" 1 anyInteger raw
  raising (raiseIf (supportedSchema < version) .store
    ("fund " ++ reprText fund ++ " state is schema v" ++ toString version ++
      "; this plugin reads up to v" ++ toString supportedSchema ++ ". Upgrade sherwood-monitor."))

/-- `_read`, of a text that is JSON. -/
def readState (fund path : String) (raw : Fields) : Load FundState := do
  raising (raiseIf (Json.hasKey "fund" raw = false) .store
    ("fund state " ++ path ++ " is missing the `fund` record"))
  checkSchema raw fund
  fromDict raw

section
variable (t : NumberText floatLimit) (fund path : String)

lemma readState_toDict {s s' : FundState} (h : readState fund path (toDict t s) = .ok s') :
    s' = s := by
  have hraise : ∀ {x : Load Unit} {f : Unit → Load FundState}, x >>= f = .ok s' →
      ∃ u, x = .ok u ∧ f u = .ok s' := by
    intro x f hx
    cases x with
    | error e => cases hx
    | ok u => exact ⟨u, rfl, hx⟩
  obtain ⟨-, -, h⟩ := hraise h
  obtain ⟨-, -, h⟩ := hraise h
  rw [(StateRoundTrip.fromDict_toDict t s).1] at h
  exact (Except.ok.inj h).symm

/-- The file of the fund: the state as `to_dict` has it, read back by `_read`. -/
def fileFormat : Format FundState Fields (ReadErr Exc) where
  encode := toDict t
  decode := readState fund path
  faithful := readState_toDict t fund path

end

/-- A call of the backend, with the reading of its clock at the write. -/
inductive StoreCall (α : Type)
  | create (state : FundState) (now : Time)
  | load
  | update (mutate : FundState → FundState × Except Exc α) (now : Time)

/-- What `create` makes of the state it is given. -/
def createdState (state : FundState) (now : Time) : FundState :=
  { state with schemaVersion := supportedSchema, revision := 1, updatedAt := now }

def StoreCall.call {α : Type} : StoreCall α → Call FundState (ReadErr Exc) α
  | .create state now => .create (createdState state now)
  | .load => .load
  | .update mutate now =>
      .update (fun s => ((mutate s).1, (mutate s).2.mapError ReadErr.raised)) (bump · now)

inductive StoreMove (α : Type)
  | begin (c : StoreCall α)
  | grant (i : ℕ)
  | turn (i : ℕ) (t : Turn)

def StoreMove.move {α : Type} : StoreMove α → Move FundState (ReadErr Exc) α
  | .begin c => .begin c.call
  | .grant i => .grant i
  | .turn i t => .turn i t

abbrev StorePool (α : Type) := Pool FundState Fields (ReadErr Exc) α

/-- The calls on a fund that no process has created yet. -/
def runStore {α : Type} (t : NumberText floatLimit) (fund path : String)
    (moves : List (StoreMove α)) : StorePool α :=
  Pool.run (fileFormat t fund path) {} (moves.map StoreMove.move)

/-- A `mutate` that leaves the revision to the store. -/
def KeepsRevision {α : Type} (mutate : FundState → FundState × Except Exc α) : Prop :=
  ∀ s s' a, mutate s = (s', .ok a) → s'.revision = s.revision

def StoreCall.KeepsRevision {α : Type} : StoreCall α → Prop
  | .update mutate _ => FundStore.KeepsRevision mutate
  | _ => True

def successfulCreates {α : Type} (pool : StorePool α) : ℕ :=
  pool.clients.countP fun c => c.call.creates && c.phase.succeeded

def successfulUpdates {α : Type} (pool : StorePool α) : ℕ :=
  pool.clients.countP fun c => (c.call.writes && !c.call.creates) && c.phase.succeeded

/-- What the calls of a run come to. -/
structure Linearized {α : Type} (t : NumberText floatLimit) (pool : StorePool α)
    (stored : Option FundState) : Prop where
  /-- The file has what the successful writes make of no file, one after another. -/
  file : pool.file = stored.map fun s => .whole (toDict t s)
  replays : replay pool.writes none = .ok stored
  writes : pool.writes.Perm (pool.clients.filterMap Client.write?)
  creates : successfulCreates pool = if stored.isSome then 1 else 0
  /-- Creation fails for want of the lock, in a failed step, or where the fund is there already. -/
  created : ∀ i c r, pool.client? i = some c → c.call.creates = true → c.phase.result = some r →
    r = .error .lockTimeout ∨ r = .error .io ∨ successfulCreates pool = 1
  loads : ∀ i c s, pool.client? i = some c → c.call = .load →
    c.phase.result = some (.ok (.state s)) →
    ∃ earlier w later, pool.writes = earlier ++ w :: later ∧
      replay (earlier ++ [w]) none = .ok (some s)

variable {α : Type} {t : NumberText floatLimit} {fund path : String}

lemma linearized_of_consistent {pool : StorePool α} {stored : Option FundState}
    (h : pool.Consistent (fileFormat t fund path) stored) : Linearized t pool stored where
  file := h.file
  replays := h.replays
  writes := h.perm
  creates := Pool.countP_creates h
  created i c r hc hcreates hr := by
    have hone : stored.isSome = true → successfulCreates pool = 1 := fun hsome =>
      (Pool.countP_creates h).trans (by simp [hsome])
    cases r with
    | error e =>
      rcases h.createEnd hc e hcreates hr with rfl | rfl | ⟨-, hne⟩
      · exact Or.inl rfl
      · exact Or.inr (Or.inl rfl)
      · exact Or.inr (Or.inr (hone (Option.isSome_iff_ne_none.2 hne)))
    | ok reply =>
      refine Or.inr (Or.inr (hone ?_))
      have hpos : 0 < successfulCreates pool :=
        List.countP_pos_iff.2 ⟨c, List.mem_of_getElem? hc, by simp [hcreates, Phase.succeeded, hr]⟩
      rw [successfulCreates, Pool.countP_creates h] at hpos
      by_contra hnone
      simp [hnone] at hpos
  loads i c s hc hload hr := by
    obtain ⟨s', earlier, w, later, hs, hsplit, hreplay⟩ := Pool.writes_of_load h hc hload hr
    obtain rfl := Reply.state.inj hs
    exact ⟨earlier, w, later, hsplit, hreplay⟩

/-- The calls of a run are calls of the backend. -/
lemma client_call {moves : List (StoreMove α)} {c : Client FundState Fields (ReadErr Exc) α}
    (hc : c ∈ (runStore t fund path moves).clients) :
    ∃ call, .begin call ∈ moves ∧ c.call = call.call := by
  rcases Pool.call_of_run hc with ⟨d, hd, -⟩ | hbegin
  · cases hd
  · obtain ⟨m, hm, hmove⟩ := List.mem_map.1 hbegin
    cases m with
    | begin call => exact ⟨call, hm, (Move.begin.inj hmove).symm⟩
    | grant i => cases hmove
    | turn i turn => cases hmove

lemma revision_of_apply {call : StoreCall α} (hkeeps : call.KeepsRevision) {s s' : FundState}
    {r : Reply FundState α} (happly : call.call.apply (some s) = .ok (r, some s'))
    (hwrites : call.call.writes = true) : s'.revision = s.revision + 1 := by
  cases call with
  | create state now => cases happly
  | load => cases hwrites
  | update mutate now =>
    rcases hm : mutate s with ⟨mid, e | a⟩
    · simp [StoreCall.call, Call.apply, hm, Except.mapError] at happly
    · simp only [StoreCall.call, Call.apply, hm, Except.mapError, Except.ok.injEq,
        Prod.mk.injEq, Option.some.injEq] at happly
      rw [← happly.2, bump, hkeeps s mid a hm]

theorem store_linearizable (moves : List (StoreMove α)) :
    ∃ stored, Linearized t (runStore t fund path moves) stored ∧
      ((∀ call, .begin call ∈ moves → call.KeepsRevision) → ∀ s, stored = some s →
        s.revision = 1 + successfulUpdates (runStore t fund path moves)) ∧
      ∀ earlier i turn later c e, moves = earlier ++ .turn i turn :: later →
        (runStore t fund path moves).client? i = some c → c.phase.result = some (.error e) →
        (runStore t fund path (earlier ++ [.turn i turn])).file =
          (runStore t fund path earlier).file := by
  have hempty : ({} : StorePool α).Consistent (fileFormat t fund path) none :=
    Pool.consistent_empty
  obtain ⟨stored, h⟩ := Pool.consistent_run hempty (moves.map StoreMove.move)
  refine ⟨stored, linearized_of_consistent h, ?_, ?_⟩
  · rintro hkeeps s rfl
    refine @Pool.count_updates _ _ _ _ _ _ FundState.revision s h ?_ ?_
    · intro c hc state hcall
      obtain ⟨call, -, hcc⟩ := client_call hc
      rw [hcc] at hcall
      cases call with
      | create state' now =>
        obtain rfl := Call.create.inj hcall
        rfl
      | load => cases hcall
      | update mutate now => cases hcall
    · intro c hc s s' r happly hwrites
      obtain ⟨call, hbegin, hcc⟩ := client_call hc
      rw [hcc] at happly hwrites
      exact revision_of_apply (hkeeps call hbegin) happly hwrites
  · rintro earlier i turn later c e rfl hc he
    obtain ⟨mid, hmid⟩ := Pool.consistent_run hempty (earlier.map StoreMove.move)
    rw [runStore, List.map_append, Pool.run_append] at hc ⊢
    exact Pool.file_of_failed hmid hc he

/-- A load keeps the lock for longer than the two creations wait for it. -/
def lockedOut : List (StoreMove Unit) :=
  [.begin .load, .begin (.create sampleState 1000), .begin (.create sampleState 1000), .grant 0,
   .turn 1 .timeout, .turn 2 .timeout, .turn 0 .go, .turn 0 .go]

theorem not_exactly_one_create :
    ¬ ∀ moves : List (StoreMove Unit),
      (∀ c ∈ (runStore StateRoundTrip.wholeSeconds "alpha" "alpha.json" moves).clients,
        ∃ r, c.phase = .finished r) →
      2 ≤ moves.countP (fun m => match m with | .begin (.create ..) => true | _ => false) →
      successfulCreates (runStore StateRoundTrip.wholeSeconds "alpha" "alpha.json" moves) = 1 := by
  intro h
  have hclients : (runStore StateRoundTrip.wholeSeconds "alpha" "alpha.json" lockedOut).clients =
      [⟨.load, .finished (.error .missing)⟩,
       ⟨.create (createdState sampleState 1000), .finished (.error .lockTimeout)⟩,
       ⟨.create (createdState sampleState 1000), .finished (.error .lockTimeout)⟩] := rfl
  have hone := h lockedOut (by simp [hclients]) (by decide)
  rw [successfulCreates, hclients] at hone
  cases hone

/-! ### The writes of the service -/

/-- What a write does to its copy, before the store adds the revision. -/
def mutateOf : (w : Write) → FundState → Except Exc (w.Reply × FundState)
  | .op o, s => o.update.mutate o.clock.now s
  | .setup args _, s => setupFund args s
  | .bind values _, s => .ok (bindFund values s)

def stampOf : Write → Time
  | .op o => o.clock.stamp
  | .setup _ stamp => stamp
  | .bind _ stamp => stamp

/-- The backend call of a write. What a write that raises leaves in the copy is of no account. -/
def writeCall (w : Write) : StoreCall w.Reply :=
  .update (fun s =>
    match mutateOf w s with
    | .ok (r, s) => (s, .ok r)
    | .error e => (s, .error e)) (stampOf w)

lemma exec_eq_mutateOf (w : Write) (s : FundState) :
    w.exec s = (mutateOf w s).map fun r => (r.1, bump r.2 (stampOf w)) := by
  cases w with
  | op o =>
    rw [Write.exec, Op.exec, mutateOf]
    cases o.update.mutate o.clock.now s <;> rfl
  | setup args stamp =>
    rw [Write.exec, mutateOf]
    cases setupFund args s <;> rfl
  | bind values stamp => rfl

/-- At its rename a write does what it does as one atomic operation. -/
theorem apply_writeCall (w : Write) (s : FundState) :
    (writeCall w).call.apply (some s) =
      match w.exec s with
      | .ok (r, s') => .ok (.result r, some s')
      | .error e => .error (.raised (.raised e)) := by
  rw [exec_eq_mutateOf]
  cases h : mutateOf w s <;>
    simp [writeCall, StoreCall.call, Call.apply, h, Except.mapError, Except.map]

lemma revision_of_act {a : Act} {now : Time} {s s' : FundState} {r : a.Reply}
    (h : a.mutate now s = .ok (r, s')) : s'.revision = s.revision := by
  cases a <;> dsimp only [Act.mutate] at h
  case requestMembership tid address username =>
    obtain ⟨i, m, members, -, -, rfl⟩ := requestMembership_ok h
    rfl
  case approveMember actor who address tx caller =>
    obtain ⟨-, -, members, no, rfl⟩ := approveMember_ok h
    rfl
  case requestAgent agent =>
    obtain ⟨-, -, ⟨i, old, -, -, -, rfl⟩ | ⟨i, old, -, -, -, -, rfl⟩ | ⟨-, -, rfl⟩⟩ :=
      requestAgent_ok h <;> rfl
  case approveAgent actor name tx caller =>
    obtain ⟨-, -, i, target, -, -, -, -, -, rfl⟩ := approveAgent_ok h
    rfl
  case removeAgent actor name caller =>
    obtain ⟨-, -, i, target, -, -, -, -, rfl⟩ := removeAgent_ok h
    rfl
  case claimTopic agent topic =>
    obtain ⟨-, ⟨j, mine, -, -, rfl⟩ | ⟨j, a, -, -, -, -, rfl⟩⟩ := claimTopic_ok h <;> rfl
  case releaseClaim agent topic =>
    obtain ⟨keep, rfl⟩ := releaseClaim_ok h
    rfl
  case requestDraft agent topic from_ =>
    obtain ⟨-, j, a, -, -, -, rfl⟩ := requestDraft_ok h
    rfl
  case draftProposal agent d =>
    obtain ⟨v, -, -, i, a, claim, -, -, rfl⟩ := draftProposal_ok h
    rfl
  case shipDraft pid caller =>
    obtain ⟨-, -, j, old, -, -, -, rfl⟩ := shipDraft_ok h
    rfl
  case setProposalStatus actor pid status note =>
    obtain ⟨i, old, -, -, -, -, -, rfl⟩ := setProposalStatus_ok h
    rfl
  case setChainState pid read =>
    obtain ⟨j, old, -, -, rfl⟩ := setChainState_ok h
    rfl
  case setCardMessage pid message =>
    obtain ⟨j, old, -, -, rfl⟩ := setCardMessage_ok h
    rfl
  case recordVote pid voter side kind note =>
    obtain ⟨j, old, -, rfl, ⟨-, -, name, -, rfl⟩ | ⟨-, k, m, -, -, rfl⟩⟩ := recordVote_ok h <;> rfl
  case recordSettle actor pid d =>
    obtain ⟨i, old, -, -, -, -, -, rfl⟩ := recordSettle_ok h
    rfl

lemma revision_of_update {u : Update} {now : Time} {s s' : FundState} {r : u.Reply}
    (h : u.mutate now s = .ok (r, s')) : s'.revision = s.revision := by
  cases u with
  | act a => exact revision_of_act h
  | cardFund card =>
    obtain ⟨period, veto, till, -, -, -, rfl⟩ := cardFund_ok h
    rfl
  | chainStatus pid status =>
    obtain ⟨i, old, -, -, rfl⟩ := chainStatus_ok h
    rfl

/-- No write of the service touches the revision. -/
theorem keepsRevision_writeCall (w : Write) : (writeCall w).KeepsRevision := by
  intro s s' r hm
  have hmutate : mutateOf w s = .ok (r, s') := by
    cases h : mutateOf w s with
    | error e => simp [h] at hm
    | ok p => simpa [h, Prod.ext_iff, and_comm] using hm
  cases w with
  | op o => exact revision_of_update hmutate
  | setup args stamp =>
    obtain ⟨-, -, -, -, -, -, cap, -, rfl⟩ := setupFund_ok hmutate
    rfl
  | bind values stamp =>
    cases hmutate
    rfl

end SherwoodMonitor.FundStore
