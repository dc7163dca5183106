import Mathlib.Data.List.TakeWhile
import Mathlib.Tactic

/-! A file that several processes share. A call on it takes a lock, reads the file, edits a copy in
memory, writes that to a temporary file and renames it over the first. The steps of the calls
interleave; a step may fail, and a process may die at any point. -/
namespace SherwoodMonitor.LockedFile

/-- What a file has while its payload is written to it. -/
inductive Content (β : Type)
  | part
  | whole (payload : β)

/-- How values are stored. Not every payload has to be readable, but none reads as another value. -/
structure Format (σ β ε : Type) where
  encode : σ → β
  decode : β → Except ε σ
  faithful : ∀ {s s'}, decode (encode s) = .ok s' → s' = s

inductive Fault (ε : Type)
  | lockTimeout
  | alreadyThere
  | missing
  | corrupt
  | io
  | raised (e : ε)

/-- A `mutate` edits its copy in place, so it leaves one even when it raises. -/
inductive Call (σ ε α : Type)
  | create (s : σ)
  | load
  | update (mutate : σ → σ × Except ε α) (stamp : σ → σ)

inductive Reply (σ α : Type)
  | state (s : σ)
  | result (a : α)

abbrev Result (σ ε α : Type) := Except (Fault ε) (Reply σ α)

/-- Where a call stands. -/
inductive Phase (σ β ε α : Type)
  | waiting
  | locked
  | opened
  | copied (s : σ)
  | ready (s : σ) (r : Reply σ α)
  | staged (tmp : Content β) (s : σ) (r : Reply σ α)
  | closing (result : Result σ ε α)
  | finished (result : Result σ ε α)
  | crashed (result : Option (Result σ ε α))

structure Client (σ β ε α : Type) where
  call : Call σ ε α
  phase : Phase σ β ε α

/-- The file, the calls begun so far, and those that got the lock in the order in which they got
it. -/
structure Pool (σ β ε α : Type) where
  file : Option (Content β) := none
  clients : List (Client σ β ε α) := []
  order : List ℕ := []

/-- What a call does next: its next step, or it gives up on the lock, its step fails, or its
process dies. -/
inductive Turn
  | go
  | timeout
  | fail
  | crash

inductive Move (σ ε α : Type)
  | begin (call : Call σ ε α)
  | grant (i : ℕ)
  | turn (i : ℕ) (t : Turn)

variable {σ β ε α : Type}

/-- A writer takes the lock for itself; those that only read share it. -/
def Call.writes : Call σ ε α → Bool
  | .load => false
  | _ => true

def Call.creates : Call σ ε α → Bool
  | .create _ => true
  | _ => false

/-- What the call does to the stored value at one point in time. -/
def Call.apply : Call σ ε α → Option σ → Except (Fault ε) (Reply σ α × Option σ)
  | .create s, none => .ok (.state s, some s)
  | .create _, some _ => .error .alreadyThere
  | .load, some s => .ok (.state s, some s)
  | .update mutate stamp, some s =>
      match mutate s with
      | (s, .ok a) => .ok (.result a, some (stamp s))
      | (_, .error e) => .error (.raised e)
  | _, none => .error .missing

/-- The calls one after another, none of which may fail. -/
def replay : List (Call σ ε α) → Option σ → Except (Fault ε) (Option σ)
  | [], stored => .ok stored
  | call :: calls, stored =>
      match call.apply stored with
      | .ok (_, stored) => replay calls stored
      | .error e => .error e

def Phase.result : Phase σ β ε α → Option (Result σ ε α)
  | .closing result => some result
  | .finished result => some result
  | .crashed result => result
  | _ => none

/-- From the grant to the release; the system releases the locks of a process that dies. -/
def Phase.holds : Phase σ β ε α → Bool
  | .waiting => false
  | .finished _ => false
  | .crashed _ => false
  | _ => true

def Phase.succeeded (p : Phase σ β ε α) : Bool :=
  match p.result with
  | some (.ok _) => true
  | _ => false

/-- The write that the call has made. -/
def Client.write? (c : Client σ β ε α) : Option (Call σ ε α) :=
  if c.call.writes && c.phase.succeeded then some c.call else none

def Format.read (fmt : Format σ β ε) : Content β → Except (Fault ε) σ
  | .part => .error .corrupt
  | .whole payload =>
      match fmt.decode payload with
      | .ok s => .ok s
      | .error e => .error (.raised e)

/-- The next step of a call, and the file after it. -/
def Client.go (fmt : Format σ β ε) (file : Option (Content β)) (c : Client σ β ε α) :
    Phase σ β ε α × Option (Content β) :=
  match c.phase with
  | .locked =>
      match c.call, file with
      | .create s, none => (.ready s (.state s), file)
      | .create _, some _ => (.closing (.error .alreadyThere), file)
      | _, none => (.closing (.error .missing), file)
      | _, some _ => (.opened, file)
  | .opened =>
      match file.elim (.error .missing) fmt.read, c.call with
      | .error e, _ => (.closing (.error e), file)
      | .ok s, .load => (.closing (.ok (.state s)), file)
      | .ok s, _ => (.copied s, file)
  | .copied s =>
      match c.call with
      | .update mutate stamp =>
          match mutate s with
          | (s, .ok a) => (.ready (stamp s) (.result a), file)
          | (_, .error e) => (.closing (.error (.raised e)), file)
      | _ => (.copied s, file)
  | .ready s r => (.staged .part s r, file)
  | .staged .part s r => (.staged (.whole (fmt.encode s)) s r, file)
  | .staged (.whole payload) _ r => (.closing (.ok r), some (.whole payload))
  | .closing result => (.finished result, file)
  | p => (p, file)

/-- A failed step gives the temporary file up and lets go of the lock. -/
def Phase.fail : Phase σ β ε α → Phase σ β ε α
  | .waiting => .finished (.error .io)
  | .closing result => .closing result
  | .finished result => .finished result
  | .crashed result => .crashed result
  | _ => .closing (.error .io)

def Client.turn (fmt : Format σ β ε) (file : Option (Content β)) (c : Client σ β ε α) :
    Turn → Phase σ β ε α × Option (Content β)
  | .go => c.go fmt file
  | .timeout =>
      match c.phase with
      | .waiting => (.finished (.error .lockTimeout), file)
      | p => (p, file)
  | .fail => (c.phase.fail, file)
  | .crash =>
      match c.phase with
      | .finished result => (.finished result, file)
      | p => (.crashed p.result, file)

namespace Pool

/-- The `i`th call. -/
def client? (pool : Pool σ β ε α) (i : ℕ) : Option (Client σ β ε α) := pool.clients[i]?

/-- The lock can be granted to the call. -/
def free (pool : Pool σ β ε α) (call : Call σ ε α) : Bool :=
  pool.clients.all fun c => !c.phase.holds || !(call.writes || c.call.writes)

def step (fmt : Format σ β ε) (pool : Pool σ β ε α) : Move σ ε α → Pool σ β ε α
  | .begin call => { pool with clients := pool.clients ++ [⟨call, .waiting⟩] }
  | .grant i =>
      match pool.client? i with
      | some ⟨call, .waiting⟩ =>
          if pool.free call then
            { pool with clients := pool.clients.set i ⟨call, .locked⟩, order := pool.order ++ [i] }
          else pool
      | _ => pool
  | .turn i t =>
      match pool.client? i with
      | some c =>
          { pool with
            file := (c.turn fmt pool.file t).2
            clients := pool.clients.set i ⟨c.call, (c.turn fmt pool.file t).1⟩ }
      | none => pool

def run (fmt : Format σ β ε) (pool : Pool σ β ε α) (moves : List (Move σ ε α)) : Pool σ β ε α :=
  moves.foldl (step fmt) pool

/-- The write of a call, by its number. -/
def writeAt (pool : Pool σ β ε α) (i : ℕ) : Option (Call σ ε α) :=
  (pool.client? i).bind Client.write?

/-- The successful writes in lock order. -/
def writes (pool : Pool σ β ε α) : List (Call σ ε α) := pool.order.filterMap pool.writeAt

/-- Those of the calls that got the lock before the `i`th call did. -/
def writesBefore (pool : Pool σ β ε α) (i : ℕ) : List (Call σ ε α) :=
  (pool.order.takeWhile (· ≠ i)).filterMap pool.writeAt

end Pool

/-! ### One write after another -/

lemma replay_append (calls calls' : List (Call σ ε α)) (stored : Option σ) :
    replay (calls ++ calls') stored = (replay calls stored).bind (replay calls') := by
  induction calls generalizing stored with
  | nil => rfl
  | cons call calls ih =>
    simp only [List.cons_append, replay]
    cases call.apply stored with
    | error e => rfl
    | ok r => exact ih r.2

lemma replay_concat {calls : List (Call σ ε α)} {call : Call σ ε α} {first s s' : Option σ}
    {r : Reply σ α} (h : replay calls first = .ok s) (hcall : call.apply s = .ok (r, s')) :
    replay (calls ++ [call]) first = .ok s' := by
  rw [replay_append, h]
  simp only [Except.bind, replay, hcall]

lemma apply_some {call : Call σ ε α} {stored s' : Option σ} {r : Reply σ α}
    (h : call.apply stored = .ok (r, s')) : ∃ s, s' = some s := by
  cases call with
  | create s =>
    cases stored with
    | none => exact ⟨s, by simpa [Call.apply] using (congrArg Prod.snd (Except.ok.inj h)).symm⟩
    | some _ => cases h
  | load =>
    cases stored with
    | none => cases h
    | some s => exact ⟨s, by simpa [Call.apply] using (congrArg Prod.snd (Except.ok.inj h)).symm⟩
  | update mutate stamp =>
    cases stored with
    | none => cases h
    | some s =>
      rcases hm : mutate s with ⟨s₁, e | a⟩
      · simp [Call.apply, hm] at h
      · simp only [Call.apply, hm, Except.ok.injEq, Prod.mk.injEq] at h
        exact ⟨_, h.2.symm⟩

/-- Once the file is there nothing creates it or takes it away. -/
lemma replay_some {calls : List (Call σ ε α)} {s : σ} {stored : Option σ}
    (h : replay calls (some s) = .ok stored) :
    (∀ c ∈ calls, c.creates = false) ∧ ∃ last, stored = some last := by
  induction calls generalizing s with
  | nil => exact ⟨by simp, s, (Except.ok.inj h).symm⟩
  | cons call calls ih =>
    rw [replay] at h
    split at h
    · next r stored' happly =>
      obtain ⟨s', rfl⟩ := apply_some happly
      obtain ⟨hcalls, hlast⟩ := ih h
      have hcall : call.creates = false := by
        cases call with
        | create s₀ => cases happly
        | _ => rfl
      exact ⟨by simpa using ⟨hcall, hcalls⟩, hlast⟩
    · cases h

/-- Writes that all succeed begin with the one that creates the file. -/
lemma replay_none {calls : List (Call σ ε α)} {stored : Option σ}
    (hwrites : ∀ c ∈ calls, c.writes = true) (h : replay calls none = .ok stored) :
    (calls = [] ∧ stored = none) ∨ ∃ s updates last, calls = .create s :: updates ∧
      (∀ c ∈ updates, c.creates = false) ∧ replay updates (some s) = .ok (some last) ∧
      stored = some last := by
  cases calls with
  | nil => exact Or.inl ⟨rfl, (Except.ok.inj h).symm⟩
  | cons call calls =>
    cases call with
    | create s =>
      have hrest : replay calls (some s) = .ok stored := h
      obtain ⟨hcalls, last, rfl⟩ := replay_some hrest
      exact Or.inr ⟨s, calls, last, rfl, hcalls, hrest, rfl⟩
    | load => exact absurd (hwrites .load (by simp)) (by simp [Call.writes])
    | update mutate stamp => cases h

/-- A number that each update raises by one counts the updates. -/
lemma replay_count {rev : σ → ℤ} {calls : List (Call σ ε α)} {s last : σ}
    (hrev : ∀ c ∈ calls, ∀ {s s' r}, c.apply (some s) = .ok (r, some s') → rev s' = rev s + 1)
    (h : replay calls (some s) = .ok (some last)) : rev last = rev s + calls.length := by
  induction calls generalizing s with
  | nil =>
    obtain rfl := Option.some.inj (Except.ok.inj h)
    simp
  | cons call calls ih =>
    rw [replay] at h
    split at h
    · next r stored happly =>
      obtain ⟨s', rfl⟩ := apply_some happly
      rw [ih (fun c hc => hrev c (by simp [hc])) h, hrev call (by simp) happly]
      push_cast [List.length_cons]
      ring
    · cases h

/-! ### One step -/

/-- What a call promises in each phase, by the value that is stored. -/
def Client.Sound (fmt : Format σ β ε) (stored : Option σ) (c : Client σ β ε α) : Prop :=
  match c.phase with
  | .opened => c.call.creates = false
  | .copied s => stored = some s
  | .ready s r => c.call.writes = true ∧ c.call.apply stored = .ok (r, some s)
  | .staged tmp s r => c.call.writes = true ∧ c.call.apply stored = .ok (r, some s) ∧
      (tmp = .part ∨ tmp = .whole (fmt.encode s))
  | _ => True

/-- Why the creation of the file can fail. -/
def Client.CreateEnd (stored : Option σ) (c : Client σ β ε α) : Prop :=
  ∀ e, c.call.creates = true → c.phase.result = some (.error e) →
    e = .lockTimeout ∨ e = .io ∨ e = .alreadyThere ∧ stored ≠ none

lemma Client.sound_of_not_holds {fmt : Format σ β ε} {stored : Option σ} {c : Client σ β ε α}
    (h : c.phase.holds = false) : c.Sound fmt stored := by
  obtain ⟨call, p⟩ := c
  cases p <;> trivial

/-- Only the rename changes the file. -/
def Client.renames (c : Client σ β ε α) : Turn → Prop
  | .go => ∃ payload s r, c.phase = .staged (.whole payload) s r
  | _ => False

lemma Client.turn_renames {fmt : Format σ β ε} {file : Option (Content β)} {c : Client σ β ε α}
    {t : Turn} (h : c.renames t) : ∃ payload s r, c.phase = .staged (.whole payload) s r ∧
      c.turn fmt file t = (.closing (.ok r), some (.whole payload)) := by
  cases t with
  | go =>
    obtain ⟨payload, s, r, hp⟩ := h
    exact ⟨payload, s, r, hp, by simp only [Client.turn, Client.go, hp]⟩
  | _ => exact h.elim

lemma Phase.succeeded_iff {p : Phase σ β ε α} :
    p.succeeded = true ↔ ∃ r, p.result = some (.ok r) := by
  rw [Phase.succeeded]
  split
  · next r hr => simp [hr]
  · next hne => simpa using fun r hr => hne r hr

/-- What every other turn does. -/
structure Client.Quiet (fmt : Format σ β ε) (stored : Option σ) (file : Option (Content β))
    (c : Client σ β ε α) (next : Phase σ β ε α × Option (Content β)) : Prop where
  file_eq : next.2 = file
  holds : next.1.holds = true → c.phase.holds = true
  waiting : next.1 = .waiting → c.phase = .waiting
  result : next.1.result = none → c.phase.result = none
  write : (Client.mk c.call next.1).write? = c.write?
  sound : (Client.mk c.call next.1).Sound fmt stored
  createEnd : (Client.mk c.call next.1).CreateEnd stored
  reads : ∀ r, next.1.result = some (.ok r) → c.phase.result = some (.ok r) ∨
    c.phase.holds = true ∧ c.phase.result = none ∧ c.call.apply stored = .ok (r, stored)

section Quiet

variable {fmt : Format σ β ε} {stored : Option σ} {file : Option (Content β)}
  {c : Client σ β ε α} {p : Phase σ β ε α}

lemma Client.quiet_same (hres : p.result = c.phase.result)
    (hholds : p.holds = true → c.phase.holds = true) (hwait : p = .waiting → c.phase = .waiting)
    (hsound : (Client.mk c.call p).Sound fmt stored) (hend : c.CreateEnd stored) :
    c.Quiet fmt stored file (p, file) where
  file_eq := rfl
  holds := hholds
  waiting := hwait
  result h := hres.symm.trans h
  write := by
    have hsucc : p.succeeded = c.phase.succeeded := by rw [Phase.succeeded, hres]; rfl
    rw [Client.write?, hsucc]
    rfl
  sound := hsound
  createEnd e hc he := hend e hc (hres.symm.trans he)
  reads r hr := Or.inl (hres.symm.trans hr)

/-- The call goes on under the lock. -/
lemma Client.quiet_step (hp : p.holds = true) (hres : p.result = none)
    (hc : c.phase.holds = true) (hcres : c.phase.result = none)
    (hsound : (Client.mk c.call p).Sound fmt stored) : c.Quiet fmt stored file (p, file) := by
  refine Client.quiet_same (hres.trans hcres.symm) (fun _ => hc) ?_ hsound ?_
  · rintro rfl
    cases hp
  · intro e _ he
    rw [hcres] at he
    cases he

/-- The call comes to an end without a write. -/
lemma Client.quiet_end {result : Result σ ε α} (hcres : c.phase.result = none)
    (hp : p = .closing result ∧ c.phase.holds = true ∨ p = .finished result)
    (hok : ∀ r, result = .ok r → c.call = .load ∧ c.phase.holds = true ∧
      c.call.apply stored = .ok (r, stored))
    (herr : ∀ e, c.call.creates = true → result = .error e →
      e = .lockTimeout ∨ e = .io ∨ e = .alreadyThere ∧ stored ≠ none) :
    c.Quiet fmt stored file (p, file) := by
  have hres : p.result = some result := by rcases hp with ⟨rfl, -⟩ | rfl <;> rfl
  refine ⟨rfl, ?_, ?_, ?_, ?_, ?_, ?_, ?_⟩
  · rcases hp with ⟨rfl, hholds⟩ | rfl
    · exact fun _ => hholds
    · exact fun h => absurd h (by simp [Phase.holds])
  · rcases hp with ⟨rfl, -⟩ | rfl <;> exact fun h => by cases h
  · exact fun _ => hcres
  · cases hresult : result with
    | error e => simp [Client.write?, Phase.succeeded, hres, hcres, hresult]
    | ok r =>
      obtain ⟨hload, -⟩ := hok r hresult
      simp [Client.write?, hload, Call.writes]
  · rcases hp with ⟨rfl, -⟩ | rfl <;> trivial
  · intro e hc he
    exact herr e hc (Option.some.inj (hres.symm.trans he))
  · intro r hr
    obtain ⟨-, hholds, happly⟩ := hok r (Option.some.inj (hres.symm.trans hr))
    exact Or.inr ⟨hholds, hcres, happly⟩

lemma Client.quiet_error {e : Fault ε} (hcres : c.phase.result = none)
    (hp : p = .closing (.error e) ∧ c.phase.holds = true ∨ p = .finished (.error e))
    (herr : c.call.creates = true →
      e = .lockTimeout ∨ e = .io ∨ e = .alreadyThere ∧ stored ≠ none) :
    c.Quiet fmt stored file (p, file) := by
  refine Client.quiet_end hcres hp (fun r hr => by cases hr) fun e' hc he => ?_
  obtain rfl := Except.error.inj he
  exact herr hc

lemma Client.quiet_fail (hsound : c.Sound fmt stored) (hend : c.CreateEnd stored) :
    c.Quiet fmt stored file (c.phase.fail, file) := by
  obtain ⟨call, p⟩ := c
  cases p with
  | waiting => exact Client.quiet_error rfl (Or.inr rfl) fun _ => Or.inr (Or.inl rfl)
  | closing result => exact Client.quiet_same rfl id id hsound hend
  | finished result => exact Client.quiet_same rfl id id hsound hend
  | crashed result => exact Client.quiet_same rfl id id hsound hend
  | _ => exact Client.quiet_error rfl (Or.inl ⟨rfl, rfl⟩) fun _ => Or.inr (Or.inl rfl)

lemma Client.quiet_go (hfile : file = stored.map fun s => .whole (fmt.encode s))
    (hsound : c.Sound fmt stored) (hend : c.CreateEnd stored) (h : ¬c.renames .go) :
    c.Quiet fmt stored file (c.go fmt file) := by
  obtain ⟨call, p⟩ := c
  cases p with
  | waiting => exact Client.quiet_same rfl id id hsound hend
  | locked =>
    cases call with
    | create s =>
      cases stored with
      | none =>
        subst hfile
        exact Client.quiet_step rfl rfl rfl rfl ⟨rfl, rfl⟩
      | some s' =>
        subst hfile
        exact Client.quiet_error rfl (Or.inl ⟨rfl, rfl⟩) fun _ =>
          Or.inr (Or.inr ⟨rfl, by simp⟩)
    | _ =>
      cases file with
      | none => exact Client.quiet_error rfl (Or.inl ⟨rfl, rfl⟩) fun hc => by cases hc
      | some content => exact Client.quiet_step rfl rfl rfl rfl rfl
  | opened =>
    have hcreates : call.creates = false := hsound
    simp only [Client.go]
    cases hread : file.elim (.error .missing) fmt.read with
    | error e =>
      exact Client.quiet_error rfl (Or.inl ⟨rfl, rfl⟩) fun hc => by simp [hcreates] at hc
    | ok s =>
      obtain rfl : stored = some s := by
        cases stored with
        | none => simp [hfile] at hread
        | some s₀ =>
          simp only [hfile, Option.map_some, Option.elim_some, Format.read] at hread
          split at hread
          · next s' hs' =>
            obtain rfl := Except.ok.inj hread
            rw [fmt.faithful hs']
          · cases hread
      cases call with
      | load =>
        refine Client.quiet_end rfl (Or.inl ⟨rfl, rfl⟩) (fun r hr => ?_) fun e hc => by cases hc
        obtain rfl := Except.ok.inj hr
        exact ⟨rfl, rfl, rfl⟩
      | create s₀ => cases hcreates
      | update mutate stamp => exact Client.quiet_step rfl rfl rfl rfl rfl
  | copied s =>
    obtain rfl : stored = some s := hsound
    cases call with
    | update mutate stamp =>
      simp only [Client.go]
      rcases hm : mutate s with ⟨s', e | a⟩
      · exact Client.quiet_error rfl (Or.inl ⟨rfl, rfl⟩) fun hc => by cases hc
      · exact Client.quiet_step rfl rfl rfl rfl ⟨rfl, by simp only [Call.apply, hm]⟩
    | _ => exact Client.quiet_same rfl id id rfl hend
  | ready s r => exact Client.quiet_step rfl rfl rfl rfl ⟨hsound.1, hsound.2, Or.inl rfl⟩
  | staged tmp s r =>
    cases tmp with
    | part => exact Client.quiet_step rfl rfl rfl rfl ⟨hsound.1, hsound.2.1, Or.inr rfl⟩
    | whole payload => exact absurd ⟨payload, s, r, rfl⟩ h
  | closing result =>
    exact Client.quiet_same rfl (fun h => by cases h) (fun h => by cases h) trivial hend
  | finished result => exact Client.quiet_same rfl id id hsound hend
  | crashed result => exact Client.quiet_same rfl id id hsound hend

lemma Client.turn_quiet {t : Turn} (hfile : file = stored.map fun s => .whole (fmt.encode s))
    (hsound : c.Sound fmt stored) (hend : c.CreateEnd stored) (h : ¬c.renames t) :
    c.Quiet fmt stored file (c.turn fmt file t) := by
  cases t with
  | go => exact Client.quiet_go hfile hsound hend h
  | timeout =>
    obtain ⟨call, p⟩ := c
    cases p with
    | waiting => exact Client.quiet_error rfl (Or.inr rfl) fun _ => Or.inl rfl
    | _ => exact Client.quiet_same rfl id id hsound hend
  | fail => exact Client.quiet_fail hsound hend
  | crash =>
    obtain ⟨call, p⟩ := c
    cases p with
    | finished result => exact Client.quiet_same rfl id id hsound hend
    | _ => exact Client.quiet_same rfl (fun h => by cases h) (fun h => by cases h) trivial hend

end Quiet

/-! ### Every run -/

/-- What holds in every pool that a run reaches; `stored` is the value in the file. -/
structure Pool.Consistent (fmt : Format σ β ε) (pool : Pool σ β ε α) (stored : Option σ) :
    Prop where
  file : pool.file = stored.map fun s => .whole (fmt.encode s)
  replays : replay pool.writes none = .ok stored
  sound : ∀ {i c}, pool.client? i = some c → c.Sound fmt stored
  createEnd : ∀ {i c}, pool.client? i = some c → c.CreateEnd stored
  alone : ∀ {i j c d}, pool.client? i = some c → pool.client? j = some d → i ≠ j →
    c.phase.holds = true → d.phase.holds = true → c.call.writes = false
  waiting : ∀ {i c}, pool.client? i = some c → c.phase = .waiting → i ∉ pool.order
  ordered : ∀ {i c}, pool.client? i = some c →
    c.phase.holds = true ∨ c.phase.succeeded = true → i ∈ pool.order
  inRange : ∀ i ∈ pool.order, i < pool.clients.length
  nodup : pool.order.Nodup
  last : ∀ {i c}, pool.client? i = some c → c.phase.holds = true → c.call.writes = true →
    ∃ l, pool.order = l ++ [i]
  current : ∀ {i c}, pool.client? i = some c → c.phase.holds = true → c.phase.result = none →
    pool.writesBefore i = pool.writes
  linear : ∀ {i c r}, pool.client? i = some c → c.phase.result = some (.ok r) →
    ∃ s s', replay (pool.writesBefore i) none = .ok s ∧ c.call.apply s = .ok (r, s')
  perm : pool.writes.Perm (pool.clients.filterMap Client.write?)

/-- Filtering a list in which one entry was replaced. -/
lemma filterMap_set_same {γ δ : Type} {f : γ → Option δ} {l : List γ} {i : ℕ} {a b : γ}
    (h : l[i]? = some a) (hf : f b = f a) : (l.set i b).filterMap f = l.filterMap f := by
  induction l generalizing i with
  | nil => rfl
  | cons x xs ih =>
    cases i with
    | zero =>
      obtain rfl : x = a := by simpa using h
      simp [List.filterMap_cons, hf]
    | succ i => simp [List.filterMap_cons, ih (by simpa using h)]

lemma filterMap_set_new {γ δ : Type} {f : γ → Option δ} {l : List γ} {i : ℕ} {a b : γ} {d : δ}
    (h : l[i]? = some a) (ha : f a = none) (hb : f b = some d) :
    ((l.set i b).filterMap f).Perm (l.filterMap f ++ [d]) := by
  induction l generalizing i with
  | nil => simp at h
  | cons x xs ih =>
    cases i with
    | zero =>
      obtain rfl : x = a := by simpa using h
      simpa [List.filterMap_cons, ha, hb] using List.perm_append_singleton d (xs.filterMap f)
        |>.symm
    | succ i =>
      have hxs := ih (by simpa using h)
      cases hx : f x with
      | none => simpa [List.filterMap_cons, hx] using hxs
      | some y => simpa [List.filterMap_cons, hx] using hxs.cons y

/-- What stands before an entry does not change when the list grows. -/
lemma takeWhile_ne_append {l l' : List ℕ} {j : ℕ} (h : j ∈ l) :
    (l ++ l').takeWhile (· ≠ j) = l.takeWhile (· ≠ j) := by
  induction l with
  | nil => cases h
  | cons x xs ih =>
    rcases eq_or_ne x j with rfl | hne
    · simp
    · have hxs : j ∈ xs := by simpa [Ne.symm hne] using h
      simpa [List.takeWhile_cons, hne] using ih hxs

lemma takeWhile_ne_concat {l : List ℕ} {j : ℕ} (h : j ∉ l) :
    (l ++ [j]).takeWhile (· ≠ j) = l := by
  rw [List.takeWhile_append_of_pos fun x hx => by simpa using ne_of_mem_of_not_mem hx h]
  simp

namespace Pool

variable {fmt : Format σ β ε} {pool : Pool σ β ε α} {stored : Option σ}

lemma client?_begin {call : Call σ ε α} {i : ℕ} {c : Client σ β ε α}
    (h : (pool.step fmt (.begin call)).client? i = some c) :
    pool.client? i = some c ∨ i = pool.clients.length ∧ c = ⟨call, .waiting⟩ := by
  simp only [client?, step] at h ⊢
  rcases Nat.lt_trichotomy i pool.clients.length with hi | rfl | hi
  · exact Or.inl (by rwa [List.getElem?_append_left hi] at h)
  · exact Or.inr ⟨rfl, by simpa using h.symm⟩
  · rw [List.getElem?_eq_none (by simp; omega)] at h
    cases h

lemma client?_set {c d : Client σ β ε α} {file : Option (Content β)} {order : List ℕ} {i j : ℕ}
    (h : (Pool.mk file (pool.clients.set i d) order).client? j = some c) :
    j = i ∧ c = d ∨ j ≠ i ∧ pool.client? j = some c := by
  simp only [client?] at h ⊢
  rcases eq_or_ne j i with rfl | hne
  · refine Or.inl ⟨rfl, ?_⟩
    rw [List.getElem?_set] at h
    split_ifs at h with hi
    · exact (Option.some.inj h).symm
    · exact absurd rfl hi
  · exact Or.inr ⟨hne, by rwa [List.getElem?_set_ne (Ne.symm hne)] at h⟩

lemma consistent_begin (h : pool.Consistent fmt stored) (call : Call σ ε α) :
    (pool.step fmt (.begin call)).Consistent fmt stored := by
  have hold : ∀ {i c}, (pool.step fmt (.begin call)).client? i = some c → c.phase ≠ .waiting →
      pool.client? i = some c := by
    intro i c hc hp
    rcases client?_begin hc with hc | ⟨-, rfl⟩
    · exact hc
    · exact absurd rfl hp
  have hwrite : (pool.step fmt (.begin call)).writeAt = pool.writeAt := by
    funext i
    rcases Nat.lt_or_ge i pool.clients.length with hi | hi
    · simp only [writeAt, client?, step, List.getElem?_append_left hi]
    · have hnone : pool.client? i = none := List.getElem?_eq_none hi
      rw [writeAt, writeAt, hnone]
      cases hc : (pool.step fmt (.begin call)).client? i with
      | none => rfl
      | some c =>
        rcases client?_begin hc with hc | ⟨-, rfl⟩
        · rw [hnone] at hc
          cases hc
        · simp [Client.write?, Phase.succeeded, Phase.result]
  have hwrites : (pool.step fmt (.begin call)).writes = pool.writes := by
    rw [writes, hwrite]
    rfl
  have hbefore : (pool.step fmt (.begin call)).writesBefore = pool.writesBefore := by
    funext i
    rw [writesBefore, hwrite]
    rfl
  have hholds : ∀ {p : Phase σ β ε α}, p.holds = true → p ≠ .waiting := by
    rintro p hp rfl
    cases hp
  have hresult : ∀ {p : Phase σ β ε α} {r}, p.result = some r → p ≠ .waiting := by
    rintro p r hp rfl
    cases hp
  exact
    { file := h.file
      replays := by rw [hwrites]; exact h.replays
      sound := fun hc => by
        rcases client?_begin hc with hc | ⟨-, rfl⟩
        · exact h.sound hc
        · trivial
      createEnd := fun hc e hcreates he => h.createEnd (hold hc (hresult he)) e hcreates he
      alone := fun hc hd hne hch hdh =>
        h.alone (hold hc (hholds hch)) (hold hd (hholds hdh)) hne hch hdh
      waiting := fun hc hp => by
        rcases client?_begin hc with hc | ⟨rfl, -⟩
        · exact h.waiting hc hp
        · exact fun hi => absurd (h.inRange _ hi) (lt_irrefl _)
      ordered := fun hc hp => by
        refine h.ordered (hold hc ?_) hp
        rintro heq
        simp [heq, Phase.holds, Phase.succeeded, Phase.result] at hp
      inRange := fun i hi => by
        have hlt := h.inRange i hi
        simp only [step, List.length_append]
        omega
      nodup := h.nodup
      last := fun hc hp => h.last (hold hc (hholds hp)) hp
      current := fun hc hp hr => by
        rw [hbefore, hwrites]
        exact h.current (hold hc (hholds hp)) hp hr
      linear := fun hc hr => by
        rw [hbefore]
        exact h.linear (hold hc (hresult hr)) hr
      perm := by
        rw [hwrites]
        simpa [step, Client.write?, Phase.succeeded, Phase.result] using h.perm }

lemma writesBefore_concat {i j : ℕ} (file : Option (Content β)) (clients : List (Client σ β ε α))
    (hwrite : (Pool.mk file clients (pool.order ++ [i])).writeAt = pool.writeAt)
    (hj : j ∈ pool.order) :
    (Pool.mk file clients (pool.order ++ [i])).writesBefore j = pool.writesBefore j := by
  rw [writesBefore, hwrite, writesBefore, takeWhile_ne_append hj]

lemma writeAt_set {c d : Client σ β ε α} {file : Option (Content β)} {order : List ℕ} {i : ℕ}
    (hc : pool.client? i = some c) (j : ℕ) :
    (Pool.mk file (pool.clients.set i d) order).writeAt j =
      if j = i then d.write? else pool.writeAt j := by
  have hi : i < pool.clients.length := (List.getElem?_eq_some_iff.1 hc).1
  split_ifs with hj
  · subst hj
    simp [writeAt, client?, List.getElem?_set_self hi]
  · simp only [writeAt, client?, List.getElem?_set_ne (Ne.symm hj)]

lemma writeAt_set_same {c d : Client σ β ε α} {file : Option (Content β)} {order : List ℕ} {i : ℕ}
    (hc : pool.client? i = some c) (hd : d.write? = c.write?) :
    (Pool.mk file (pool.clients.set i d) order).writeAt = pool.writeAt := by
  funext j
  rw [writeAt_set hc]
  split_ifs with hj
  · rw [hd, hj, writeAt, hc]
    rfl
  · rfl

lemma free_of_holds {call : Call σ ε α} {d : Client σ β ε α} {j : ℕ} (h : pool.free call = true)
    (hd : pool.client? j = some d) (hholds : d.phase.holds = true) :
    call.writes = false ∧ d.call.writes = false := by
  have hall := List.all_eq_true.1 h d (List.mem_of_getElem? hd)
  simpa [hholds] using hall

lemma consistent_grant (h : pool.Consistent fmt stored) {i : ℕ} {call : Call σ ε α}
    (hc : pool.client? i = some ⟨call, .waiting⟩) (hfree : pool.free call = true) :
    (Pool.mk pool.file (pool.clients.set i ⟨call, .locked⟩) (pool.order ++ [i])).Consistent fmt
      stored := by
  have hi : i ∉ pool.order := h.waiting hc rfl
  have hlt : i < pool.clients.length := (List.getElem?_eq_some_iff.1 hc).1
  have hnone : (Client.mk call (.locked : Phase σ β ε α)).write? = none := by
    simp [Client.write?, Phase.succeeded, Phase.result]
  have hsame : (Client.mk call (.locked : Phase σ β ε α)).write? =
      (Client.mk call (.waiting : Phase σ β ε α)).write? := by
    simp [Client.write?, Phase.succeeded, Phase.result]
  have hwrite := @writeAt_set_same _ _ _ _ _ _ _ pool.file (pool.order ++ [i]) i hc hsame
  have hat : pool.writeAt i = none := by
    rw [writeAt, hc]
    exact hsame.symm.trans hnone
  have hwrites : (Pool.mk pool.file (pool.clients.set i ⟨call, .locked⟩)
      (pool.order ++ [i])).writes = pool.writes := by
    rw [writes, hwrite, List.filterMap_append]
    simp [writes, hat]
  have hbefore : ∀ {j}, j ∈ pool.order → (Pool.mk pool.file (pool.clients.set i ⟨call, .locked⟩)
      (pool.order ++ [i])).writesBefore j = pool.writesBefore j :=
    fun hj => writesBefore_concat _ _ hwrite hj
  have hself : (Pool.mk pool.file (pool.clients.set i ⟨call, .locked⟩)
      (pool.order ++ [i])).writesBefore i = pool.writes := by
    rw [writesBefore, hwrite, takeWhile_ne_concat hi, writes]
  exact
    { file := h.file
      replays := by rw [hwrites]; exact h.replays
      sound := fun hd => by
        rcases client?_set hd with ⟨-, rfl⟩ | ⟨-, hd⟩
        · trivial
        · exact h.sound hd
      createEnd := fun hd e hcreates he => by
        rcases client?_set hd with ⟨-, rfl⟩ | ⟨-, hd⟩
        · cases he
        · exact h.createEnd hd e hcreates he
      alone := fun hd he hne hdh heh => by
        rcases client?_set hd with ⟨rfl, rfl⟩ | ⟨hdi, hd⟩
        · rcases client?_set he with ⟨rfl, -⟩ | ⟨-, he⟩
          · exact absurd rfl hne
          · exact (free_of_holds hfree he heh).1
        · rcases client?_set he with ⟨-, -⟩ | ⟨-, he⟩
          · exact (free_of_holds hfree hd hdh).2
          · exact h.alone hd he hne hdh heh
      waiting := fun hd hp => by
        rcases client?_set hd with ⟨-, rfl⟩ | ⟨hne, hd⟩
        · cases hp
        · simpa [hne] using h.waiting hd hp
      ordered := fun hd hp => by
        rcases client?_set hd with ⟨rfl, -⟩ | ⟨-, hd⟩
        · simp
        · simp [h.ordered hd hp]
      inRange := fun j hj => by
        rw [List.length_set]
        rcases List.mem_append.1 hj with hj | hj
        · exact h.inRange j hj
        · rwa [List.mem_singleton.1 hj]
      nodup := List.nodup_append.2 ⟨h.nodup, by simp, by
        rintro a ha b hb rfl
        exact hi (List.mem_singleton.1 hb ▸ ha)⟩
      last := fun hd hdh hdw => by
        rcases client?_set hd with ⟨rfl, -⟩ | ⟨-, hd⟩
        · exact ⟨pool.order, rfl⟩
        · rw [(free_of_holds hfree hd hdh).2] at hdw
          cases hdw
      current := fun hd hdh hdr => by
        rcases client?_set hd with ⟨rfl, -⟩ | ⟨-, hd⟩
        · rw [hself, hwrites]
        · rw [hbefore (h.ordered hd (Or.inl hdh)), hwrites]
          exact h.current hd hdh hdr
      linear := fun hd hdr => by
        rcases client?_set hd with ⟨-, rfl⟩ | ⟨-, hd⟩
        · cases hdr
        · rw [hbefore (h.ordered hd (Or.inr (by simp [Phase.succeeded, hdr])))]
          exact h.linear hd hdr
      perm := by
        rw [hwrites, filterMap_set_same hc hsame]
        exact h.perm }

lemma consistent_quiet (h : pool.Consistent fmt stored) {i : ℕ} {c : Client σ β ε α}
    {next : Phase σ β ε α × Option (Content β)} (hc : pool.client? i = some c)
    (hq : c.Quiet fmt stored pool.file next) :
    (Pool.mk next.2 (pool.clients.set i ⟨c.call, next.1⟩) pool.order).Consistent fmt stored := by
  have hwrite := @writeAt_set_same _ _ _ _ _ _ _ next.2 pool.order i hc hq.write
  have hwrites : (Pool.mk next.2 (pool.clients.set i ⟨c.call, next.1⟩) pool.order).writes =
      pool.writes := by
    rw [writes, hwrite]
    rfl
  have hbefore : (Pool.mk next.2 (pool.clients.set i ⟨c.call, next.1⟩) pool.order).writesBefore =
      pool.writesBefore := by
    funext j
    rw [writesBefore, hwrite]
    rfl
  exact
    { file := hq.file_eq.trans h.file
      replays := by rw [hwrites]; exact h.replays
      sound := fun hd => by
        rcases client?_set hd with ⟨-, rfl⟩ | ⟨-, hd⟩
        · exact hq.sound
        · exact h.sound hd
      createEnd := fun hd => by
        rcases client?_set hd with ⟨-, rfl⟩ | ⟨-, hd⟩
        · exact hq.createEnd
        · exact h.createEnd hd
      alone := fun hd he hne hdh heh => by
        rcases client?_set hd with ⟨rfl, rfl⟩ | ⟨-, hd'⟩
        · rcases client?_set he with ⟨rfl, -⟩ | ⟨-, he'⟩
          · exact absurd rfl hne
          · have halone := h.alone hc he' hne (hq.holds hdh) heh
            exact halone
        · rcases client?_set he with ⟨rfl, rfl⟩ | ⟨-, he'⟩
          · exact h.alone hd' hc hne hdh (hq.holds heh)
          · exact h.alone hd' he' hne hdh heh
      waiting := fun hd hp => by
        rcases client?_set hd with ⟨rfl, rfl⟩ | ⟨-, hd⟩
        · exact h.waiting hc (hq.waiting hp)
        · exact h.waiting hd hp
      ordered := fun hd hp => by
        rcases client?_set hd with ⟨rfl, rfl⟩ | ⟨-, hd⟩
        · refine h.ordered hc ?_
          rcases hp with hp | hp
          · exact Or.inl (hq.holds hp)
          · obtain ⟨r, hr⟩ := Phase.succeeded_iff.1 hp
            rcases hq.reads r hr with hr | ⟨hholds, -⟩
            · exact Or.inr (Phase.succeeded_iff.2 ⟨r, hr⟩)
            · exact Or.inl hholds
        · exact h.ordered hd hp
      inRange := fun j hj => by
        rw [List.length_set]
        exact h.inRange j hj
      nodup := h.nodup
      last := fun hd hdh hdw => by
        rcases client?_set hd with ⟨rfl, rfl⟩ | ⟨-, hd⟩
        · exact h.last hc (hq.holds hdh) hdw
        · exact h.last hd hdh hdw
      current := fun hd hdh hdr => by
        rw [hbefore, hwrites]
        rcases client?_set hd with ⟨rfl, rfl⟩ | ⟨-, hd⟩
        · exact h.current hc (hq.holds hdh) (hq.result hdr)
        · exact h.current hd hdh hdr
      linear := fun hd hdr => by
        rw [hbefore]
        rcases client?_set hd with ⟨rfl, rfl⟩ | ⟨-, hd⟩
        · rcases hq.reads _ hdr with hr | ⟨hholds, hnone, happly⟩
          · have hlinear := h.linear hc hr
            exact hlinear
          · exact ⟨stored, stored, by rw [h.current hc hholds hnone, h.replays], happly⟩
        · exact h.linear hd hdr
      perm := by
        rw [hwrites, filterMap_set_same hc hq.write]
        exact h.perm }

/-- The rename is the point at which a write takes effect: the writer is alone with the lock, so
it is the last of the lock order, and its copy was made from what the file still has. -/
lemma consistent_rename (h : pool.Consistent fmt stored) {i : ℕ} {c : Client σ β ε α}
    {payload : β} {s : σ} {r : Reply σ α} (hc : pool.client? i = some c)
    (hp : c.phase = .staged (.whole payload) s r) :
    (Pool.mk (some (.whole payload)) (pool.clients.set i ⟨c.call, .closing (.ok r)⟩)
      pool.order).Consistent fmt (some s) := by
  have hsound := h.sound hc
  rw [Client.Sound, hp] at hsound
  obtain ⟨hwrites, happly, htmp⟩ := hsound
  obtain rfl : payload = fmt.encode s := by
    rcases htmp with htmp | htmp
    · cases htmp
    · exact Content.whole.inj htmp
  have hholds : c.phase.holds = true := by rw [hp]; rfl
  have hres : c.phase.result = none := by rw [hp]; rfl
  have hold : c.write? = none := by simp [Client.write?, Phase.succeeded, hres]
  have hnew : (Client.mk c.call (.closing (.ok r) : Phase σ β ε α)).write? = some c.call := by
    simp [Client.write?, hwrites, Phase.succeeded, Phase.result]
  obtain ⟨l, horder⟩ := h.last hc hholds hwrites
  have hi : i ∉ l := by
    have hnodup := h.nodup
    rw [horder] at hnodup
    exact fun hi => (List.nodup_append.1 hnodup).2.2 i hi i (by simp) rfl
  have hat := fun j => @writeAt_set _ _ _ _ pool c ⟨c.call, .closing (.ok r)⟩
    (some (.whole (fmt.encode s))) pool.order i hc j
  generalize hpool : (Pool.mk (some (.whole (fmt.encode s)))
    (pool.clients.set i ⟨c.call, .closing (.ok r)⟩) pool.order) = pool' at hat ⊢
  have horder' : pool'.order = pool.order := by rw [← hpool]
  have hclient : ∀ {j d}, pool'.client? j = some d →
      j = i ∧ d = ⟨c.call, .closing (.ok r)⟩ ∨ j ≠ i ∧ pool.client? j = some d := by
    subst hpool
    exact fun hd => client?_set hd
  have hpre : ∀ {l' : List ℕ}, i ∉ l' → l'.filterMap pool'.writeAt = l'.filterMap pool.writeAt :=
    fun hi' => List.filterMap_congr fun j hj => by rw [hat, if_neg (ne_of_mem_of_not_mem hj hi')]
  have hnewest : pool'.writes = pool.writes ++ [c.call] := by
    have hnone : pool.writeAt i = none := by
      rw [writeAt, hc]
      exact hold
    rw [writes, horder', horder, List.filterMap_append, hpre hi, writes, horder,
      List.filterMap_append]
    simp [hat, hnew, hnone]
  have hbefore : ∀ {j}, j ∈ pool.order → pool'.writesBefore j = pool.writesBefore j := by
    intro j hj
    have hsub : i ∉ pool.order.takeWhile (· ≠ j) := by
      intro hmem
      rcases eq_or_ne j i with rfl | hne
      · simpa using List.mem_takeWhile_imp hmem
      · have hjl : j ∈ l := by simpa [horder, hne] using hj
        rw [horder, takeWhile_ne_append hjl] at hmem
        exact hi (List.takeWhile_subset _ hmem)
    rw [writesBefore, horder', hpre hsub, writesBefore]
  exact
    { file := by rw [← hpool]; rfl
      replays := by
        rw [hnewest]
        exact replay_concat h.replays happly
      sound := fun {j d} hd => by
        rcases hclient hd with ⟨-, rfl⟩ | ⟨hne, hd⟩
        · trivial
        · refine Client.sound_of_not_holds (Bool.eq_false_iff.2 fun hdh => ?_)
          rw [h.alone hc hd (Ne.symm hne) hholds hdh] at hwrites
          cases hwrites
      createEnd := fun hd e hcreates he => by
        rcases hclient hd with ⟨-, rfl⟩ | ⟨-, hd⟩
        · cases he
        · rcases h.createEnd hd e hcreates he with he | he | ⟨he, -⟩
          · exact Or.inl he
          · exact Or.inr (Or.inl he)
          · exact Or.inr (Or.inr ⟨he, by simp⟩)
      alone := fun {j k d e} hd he hne hdh heh => by
        have halone : ∀ {j d}, pool.client? j = some d → j ≠ i → d.phase.holds = false := by
          intro j d hd hne
          refine Bool.eq_false_iff.2 fun hdh => ?_
          rw [h.alone hc hd (Ne.symm hne) hholds hdh] at hwrites
          cases hwrites
        rcases hclient hd with ⟨rfl, -⟩ | ⟨hdi, hd⟩
        · rcases hclient he with ⟨rfl, -⟩ | ⟨hei, he⟩
          · exact absurd rfl hne
          · rw [halone he hei] at heh
            cases heh
        · rw [halone hd hdi] at hdh
          cases hdh
      waiting := fun hd hdw => by
        rw [horder']
        rcases hclient hd with ⟨-, rfl⟩ | ⟨-, hd⟩
        · cases hdw
        · exact h.waiting hd hdw
      ordered := fun hd hdp => by
        rw [horder']
        rcases hclient hd with ⟨rfl, -⟩ | ⟨-, hd⟩
        · exact h.ordered hc (Or.inl hholds)
        · exact h.ordered hd hdp
      inRange := fun j hj => by
        rw [horder'] at hj
        have hlt := h.inRange j hj
        subst hpool
        simpa using hlt
      nodup := by rw [horder']; exact h.nodup
      last := fun hd hdh hdw => by
        rw [horder']
        rcases hclient hd with ⟨rfl, -⟩ | ⟨-, hd⟩
        · exact ⟨l, horder⟩
        · exact h.last hd hdh hdw
      current := fun hd hdh hdr => by
        rcases hclient hd with ⟨-, rfl⟩ | ⟨hne, hd⟩
        · cases hdr
        · rw [h.alone hc hd (Ne.symm hne) hholds hdh] at hwrites
          cases hwrites
      linear := fun hd hdr => by
        rcases hclient hd with ⟨rfl, rfl⟩ | ⟨-, hd⟩
        · obtain rfl : r = _ := Except.ok.inj (Option.some.inj hdr)
          refine ⟨stored, some s, ?_, happly⟩
          rw [hbefore (h.ordered hc (Or.inl hholds)), h.current hc hholds hres, h.replays]
        · rw [hbefore (h.ordered hd (Or.inr (by simp [Phase.succeeded, hdr])))]
          exact h.linear hd hdr
      perm := by
        rw [hnewest]
        subst hpool
        exact (h.perm.append_right [c.call]).trans (filterMap_set_new hc hold hnew).symm }

lemma consistent_step (h : pool.Consistent fmt stored) (m : Move σ ε α) :
    ∃ stored', (pool.step fmt m).Consistent fmt stored' := by
  cases m with
  | begin call => exact ⟨stored, consistent_begin h call⟩
  | grant i =>
    rw [step]
    split
    · next call hc =>
      split_ifs with hfree
      · exact ⟨stored, consistent_grant h hc hfree⟩
      · exact ⟨stored, h⟩
    · exact ⟨stored, h⟩
  | turn i t =>
    rw [step]
    cases hc : pool.client? i with
    | none => exact ⟨stored, h⟩
    | some c =>
      by_cases hren : c.renames t
      · obtain ⟨payload, s, r, hp, hturn⟩ := @Client.turn_renames _ _ _ _ fmt pool.file _ _ hren
        refine ⟨some s, ?_⟩
        simp only [hturn]
        exact consistent_rename h hc hp
      · exact ⟨stored, consistent_quiet h hc
          (Client.turn_quiet h.file (h.sound hc) (h.createEnd hc) hren)⟩

/-- Where nothing is stored and no call has begun. -/
lemma consistent_empty : ({} : Pool σ β ε α).Consistent fmt none := by
  refine ⟨rfl, rfl, ?_, ?_, ?_, ?_, ?_, ?_, List.nodup_nil, ?_, ?_, ?_, List.Perm.refl _⟩ <;>
    simp [client?]

theorem consistent_run (h : pool.Consistent fmt stored) (moves : List (Move σ ε α)) :
    ∃ stored', (pool.run fmt moves).Consistent fmt stored' := by
  induction moves generalizing pool stored with
  | nil => exact ⟨stored, h⟩
  | cons m moves ih =>
    obtain ⟨stored', h'⟩ := consistent_step h m
    exact ih h'

lemma run_append (moves moves' : List (Move σ ε α)) :
    pool.run fmt (moves ++ moves') = (pool.run fmt moves).run fmt moves' := by
  simp [run]

lemma run_cons (m : Move σ ε α) (moves : List (Move σ ε α)) :
    pool.run fmt (m :: moves) = (pool.step fmt m).run fmt moves := rfl

/-! ### What came of the calls -/

lemma client?_turn {i : ℕ} {c : Client σ β ε α} (hc : pool.client? i = some c) (t : Turn) :
    (pool.step fmt (.turn i t)).client? i = some ⟨c.call, (c.turn fmt pool.file t).1⟩ := by
  have hi : i < pool.clients.length := (List.getElem?_eq_some_iff.1 hc).1
  rw [step, hc]
  exact List.getElem?_set_self hi

/-- What a call came to stays. -/
lemma result_step {i : ℕ} {c : Client σ β ε α} {r : Result σ ε α} (hc : pool.client? i = some c)
    (hr : c.phase.result = some r) (m : Move σ ε α) :
    ∃ c', (pool.step fmt m).client? i = some c' ∧ c'.phase.result = some r := by
  have hi : i < pool.clients.length := (List.getElem?_eq_some_iff.1 hc).1
  cases m with
  | begin call => exact ⟨c, by simpa [client?, step, List.getElem?_append_left hi] using hc, hr⟩
  | grant j =>
    rw [step]
    split
    · next call hj =>
      split_ifs with hfree
      · have hne : j ≠ i := by
          rintro rfl
          rw [hc] at hj
          obtain rfl := Option.some.inj hj
          cases hr
        exact ⟨c, by simpa [client?, List.getElem?_set_ne hne] using hc, hr⟩
      · exact ⟨c, hc, hr⟩
    · exact ⟨c, hc, hr⟩
  | turn j t =>
    rcases eq_or_ne j i with rfl | hne
    · refine ⟨_, client?_turn hc t, ?_⟩
      obtain ⟨call, p⟩ := c
      cases p <;> cases t <;> first | exact hr | cases hr
    · rw [step]
      cases hj : pool.client? j with
      | none => exact ⟨c, hc, hr⟩
      | some d => exact ⟨c, by simpa [client?, List.getElem?_set_ne hne] using hc, hr⟩

lemma result_run {i : ℕ} {c : Client σ β ε α} {r : Result σ ε α} (hc : pool.client? i = some c)
    (hr : c.phase.result = some r) (moves : List (Move σ ε α)) :
    ∃ c', (pool.run fmt moves).client? i = some c' ∧ c'.phase.result = some r := by
  induction moves generalizing pool c with
  | nil => exact ⟨c, hc, hr⟩
  | cons m moves ih =>
    obtain ⟨c', hc', hr'⟩ := @result_step _ _ _ _ fmt _ _ _ _ hc hr m
    exact ih hc' hr'

/-- The steps of a call that fails in the end all leave the file alone. -/
theorem file_of_failed (h : pool.Consistent fmt stored) {i : ℕ} {t : Turn}
    {moves : List (Move σ ε α)} {c : Client σ β ε α} {e : Fault ε}
    (hc : (pool.run fmt (.turn i t :: moves)).client? i = some c)
    (he : c.phase.result = some (.error e)) : (pool.step fmt (.turn i t)).file = pool.file := by
  rw [run_cons] at hc
  cases hd : pool.client? i with
  | none => simp only [step, hd]
  | some d =>
    by_cases hren : d.renames t
    · obtain ⟨payload, s, r, -, hturn⟩ := @Client.turn_renames _ _ _ _ fmt pool.file _ _ hren
      have hdone := @client?_turn _ _ _ _ fmt _ _ _ hd t
      rw [hturn] at hdone
      obtain ⟨c', hc', hr'⟩ := @result_run _ _ _ _ fmt _ _ _ (.ok r) hdone rfl moves
      obtain rfl : c' = c := Option.some.inj (hc'.symm.trans hc)
      rw [he] at hr'
      cases hr'
    · simp only [step, hd]
      exact (Client.turn_quiet h.file (h.sound hd) (h.createEnd hd) hren).file_eq

/-- The calls of a kind that succeeded, counted in the lock order. -/
lemma countP_succeeded (h : pool.Consistent fmt stored) {q : Call σ ε α → Bool}
    (hq : ∀ call, q call = true → call.writes = true) :
    pool.clients.countP (fun c => q c.call && c.phase.succeeded) = pool.writes.countP q := by
  rw [h.perm.countP_eq, List.countP_filterMap]
  refine List.countP_congr fun c _ => ?_
  rw [Client.write?]
  cases hw : c.call.writes with
  | true => cases c.phase.succeeded <;> simp
  | false =>
    have hno : q c.call = false := Bool.eq_false_iff.2 fun hqc => by simp [hq _ hqc] at hw
    simp [hno]

lemma writes_all (h : pool.Consistent fmt stored) : ∀ call ∈ pool.writes, call.writes = true ∧
    ∃ c ∈ pool.clients, c.call = call := by
  intro call hcall
  obtain ⟨c, hc, hcw⟩ := List.mem_filterMap.1 (h.perm.subset hcall)
  rw [Client.write?] at hcw
  split_ifs at hcw with hw
  obtain rfl := Option.some.inj hcw
  exact ⟨(Bool.and_eq_true_iff.1 hw).1, c, hc, rfl⟩

/-- The file is there exactly once one call has created it, and no second call does. -/
theorem countP_creates (h : pool.Consistent fmt stored) :
    pool.clients.countP (fun c => c.call.creates && c.phase.succeeded) =
      if stored.isSome then 1 else 0 := by
  have hcreates : ∀ call : Call σ ε α, call.creates = true → call.writes = true := by
    intro call hcall
    cases call <;> first | rfl | cases hcall
  rw [countP_succeeded h hcreates]
  rcases replay_none (fun c hc => (writes_all h c hc).1) h.replays with
    ⟨hnil, rfl⟩ | ⟨s, updates, last, hcons, hupdates, -, rfl⟩
  · simp [hnil]
  · have hzero : updates.countP Call.creates = 0 :=
      List.countP_eq_zero.2 fun c hc => by simp [hupdates c hc]
    rw [hcons, List.countP_cons, hzero]
    rfl

/-- A number that each update raises by one counts the updates that succeeded. -/
theorem count_updates {rev : σ → ℤ} {s : σ} (h : pool.Consistent fmt (some s))
    (hcreate : ∀ c ∈ pool.clients, ∀ s, c.call = .create s → rev s = 1)
    (hrev : ∀ c ∈ pool.clients, ∀ {s s' r}, c.call.apply (some s) = .ok (r, some s') →
      c.call.writes = true → rev s' = rev s + 1) :
    rev s = 1 + pool.clients.countP
      (fun c => (c.call.writes && !c.call.creates) && c.phase.succeeded) := by
  have hall := writes_all h
  rw [countP_succeeded h (q := fun call => call.writes && !call.creates) fun call hcall =>
    (Bool.and_eq_true_iff.1 hcall).1]
  rcases replay_none (fun c hc => (hall c hc).1) h.replays with
    ⟨-, hnone⟩ | ⟨s₀, updates, last, hcons, hupdates, hreplay, hlast⟩
  · cases hnone
  · obtain rfl := Option.some.inj hlast
    have hcount : updates.countP (fun call => call.writes && !call.creates) = updates.length :=
      List.countP_eq_length.2 fun c hc => by
        simp [hupdates c hc, (hall c (by simp [hcons, hc])).1]
    obtain ⟨c, hc, hcall⟩ := (hall (.create s₀) (by simp [hcons])).2
    have hupdate : ∀ call ∈ updates, ∀ {s s' r}, call.apply (some s) = .ok (r, some s') →
        rev s' = rev s + 1 := by
      intro call hcall s s' r happly
      obtain ⟨hw, d, hd, rfl⟩ := hall call (by simp [hcons, hcall])
      exact hrev d hd happly hw
    rw [replay_count hupdate hreplay, hcreate c hc s₀ hcall, hcons, List.countP_cons, hcount]
    simp [Call.creates]

/-- A load returns what the writes up to some point of the lock order had made, the last of them in
full. -/
theorem writes_of_load (h : pool.Consistent fmt stored) {i : ℕ} {c : Client σ β ε α}
    {r : Reply σ α} (hc : pool.client? i = some c) (hload : c.call = .load)
    (hr : c.phase.result = some (.ok r)) :
    ∃ s earlier w later, r = .state s ∧ pool.writes = earlier ++ w :: later ∧
      replay (earlier ++ [w]) none = .ok (some s) := by
  obtain ⟨s₀, s', hreplay, happly⟩ := h.linear hc hr
  rw [hload] at happly
  cases s₀ with
  | none => cases happly
  | some s =>
    obtain rfl : .state s = r := (Prod.mk.inj (Except.ok.inj happly)).1
    obtain ⟨later, hlater⟩ : pool.writesBefore i <+: pool.writes :=
      (List.takeWhile_prefix _).filterMap _
    rcases List.eq_nil_or_concat (pool.writesBefore i) with hnil | ⟨earlier, w, hcons⟩
    · rw [hnil] at hreplay
      cases hreplay
    · refine ⟨s, earlier, w, later, rfl, ?_, ?_⟩
      · rw [← hlater, hcons]
        simp
      · rwa [hcons, List.concat_eq_append] at hreplay

/-- The calls of a pool are those that were begun. -/
lemma call_of_run {moves : List (Move σ ε α)} {c : Client σ β ε α}
    (hc : c ∈ (pool.run fmt moves).clients) :
    (∃ d ∈ pool.clients, d.call = c.call) ∨ .begin c.call ∈ moves := by
  induction moves generalizing pool with
  | nil => exact Or.inl ⟨c, hc, rfl⟩
  | cons m moves ih =>
    rw [run_cons] at hc
    rcases ih hc with ⟨d, hd, hcall⟩ | hbegin
    · have hset : ∀ {i : ℕ} {d₀ : Client σ β ε α} {p : Phase σ β ε α},
          pool.client? i = some d₀ → d ∈ pool.clients.set i ⟨d₀.call, p⟩ →
          ∃ d' ∈ pool.clients, d'.call = c.call := by
        intro i d₀ p hd₀ hmem
        rcases List.mem_or_eq_of_mem_set hmem with hmem | rfl
        · exact ⟨d, hmem, hcall⟩
        · exact ⟨d₀, List.mem_of_getElem? hd₀, hcall⟩
      cases m with
      | begin call =>
        rcases List.mem_append.1 hd with hd | hd
        · exact Or.inl ⟨d, hd, hcall⟩
        · obtain rfl := List.mem_singleton.1 hd
          exact Or.inr (by simp [← hcall])
      | grant i =>
        rw [step] at hd
        split at hd
        · next call hi =>
          split_ifs at hd
          · exact Or.inl (hset hi hd)
          · exact Or.inl ⟨d, hd, hcall⟩
        · exact Or.inl ⟨d, hd, hcall⟩
      | turn i t =>
        rw [step] at hd
        split at hd
        · next d₀ hi => exact Or.inl (hset hi hd)
        · exact Or.inl ⟨d, hd, hcall⟩
    · exact Or.inr (by simp [hbegin])

end Pool

end SherwoodMonitor.LockedFile
