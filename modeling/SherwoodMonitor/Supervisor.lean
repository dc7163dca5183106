import Mathlib.Logic.Function.Basic
import SherwoodMonitor.Library.Table

/-! The supervisor of the stream children (`supervisor.py`). A move is what runs between two awaits
of a supervising task or of a `stop`. -/
namespace SherwoodMonitor.Supervisor

structure Child where
  fund : String
  live : Bool := true
  signalled : Bool := false
  deriving DecidableEq

/-- The await that a supervising task stands at. -/
inductive Phase
  | ready
  | spawning (child : ℕ)
  | closing (child : ℕ)
  | waiting (child : ℕ)
  | draining
  | sleeping
  | done
  deriving DecidableEq

/-- `_State`, with where its task is, and whether a cancel is on its way to the task. -/
structure State where
  subdomain : String
  proc : Option ℕ := none
  stopRequested : Bool := false
  task : Phase := .ready
  cancelled : Bool := false
  deriving DecidableEq

/-- The await that a `stop` stands at: the exit of the process that it captured, or the end of the
task that it cancelled. -/
inductive StopPhase
  | waiting (state proc : ℕ)
  | joining (state : ℕ)
  | returned
  deriving DecidableEq

structure StopCall where
  subdomain : String
  phase : StopPhase
  deriving DecidableEq

structure World where
  states : String → Option ℕ := fun _ => none
  objects : List State := []
  children : List Child := []
  stops : List StopCall := []

inductive Move
  | start (subdomain : String)
  | stop (subdomain : String)
  | reaped (call : ℕ)
  | graceOver (call : ℕ)
  | joined (call : ℕ)
  | resume (state : ℕ) (spawns : Bool)
  | exits (child : ℕ)
  deriving DecidableEq

namespace World

def setState (w : World) (i : ℕ) (o : State) : World := { w with objects := w.objects.set i o }
def addStop (w : World) (call : StopCall) : World := { w with stops := w.stops ++ [call] }
def setStop (w : World) (k : ℕ) (call : StopCall) : World :=
  { w with stops := w.stops.set k call }

/-- `terminate` and `kill`. -/
def signal (w : World) (c : ℕ) : World :=
  { w with children := w.children.modify c fun ch => { ch with signalled := true } }

def exit (w : World) (c : ℕ) : World :=
  { w with children := w.children.modify c fun ch => { ch with live := false } }

def isLive (w : World) (c : ℕ) : Bool := (w.children[c]?).any (·.live)

/-- The fund's entry in `_states`. -/
def current (w : World) (subdomain : String) : Option (ℕ × State) :=
  (w.states subdomain).bind fun i => (w.objects[i]?).map fun o => (i, o)

/-- The fund has a task that has not ended. -/
def busy (w : World) (subdomain : String) : Bool :=
  (w.current subdomain).any fun r => r.2.task ≠ .done

/-- The child is live from here on, and `create_subprocess_exec` goes on to connect its pipes. -/
def spawn (w : World) (i : ℕ) (o : State) : World :=
  { w.setState i { o with task := .spawning w.children.length } with
    children := w.children ++ [{ fund := o.subdomain }] }

/-- The head of the loop in `_supervise`. -/
def loop (w : World) (i : ℕ) (o : State) (spawns : Bool) : World :=
  if o.stopRequested then w.setState i { o with task := .done }
  else if spawns then w.spawn i o
  else w.setState i { o with task := .sleeping }

/-- What the task does when `CancelledError` comes out of its await. Cancelled in the spawn, asyncio
kills the child and waits for its exit. -/
def deliver (w : World) (i : ℕ) (o : State) : World :=
  match o.task with
  | .spawning c => (w.setState i { o with task := .closing c, cancelled := false }).signal c
  | _ => w.setState i { o with task := .done, cancelled := false }

/-- `_supervise` and `_run_once`. -/
def resume (w : World) (i : ℕ) (o : State) (spawns : Bool) : World :=
  if o.cancelled then w.deliver i o
  else
    match o.task with
    | .ready => w.loop i o spawns
    | .spawning c => w.setState i { o with proc := some c, task := .waiting c }
    | .closing c => if w.isLive c then w else w.setState i { o with task := .done }
    | .waiting c => if w.isLive c then w else w.setState i { o with task := .draining }
    | .draining => w.setState i { o with task := if o.stopRequested then .done else .sleeping }
    | .sleeping => w.loop i o spawns
    | .done => w

/-- The end of `stop`, once the process that it captured is gone: cancel the task and await it. -/
def cancel (w : World) (i : ℕ) : World × StopPhase :=
  match w.objects[i]? with
  | some o =>
      if o.task = .done then (w, .returned)
      else (w.setState i { o with cancelled := true }, .joining i)
  | none => (w, .returned)

def start (w : World) (subdomain : String) : World :=
  if w.busy subdomain then w
  else
    { w with
      states := Function.update w.states subdomain (some w.objects.length)
      objects := w.objects ++ [{ subdomain }] }

/-- `stop`, up to its first await. -/
def stop (w : World) (subdomain : String) : World :=
  match w.current subdomain with
  | none => w.addStop ⟨subdomain, .returned⟩
  | some (i, o) =>
      let w := w.setState i { o with stopRequested := true }
      match o.proc with
      | some p => (w.signal p).addStop ⟨subdomain, .waiting i p⟩
      | none => (w.cancel i).1.addStop ⟨subdomain, (w.cancel i).2⟩

def step (w : World) : Move → World
  | .start subdomain => w.start subdomain
  | .stop subdomain => w.stop subdomain
  | .reaped k =>
      match w.stops[k]? with
      | some ⟨subdomain, .waiting i p⟩ =>
          if w.isLive p then w else (w.cancel i).1.setStop k ⟨subdomain, (w.cancel i).2⟩
      | _ => w
  | .graceOver k =>
      match w.stops[k]? with
      | some ⟨subdomain, .waiting i p⟩ =>
          ((w.signal p).cancel i).1.setStop k ⟨subdomain, ((w.signal p).cancel i).2⟩
      | _ => w
  | .joined k =>
      match w.stops[k]? with
      | some ⟨subdomain, .joining i⟩ =>
          if (w.objects[i]?).any fun o => o.task ≠ .done then w
          else w.setStop k ⟨subdomain, .returned⟩
      | _ => w
  | .resume i spawns =>
      match w.objects[i]? with
      | some o => w.resume i o spawns
      | none => w
  | .exits c => w.exit c

def run (w : World) (moves : List Move) : World := moves.foldl step w

end World

/-- At most one child of each fund is live. -/
def World.OneLive (w : World) : Prop :=
  ∀ (c c' : ℕ) (ch ch' : Child), w.children[c]? = some ch → w.children[c']? = some ch' →
    ch.fund = ch'.fund → ch.live = true → ch'.live = true → c = c'

/-- The step is one at which a `stop` of the fund returns. -/
def Returns (w w' : World) (subdomain : String) : Prop :=
  ∃ k : ℕ, w'.stops[k]? = some (StopCall.mk subdomain .returned) ∧
    w.stops[k]? ≠ some (StopCall.mk subdomain .returned)

/-- Every child of the fund has exited or was signalled, and was spawned before the world
`since`. -/
def World.Stopped (since w : World) (subdomain : String) : Prop :=
  ∀ (c : ℕ) (ch : Child), w.children[c]? = some ch → ch.fund = subdomain →
    (ch.live = false ∨ ch.signalled = true) ∧ c < since.children.length

/-- At every moment of the run at most one child of each fund is live; behind each `stop` of a fund,
up to the next `start` of it, the fund stays stopped. -/
def Supervised (moves : List Move) : Prop :=
  (∀ before after, before ++ after = moves → (World.run {} before).OneLive) ∧
  ∀ before move after later subdomain, before ++ move :: (after ++ later) = moves →
    Returns (World.run {} before) (World.run {} (before ++ [move])) subdomain →
    .start subdomain ∉ after →
      (World.run {} (before ++ [move])).Stopped
        (World.run {} (before ++ move :: after)) subdomain

end SherwoodMonitor.Supervisor
