import Mathlib.Logic.Function.Basic
import SherwoodMonitor.Library.PyConvert
import SherwoodMonitor.Library.Table

/-! Requests to the XMTP sidecar (`sidecar.py`): `call` and `_read_stdout`, with the pending map and
the buffer for early responses that they share. -/
namespace SherwoodMonitor.Sidecar
open PyJson PyConvert

/-- A response with the number of its line among those read. -/
structure Response where
  line : ℕ
  msg : Json

inductive Outcome
  | result (response : Response)
  | timeout

/-- The await that a `call` stands at, with its id and its future: the lock, `drain` with the lock
held, and `wait_for`, whose timer may have cancelled it. -/
inductive Stage
  | queued
  | draining (id : ℤ) (fut : Option Response)
  | waiting (id : ℤ) (fut : Option Response) (cancelled : Bool)
  | finished (id : ℤ) (outcome : Outcome)

namespace Stage

def id? : Stage → Option ℤ
  | queued => none
  | draining id _ => some id
  | waiting id _ _ => some id
  | finished id _ => some id

/-- The id under which the call's future is in `_pending`. -/
def open? : Stage → Option ℤ
  | draining id _ => some id
  | waiting id _ _ => some id
  | _ => none

def response? : Stage → Option Response
  | draining _ fut => fut
  | waiting _ fut _ => fut
  | finished _ (.result r) => some r
  | _ => none

/-- `fut.set_result`, where the future is not done. -/
def resolve (r : Response) : Stage → Option Stage
  | draining id none => some (draining id (some r))
  | waiting id none cancelled => some (waiting id (some r) cancelled)
  | _ => none

end Stage

/-- A line of the sidecar, up to `json.loads`; `fails` where that or `readline` raises what
the reader does not catch. -/
inductive Line
  | blank
  | malformed
  | fails
  | eof
  | json (msg : Json)

inductive Reader
  | reading
  | dispatching
  | ended
  deriving DecidableEq

/-- The integer that an id equals, for an id that can be a key. -/
def idKey : Json → Option ℤ
  | .int n => some n
  | .bool b => some (if b then 1 else 0)
  | .float q _ => if q.den = 1 then some q.num else none
  | _ => none

/-- What the reader makes of a message: an exception, a notification, or a response under an id. -/
inductive Read
  | raises
  | notification (isEvent : Bool)
  | response (id : Json)

def classify : Json → Read
  | .obj msg =>
      if Json.hasKey "id" msg then
        let reqId := Json.lookup "id" msg
        if isHashable reqId then .response reqId else .raises
      else
        match Json.lookup "method" msg with
        | .str method => .notification (method = "stream_event")
        | _ => .notification false
  | _ => .raises

/-- The call that a message answers. -/
def answers? (msg : Json) : Option ℤ :=
  match classify msg with
  | .response id => idKey id
  | _ => none

/-- `_response_buffer` is held by the ids that equal an integer; `call` looks up no other. -/
structure World where
  calls : List Stage := []
  locked : Bool := false
  nextId : ℤ := 1
  pending : ℤ → Option ℕ := fun _ => none
  buffer : ℤ → Option Response := fun _ => none
  reader : Reader := .reading
  lines : ℕ := 0

inductive Move
  | call
  | acquire (k : ℕ)
  | drained (k : ℕ)
  | timer (k : ℕ)
  | resume (k : ℕ)
  | read (line : Line)
  | dispatched

namespace World

/-- The future registered under the id is resolved, or the response is buffered. -/
def respond (w : World) (id : ℤ) (r : Response) : World :=
  match w.pending id with
  | some k =>
      match (w.calls[k]?).bind (Stage.resolve r) with
      | some stage => { w with calls := w.calls.set k stage }
      | none => { w with buffer := Function.update w.buffer id (some r) }
  | none => { w with buffer := Function.update w.buffer id (some r) }

def handle (w : World) (msg : Json) : World :=
  match classify msg with
  | .raises => { w with reader := .ended }
  | .notification isEvent => if isEvent then { w with reader := .dispatching } else w
  | .response reqId =>
      match idKey reqId with
      | some id => w.respond id ⟨w.lines, msg⟩
      | none => w

/-- A round of the loop in `_read_stdout`. -/
def readLine (w : World) : Line → World
  | .blank => w
  | .malformed => w
  | .fails => { w with reader := .ended }
  | .eof => { w with reader := .ended }
  | .json msg => { w.handle msg with lines := w.lines + 1 }

/-- `call` with the lock: take an id, register the future, write the line. -/
def acquire (w : World) (k : ℕ) : World :=
  { w with
    calls := w.calls.set k (.draining w.nextId none)
    locked := true
    nextId := w.nextId + 1
    pending := Function.update w.pending w.nextId (some k) }

/-- `call` behind `drain`: take what was buffered, and let go of the lock. -/
def drained (w : World) (k : ℕ) (id : ℤ) (fut : Option Response) : World :=
  { w with
    calls := w.calls.set k (.waiting id (fut.or (w.buffer id)) false)
    locked := false
    buffer := Function.update w.buffer id none }

def finish (w : World) (k : ℕ) (id : ℤ) (outcome : Outcome) : World :=
  { w with
    calls := w.calls.set k (.finished id outcome)
    pending := Function.update w.pending id none }

/-- `handsOver` is for the `wait_for` of Python 3.11, which hands over a result that came before its
timer; a later one has cancelled the call, and raises `TimeoutError` all the same. -/
def step (handsOver : Bool) (w : World) : Move → World
  | .call => { w with calls := w.calls ++ [.queued] }
  | .acquire k =>
      match w.calls[k]? with
      | some .queued => if w.locked then w else w.acquire k
      | _ => w
  | .drained k =>
      match w.calls[k]? with
      | some (.draining id fut) => w.drained k id fut
      | _ => w
  | .timer k =>
      match w.calls[k]? with
      | some (.waiting id fut false) =>
          if handsOver && fut.isSome then w
          else { w with calls := w.calls.set k (.waiting id fut true) }
      | _ => w
  | .resume k =>
      match w.calls[k]? with
      | some (.waiting id fut cancelled) =>
          if cancelled then w.finish k id .timeout
          else
            match fut with
            | some r => w.finish k id (.result r)
            | none => w
      | _ => w
  | .read line => if w.reader = .reading then w.readLine line else w
  | .dispatched => if w.reader = .dispatching then { w with reader := .reading } else w

def run (handsOver : Bool) (w : World) (moves : List Move) : World :=
  moves.foldl (step handsOver) w

end World

/-- The timer of the call has fired. -/
def Stage.Expired : Stage → Prop
  | .waiting _ _ cancelled => cancelled = true
  | .finished _ .timeout => True
  | _ => False

/-- The call has not come to its wait, or its response is there for it, or it returned one. -/
def Stage.Delivered : Stage → Prop
  | .waiting _ fut cancelled => fut.isSome = true ∧ cancelled = false
  | .finished _ .timeout => False
  | _ => True

/-- In every state of the run, ids are distinct, a call that returned a response returned one with
its own id, and no response was returned twice. And a call for which a response was read before its
timer fired has that response or another one with its id. -/
structure Demultiplexed (handsOver : Bool) (moves : List Move) : Prop where
  distinct : ∀ before after, before ++ after = moves → ∀ (k k' : ℕ) (s s' : Stage) (id : ℤ),
    (World.run handsOver {} before).calls[k]? = some s →
    (World.run handsOver {} before).calls[k']? = some s' →
    s.id? = some id → s'.id? = some id → k = k'
  own : ∀ before after, before ++ after = moves → ∀ (k : ℕ) (id : ℤ) (r : Response),
    (World.run handsOver {} before).calls[k]? = some (.finished id (.result r)) →
    answers? r.msg = some id
  once : ∀ before after, before ++ after = moves → ∀ (k k' : ℕ) (id id' : ℤ) (r r' : Response),
    (World.run handsOver {} before).calls[k]? = some (.finished id (.result r)) →
    (World.run handsOver {} before).calls[k']? = some (.finished id' (.result r')) →
    r.line = r'.line → k = k'
  delivered : ∀ before msg after later id, before ++ .read (.json msg) :: (after ++ later) = moves →
    (World.run handsOver {} before).reader = .reading → answers? msg = some id →
    (∀ (k : ℕ) (s : Stage), (World.run handsOver {} before).calls[k]? = some s →
      s.id? = some id → ¬ s.Expired) →
    ∀ (k : ℕ) (s : Stage),
      (World.run handsOver {} (before ++ .read (.json msg) :: after)).calls[k]? = some s →
      s.id? = some id → s.Delivered

end SherwoodMonitor.Sidecar
