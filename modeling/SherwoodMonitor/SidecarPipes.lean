import SherwoodMonitor.Library.Lookup
import SherwoodMonitor.SidecarRuns

/-! Both ends of the sidecar's pipes: `sidecar.py`, the JSON-RPC server of `xmtp_sidecar` (`index.ts`,
`rpc.ts`, `methods.ts`), and the lines between them. A line is given as the JSON value that it
holds. -/
namespace SherwoodMonitor.SidecarPipes
open PyJson Sidecar Table

/-! ### The server -/

/-- The keys of `HANDLERS`. -/
def handlerNames : List String :=
  ["ping", "create_client", "resolve_subdomain", "get_conversation", "send_text", "stream_start",
    "stream_stop", "shutdown"]

/-- The names that the object `HANDLERS` inherits. -/
def inheritedNames : List String :=
  ["constructor", "__defineGetter__", "__defineSetter__", "hasOwnProperty", "__lookupGetter__",
    "__lookupSetter__", "isPrototypeOf", "propertyIsEnumerable", "toString", "valueOf", "__proto__",
    "toLocaleString"]

/-- What a handler comes to. -/
inductive Reply
  | result (v : Json)
  | error (code : ℤ) (message : String)

/-- A request that is being handled; `none` where the line had no id. -/
structure Handler where
  id : Option Json
  method : String
  params : Json

/-- `writeResponse`. -/
def responseLine (id result : Json) : Json :=
  .obj [("jsonrpc", .str "2.0"), ("id", id), ("result", result)]

/-- `writeError`. -/
def errorLine (id : Json) (code : ℤ) (message : String) : Json :=
  .obj [("jsonrpc", .str "2.0"), ("id", id),
    ("error", .obj [("code", .int code), ("message", .str message)])]

/-- `writeNotification`. -/
def notificationLine (method : String) (params : Json) : Json :=
  .obj [("jsonrpc", .str "2.0"), ("method", .str method), ("params", params)]

/-- What the handler's end writes; nothing for a notification, and no error for the id null. -/
def Handler.line (h : Handler) : Reply → Option Json
  | .result v => h.id.map fun id => responseLine id v
  | .error code message =>
      match h.id with
      | none => none
      | some .null => none
      | some id => some (errorLine id code message)

/-- `dispatch`: a method that is not there has one outcome. -/
def Handler.outcome (h : Handler) (reply : Reply) : Reply :=
  if h.method ∈ handlerNames ++ inheritedNames then reply
  else .error (-32601) ("method not found: " ++ h.method)

/-- What the callback of a line does first; reading a field of `null` throws. -/
inductive OnLine
  | dies
  | ignores
  | answers (h : Handler) (reply : Reply)
  | begins (h : Handler)

/-- The `params` of a request, where they are an object. -/
def paramsOf : Json → Json
  | .obj fields => .obj fields
  | _ => .obj []

/-- `rl.on("line", ...)`, up to `dispatch`. -/
def onLine : Json → OnLine
  | .null => .dies
  | .obj msg =>
      let id := if Json.hasKey "id" msg then some (Json.lookup "id" msg) else none
      let method := match Json.lookup "method" msg with | .str method => method | _ => ""
      let h : Handler := ⟨id, method, paramsOf (Json.lookup "params" msg)⟩
      if method = "" then .answers h (.error (-32600) "invalid request: missing method")
      else .begins h
  | _ => .ignores

/-! ### The two together -/

/-- What `call` sends. -/
structure Request where
  method : String
  params : Option Json

/-- The line of a request under an id. -/
def Request.line (req : Request) (id : ℤ) : Json :=
  .obj ([("jsonrpc", .str "2.0"), ("id", .int id), ("method", .str req.method)] ++
    (req.params.map fun params => ("params", params)).toList)

/-- The client, what each of its calls asks, the two pipes, the handlers with what they came to, the
`stream_event`s that were written and those that the callbacks were given. -/
structure System where
  client : World := {}
  requests : List Request := []
  stdin : List Json := []
  handlers : List (Handler × Option Reply) := []
  stdout : List Json := []
  up : Bool := true
  written : List Json := []
  heard : List Json := []

inductive Move
  | call (req : Request)
  | client (move : Sidecar.Move)
  | receive
  | answer (i : ℕ) (reply : Reply)
  | notify (params : Json)
  | exit
  | read

/-- The line that a move of the client writes. -/
def System.writes (s : System) : Sidecar.Move → List Json
  | .acquire k =>
      match s.client.calls[k]?, s.requests[k]? with
      | some .queued, some req => if s.client.locked then [] else [req.line s.client.nextId]
      | _, _ => []
  | _ => []

/-- `msg.get("params", {})` of a `stream_event`. -/
def eventOf (line : Json) : Option Json :=
  match classify line, line with
  | .notification true, .obj msg =>
      some (if Json.hasKey "params" msg then Json.lookup "params" msg else .obj [])
  | _, _ => none

def System.step (handsOver : Bool) (s : System) : Move → System
  | .call req =>
      { s with client := s.client.step handsOver .call, requests := s.requests ++ [req] }
  | .client .call => s
  | .client (.read _) => s
  | .client move =>
      { s with client := s.client.step handsOver move, stdin := s.stdin ++ s.writes move }
  | .receive =>
      match s.up, s.stdin with
      | true, line :: stdin =>
          match onLine line with
          | .dies => { s with stdin, up := false }
          | .ignores => { s with stdin }
          | .answers h reply =>
              { s with
                stdin
                handlers := s.handlers ++ [(h, some reply)]
                stdout := s.stdout ++ (h.line reply).toList }
          | .begins h => { s with stdin, handlers := s.handlers ++ [(h, none)] }
      | _, _ => s
  | .answer i reply =>
      match s.up, s.handlers[i]? with
      | true, some (h, none) =>
          { s with
            handlers := s.handlers.set i (h, some (h.outcome reply))
            stdout := s.stdout ++ (h.line (h.outcome reply)).toList }
      | _, _ => s
  | .notify params =>
      if s.up then
        { s with
          stdout := s.stdout ++ [notificationLine "stream_event" params]
          written := s.written ++ [params] }
      else s
  | .exit => { s with up := false }
  | .read =>
      if s.client.reader = .reading then
        match s.stdout with
        | line :: stdout =>
            { s with
              client := s.client.step handsOver (.read (.json line))
              stdout
              heard := s.heard ++ (eventOf line).toList }
        | [] =>
            if s.up then s else { s with client := s.client.step handsOver (.read .eof) }
      else s

def System.run (handsOver : Bool) (s : System) (moves : List Move) : System :=
  moves.foldl (System.step handsOver) s

/-- What `call` makes of the message: `SidecarError` with its code and message, or the result;
`none` where something else is raised. -/
def returned : Json → Option (Except (Json × Json) Json)
  | .obj msg =>
      if Json.hasKey "error" msg then
        match Json.lookup "error" msg with
        | .obj err =>
            some (.error (if Json.hasKey "code" err then Json.lookup "code" err else .int (-1),
              if Json.hasKey "message" err then Json.lookup "message" err else .str "unknown"))
        | _ => none
      else some (.ok (if Json.hasKey "result" msg then Json.lookup "result" msg else .obj []))
  | _ => none

/-- The outcome as the caller sees it. -/
def Reply.seen : Reply → Except (Json × Json) Json
  | .result v => .ok v
  | .error code message => .error (.int code, .str message)

/-- The handler that the server begins for a request. -/
def Request.handler (req : Request) (id : ℤ) : Handler :=
  ⟨some (.int id), req.method, paramsOf (req.params.getD .null)⟩

/-- Each call that returns returns what the handler of its own request came to; no request is handled
twice, no two calls have one id; and of the events that the server wrote, the callbacks were given
each one once, in order, up to those that are in the pipe. -/
structure Faithful (s : System) : Prop where
  own : ∀ (k : ℕ) (id : ℤ) (r : Response), s.client.calls[k]? = some (.finished id (.result r)) →
    ∃ req reply, s.requests[k]? = some req ∧ (req.handler id, some reply) ∈ s.handlers ∧
      returned r.msg = some reply.seen
  handled : ∀ (i j : ℕ) (e e' : Handler × Option Reply), s.handlers[i]? = some e →
    s.handlers[j]? = some e' → e.1.id = e'.1.id → i = j
  distinct : ∀ (k k' : ℕ) (stage stage' : Stage) (id : ℤ), s.client.calls[k]? = some stage →
    s.client.calls[k']? = some stage' → stage.id? = some id → stage'.id? = some id → k = k'
  events : s.heard ++ s.stdout.filterMap eventOf = s.written

/-! ### One step of the client -/

variable {w : World} {handsOver : Bool} {k : ℕ} {r : Response} {x : Holder}

lemma holds_respond {id : ℤ} {r' : Response} (h : (w.respond id r').holds x = some r) :
    r = r' ∨ w.holds x = some r := by
  rcases respond_cases w id r' with ⟨k, s, s', -, hs, hr, heq⟩ | ⟨-, heq⟩
  · rw [heq] at h
    cases x with
    | call j =>
      by_cases hj : j = k
      · subst hj
        have hself : (w.calls.set j s')[j]? = some s' := set_self hs
        rw [holds_call hself, (resolve_eq_some hr).1] at h
        exact Or.inl (Option.some.inj h).symm
      · have hother := (@holds_set_other w { w with calls := w.calls.set k s' } k s' rfl j hj).1
        rw [hother] at h
        exact Or.inr h
    | buffer i => exact Or.inr h
  · rw [heq] at h
    cases x with
    | call j => exact Or.inr h
    | buffer i =>
      by_cases hi : i = id
      · subst hi
        simp only [World.holds, Function.update_self] at h
        exact Or.inl (Option.some.inj h).symm
      · simp only [World.holds, Function.update_of_ne hi] at h
        exact Or.inr h

/-- A response that is held was held before, or is the line just read, and answers a call. -/
lemma holds_step {move : Sidecar.Move} (h : (w.step handsOver move).holds x = some r) :
    (∃ y, w.holds y = some r) ∨ ∃ msg, move = .read (.json msg) ∧ r.msg = msg ∧ answers? msg ≠ none := by
  cases move with
  | call =>
    cases x with
    | call j =>
      obtain ⟨stage, hstage, hr⟩ := Option.bind_eq_some_iff.1 h
      rcases concat_cases hstage with ⟨-, rfl⟩ | hold
      · cases hr
      · exact Or.inl ⟨.call j, by rw [holds_call hold, hr]⟩
    | buffer i => exact Or.inl ⟨.buffer i, h⟩
  | acquire k =>
    rw [World.step] at h
    split at h
    · split_ifs at h
      · exact Or.inl ⟨x, h⟩
      · cases x with
        | call j =>
          obtain ⟨stage, hstage, hr⟩ := Option.bind_eq_some_iff.1 h
          rcases set_cases hstage with ⟨-, rfl⟩ | ⟨-, hold⟩
          · cases hr
          · exact Or.inl ⟨.call j, by rw [holds_call hold, hr]⟩
        | buffer i => exact Or.inl ⟨.buffer i, h⟩
    · exact Or.inl ⟨x, h⟩
  | drained k =>
    rw [World.step] at h
    split at h
    · next id fut hs =>
      cases x with
      | call j =>
        obtain ⟨stage, hstage, hr⟩ := Option.bind_eq_some_iff.1 h
        rcases set_cases hstage with ⟨rfl, rfl⟩ | ⟨-, hold⟩
        · rcases Option.or_eq_some_iff.1 hr with hfut | ⟨-, hbuffer⟩
          · exact Or.inl ⟨.call j, by rw [holds_call hs, ← hfut]; rfl⟩
          · exact Or.inl ⟨.buffer id, hbuffer⟩
        · exact Or.inl ⟨.call j, by rw [holds_call hold, hr]⟩
      | buffer i =>
        by_cases hi : i = id
        · subst hi
          simp [World.holds, World.drained] at h
        · refine Or.inl ⟨.buffer i, ?_⟩
          simpa only [World.holds, World.drained, Function.update_of_ne hi] using h
    · exact Or.inl ⟨x, h⟩
  | timer k =>
    rw [World.step] at h
    split at h
    · next id fut hs =>
      split_ifs at h
      · exact Or.inl ⟨x, h⟩
      · cases x with
        | call j =>
          obtain ⟨stage, hstage, hr⟩ := Option.bind_eq_some_iff.1 h
          rcases set_cases hstage with ⟨rfl, rfl⟩ | ⟨-, hold⟩
          · exact Or.inl ⟨.call j, by rw [holds_call hs, ← hr]; rfl⟩
          · exact Or.inl ⟨.call j, by rw [holds_call hold, hr]⟩
        | buffer i => exact Or.inl ⟨.buffer i, h⟩
    · exact Or.inl ⟨x, h⟩
  | resume k =>
    rw [World.step] at h
    split at h
    · next id fut cancelled hs =>
      have hfinish : ∀ outcome, (∀ r', outcome = .result r' → fut = some r') →
          (w.finish k id outcome).holds x = some r → ∃ y, w.holds y = some r := by
        intro outcome hfut hx
        cases x with
        | call j =>
          obtain ⟨stage, hstage, hr⟩ := Option.bind_eq_some_iff.1 hx
          rcases set_cases hstage with ⟨rfl, rfl⟩ | ⟨-, hold⟩
          · cases outcome with
            | timeout => cases hr
            | result r' =>
              refine ⟨.call j, ?_⟩
              rw [holds_call hs, ← hr]
              exact hfut r' rfl
          · exact ⟨.call j, by rw [holds_call hold, hr]⟩
        | buffer i => exact ⟨.buffer i, hx⟩
      split_ifs at h
      · exact Or.inl (hfinish .timeout (fun _ hr => by cases hr) h)
      · cases fut with
        | none => exact Or.inl ⟨x, h⟩
        | some r' => exact Or.inl (hfinish (.result r') (fun _ hr => by cases hr; rfl) h)
    · exact Or.inl ⟨x, h⟩
  | read line =>
    rw [World.step] at h
    split_ifs at h
    · cases line with
      | json msg =>
        rw [World.readLine] at h
        rcases handle_cases w msg with ⟨id, hid, heq⟩ | ⟨-, reader, heq⟩
        · rw [heq] at h
          rcases holds_respond (x := x) (r := r) h with rfl | hold
          · exact Or.inr ⟨msg, rfl, rfl, by simp [hid]⟩
          · exact Or.inl ⟨x, hold⟩
        · rw [heq] at h
          exact Or.inl ⟨x, h⟩
      | _ => exact Or.inl ⟨x, h⟩
    · exact Or.inl ⟨x, h⟩
  | dispatched =>
    rw [World.step] at h
    split_ifs at h
    · exact Or.inl ⟨x, h⟩
    · exact Or.inl ⟨x, h⟩

/-- What a step does to the ids: a new call has none, a call that takes the lock gets the next one,
and no other step gives or takes one. -/
lemma ids_step (w : World) (move : Sidecar.Move) :
    move = .call ∧ (w.step handsOver move).calls = w.calls ++ [.queued] ∨
      (∃ k, move = .acquire k ∧ w.calls[k]? = some .queued ∧ w.locked = false ∧
        w.step handsOver move = w.acquire k) ∨
      move ≠ .call ∧ (∀ k, move = .acquire k → w.calls[k]? = some .queued → w.locked = true) ∧
        (w.step handsOver move).calls.map Stage.id? = w.calls.map Stage.id? := by
  cases move with
  | call => exact Or.inl ⟨rfl, rfl⟩
  | acquire k =>
    refine Or.inr ?_
    rw [World.step]
    split
    · next hs =>
      cases hlocked : w.locked with
      | true => exact Or.inr ⟨by simp, fun _ _ _ => rfl, rfl⟩
      | false => exact Or.inl ⟨k, rfl, hs, rfl, rfl⟩
    · next hnot =>
      refine Or.inr ⟨by simp, fun k' hk' hs => ?_, rfl⟩
      cases hk'
      exact absurd hs hnot
  | drained k =>
    refine Or.inr (Or.inr ⟨by simp, by simp, ?_⟩)
    rw [World.step]
    split
    · next id fut hs => exact Lookup.map_set_of_eq hs rfl
    · rfl
  | timer k =>
    refine Or.inr (Or.inr ⟨by simp, by simp, ?_⟩)
    rw [World.step]
    split
    · next id fut hs =>
      split_ifs
      · rfl
      · exact Lookup.map_set_of_eq hs rfl
    · rfl
  | resume k =>
    refine Or.inr (Or.inr ⟨by simp, by simp, ?_⟩)
    rw [World.step]
    split
    · next id fut cancelled hs =>
      split_ifs
      · exact Lookup.map_set_of_eq hs rfl
      · cases fut with
        | none => rfl
        | some r => exact Lookup.map_set_of_eq hs rfl
    · rfl
  | read line =>
    refine Or.inr (Or.inr ⟨by simp, by simp, ?_⟩)
    rw [World.step]
    split_ifs
    · cases line with
      | json msg =>
        rw [World.readLine]
        rcases handle_cases w msg with ⟨id, -, heq⟩ | ⟨-, reader, heq⟩
        · rw [heq]
          rcases respond_cases w id ⟨w.lines, msg⟩ with ⟨k, s, s', -, hs, hr, hset⟩ | ⟨-, hset⟩
          · rw [hset]
            exact Lookup.map_set_of_eq hs (resolve_eq_some hr).2.1
          · rw [hset]
        · rw [heq]
      | _ => rfl
    · rfl
  | dispatched =>
    refine Or.inr (Or.inr ⟨by simp, by simp, ?_⟩)
    rw [World.step]
    split_ifs <;> rfl

/-! ### Requests and their answers -/

variable {s : System} {req : Request} {id : ℤ}

/-- One of the calls asks this under the id. -/
def Asks (s : System) (id : ℤ) (req : Request) : Prop :=
  ∃ k : ℕ, (s.client.calls.map Stage.id?)[k]? = some (some id) ∧ s.requests[k]? = some req

def lineId : Json → Option Json
  | .obj msg => some (Json.lookup "id" msg)
  | _ => none

/-- The ids of the requests that were sent. -/
def System.sent (s : System) : List (Option Json) :=
  s.stdin.map lineId ++ s.handlers.map (·.1.id)

/-- The line answers a request that was handled. -/
def Answers (s : System) (line : Json) : Prop :=
  ∃ h reply, (h, some reply) ∈ s.handlers ∧ h.line reply = some line

structure Sound (s : System) : Prop where
  ids : Ids s.client
  places : Held s.client
  length : s.requests.length = s.client.calls.length
  lines : ∀ line ∈ s.stdin, ∃ id req, line = req.line id ∧ Asks s id req
  handlers : ∀ e ∈ s.handlers, ∃ id req, e.1 = req.handler id ∧ Asks s id req
  sent : s.sent.Nodup
  out : ∀ line ∈ s.stdout, (∃ p, line = notificationLine "stream_event" p) ∨ Answers s line
  held : ∀ x r, s.client.holds x = some r → Answers s r.msg
  events : s.heard ++ s.stdout.filterMap eventOf = s.written

lemma lineId_line (req : Request) (id : ℤ) : lineId (req.line id) = some (.int id) := rfl

lemma onLine_line (req : Request) (id : ℤ) : onLine (req.line id) =
    if req.method = "" then
      .answers (req.handler id) (.error (-32600) "invalid request: missing method")
    else .begins (req.handler id) := by
  cases req with
  | mk method params => cases params <;> rfl

lemma eventOf_notification (p : Json) : eventOf (notificationLine "stream_event" p) = some p := rfl

lemma eventOf_answer {h : Handler} {reply : Reply} {line : Json} (hline : h.line reply = some line) :
    eventOf line = none := by
  have hwith : ∀ (id : Json) (rest : List (String × Json)),
      eventOf (.obj (("jsonrpc", .str "2.0") :: ("id", id) :: rest)) = none := by
    intro id rest
    have hkey : Json.hasKey "id" (("jsonrpc", .str "2.0") :: ("id", id) :: rest) = true := by
      simp [Json.hasKey]
    simp only [eventOf, classify, hkey, if_true]
    split_ifs <;> rfl
  cases reply with
  | result v =>
    obtain ⟨id, -, rfl⟩ := Option.map_eq_some_iff.1 hline
    exact hwith id _
  | error code message =>
    rw [Handler.line] at hline
    split at hline
    · cases hline
    · cases hline
    · next id _ _ =>
      rw [← Option.some.inj hline]
      exact hwith id _

lemma returned_answer {reply : Reply} {line : Json}
    (h : (req.handler id).line reply = some line) :
    returned line = some reply.seen ∧ answers? line = some id := by
  cases reply with
  | result v =>
    rw [← Option.some.inj h]
    exact ⟨rfl, rfl⟩
  | error code message =>
    rw [← Option.some.inj h]
    exact ⟨rfl, rfl⟩

/-! ### One step -/

variable {s' : System}

/-- Requests that are there stay so. -/
def Keeps (s s' : System) : Prop := ∀ id req, Asks s id req → Asks s' id req

lemma keeps_of_eq (hcalls : s'.client.calls.map Stage.id? = s.client.calls.map Stage.id?)
    (hrequests : s'.requests = s.requests) : Keeps s s' := by
  intro id req h
  rwa [Asks, hcalls, hrequests]

lemma Answers.mono (hhandlers : s.handlers ⊆ s'.handlers) {line : Json} (h : Answers s line) :
    Answers s' line := by
  obtain ⟨handler, reply, hmem, hline⟩ := h
  exact ⟨handler, reply, hhandlers hmem, hline⟩

lemma Asks.lt (hs : Sound s) (h : Asks s id req) : id < s.client.nextId := by
  obtain ⟨k, hk, -⟩ := h
  rw [List.getElem?_map, Option.map_eq_some_iff] at hk
  obtain ⟨stage, hstage, hid⟩ := hk
  exact hs.ids.bound hstage hid

/-- The ids that were sent are those of requests. -/
lemma Sound.mem_sent (hs : Sound s) {x : Option Json} (hx : x ∈ s.sent) :
    ∃ id req, x = some (.int id) ∧ Asks s id req := by
  rcases List.mem_append.1 hx with hx | hx
  · obtain ⟨line, hline, rfl⟩ := List.mem_map.1 hx
    obtain ⟨id, req, rfl, hasks⟩ := hs.lines line hline
    exact ⟨id, req, lineId_line req id, hasks⟩
  · obtain ⟨e, he, rfl⟩ := List.mem_map.1 hx
    obtain ⟨id, req, heq, hasks⟩ := hs.handlers e he
    exact ⟨id, req, by rw [heq]; rfl, hasks⟩

lemma Sound.held_step (hs : Sound s) {move : Sidecar.Move} (hread : ∀ line, move ≠ .read line) :
    ∀ x r, (s.client.step handsOver move).holds x = some r → Answers s r.msg := by
  intro x r h
  rcases holds_step h with ⟨y, hy⟩ | ⟨msg, rfl, -⟩
  · exact hs.held y r hy
  · exact absurd rfl (hread _)

/-- A call takes the lock and sends its request. -/
lemma Sound.acquire (hs : Sound s) {k : ℕ} (hqueued : s.client.calls[k]? = some .queued)
    (hlocked : s.client.locked = false)
    (hstep : s.client.step handsOver (.acquire k) = s.client.acquire k) :
    Sound { s with
      client := s.client.step handsOver (.acquire k)
      stdin := s.stdin ++ s.writes (.acquire k) } := by
  obtain ⟨hids, hplaces⟩ := @step_sound _ handsOver hs.ids hs.places (.acquire k)
  have hlt : k < s.requests.length := by
    rw [hs.length]
    exact (List.getElem?_eq_some_iff.1 hqueued).1
  have hreq : s.requests[k]? = some s.requests[k] := List.getElem?_eq_getElem hlt
  generalize s.requests[k] = req at hreq
  have hwrites : s.writes (.acquire k) = [req.line s.client.nextId] := by
    simp only [System.writes, hqueued, hreq, hlocked, Bool.false_eq_true, if_false]
  have hcalls : (s.client.step handsOver (.acquire k)).calls.map Stage.id? =
      (s.client.calls.map Stage.id?).set k (some s.client.nextId) := by
    rw [hstep, World.acquire, List.map_set]
    rfl
  have hnone : (s.client.calls.map Stage.id?)[k]? = some none := by
    rw [List.getElem?_map, hqueued]
    rfl
  rw [hwrites]
  generalize hnext : System.mk (s.client.step handsOver (.acquire k)) s.requests
    (s.stdin ++ [req.line s.client.nextId]) s.handlers s.stdout s.up s.written s.heard = s'
  have hkeeps : Keeps s s' := by
    rintro id req' ⟨j, hj, hr⟩
    have hjk : j ≠ k := by
      rintro rfl
      rw [hnone] at hj
      cases hj
    refine ⟨j, ?_, ?_⟩
    · rw [← hnext]
      dsimp only
      rw [hcalls]
      exact set_other hjk hj
    · rw [← hnext]
      exact hr
  have hown : Asks s' s.client.nextId req := by
    refine ⟨k, ?_, ?_⟩
    · rw [← hnext]
      dsimp only
      rw [hcalls]
      exact set_self hnone
    · rw [← hnext]
      exact hreq
  have hfresh : some (Json.int s.client.nextId) ∉ s.sent := by
    intro hmem
    obtain ⟨id, req', heq, hasks⟩ := hs.mem_sent hmem
    have hid := hasks.lt hs
    cases heq
    exact lt_irrefl _ hid
  subst hnext
  exact
    { ids := hids
      places := hplaces
      length := by
        have hlen := congrArg List.length hcalls
        rw [List.length_map, List.length_set, List.length_map] at hlen
        exact hs.length.trans hlen.symm
      lines := by
        intro line hline
        rcases List.mem_append.1 hline with hline | hline
        · obtain ⟨id, req', heq, hasks⟩ := hs.lines line hline
          exact ⟨id, req', heq, hkeeps _ _ hasks⟩
        · rw [List.mem_singleton.1 hline]
          exact ⟨_, req, rfl, hown⟩
      handlers := by
        intro e he
        obtain ⟨id, req', heq, hasks⟩ := hs.handlers e he
        exact ⟨id, req', heq, hkeeps _ _ hasks⟩
      sent := by
        rw [System.sent, List.map_append, List.append_assoc]
        exact List.nodup_middle.2 (List.nodup_cons.2 ⟨hfresh, hs.sent⟩)
      out := hs.out
      held := hs.held_step (by simp)
      events := hs.events }

/-- A step of the client alone, that reads nothing. -/
lemma Sound.client {move : Sidecar.Move} (hs : Sound s) (hcall : move ≠ .call)
    (hread : ∀ line, move ≠ .read line) :
    Sound { s with client := s.client.step handsOver move, stdin := s.stdin ++ s.writes move } := by
  rcases @ids_step handsOver s.client move with ⟨rfl, -⟩ | ⟨k, rfl, hqueued, hlocked, hstep⟩ |
    ⟨-, hblocked, hmap⟩
  · exact absurd rfl hcall
  · exact hs.acquire hqueued hlocked hstep
  · obtain ⟨hids, hplaces⟩ := @step_sound _ handsOver hs.ids hs.places move
    have hwrites : s.writes move = [] := by
      cases move with
      | acquire k =>
        rw [System.writes]
        split
        · next req hs' _ => rw [if_pos (hblocked k rfl hs')]
        · rfl
      | _ => rfl
    have hkeeps : Keeps s { s with
        client := s.client.step handsOver move, stdin := s.stdin ++ s.writes move } :=
      keeps_of_eq hmap rfl
    have hlen : (s.client.step handsOver move).calls.length = s.client.calls.length := by
      have h := congrArg List.length hmap
      rwa [List.length_map, List.length_map] at h
    rw [hwrites, List.append_nil] at hkeeps ⊢
    exact
      { ids := hids
        places := hplaces
        length := hs.length.trans hlen.symm
        lines := fun line hline => by
          obtain ⟨id, req, heq, hasks⟩ := hs.lines line hline
          exact ⟨id, req, heq, hkeeps _ _ hasks⟩
        handlers := fun e he => by
          obtain ⟨id, req, heq, hasks⟩ := hs.handlers e he
          exact ⟨id, req, heq, hkeeps _ _ hasks⟩
        sent := hs.sent
        out := hs.out
        held := hs.held_step hread
        events := hs.events }

lemma Sound.call (hs : Sound s) (req : Request) :
    Sound { s with
      client := s.client.step handsOver .call, requests := s.requests ++ [req] } := by
  obtain ⟨hids, hplaces⟩ := @step_sound _ handsOver hs.ids hs.places .call
  have hkeeps : Keeps s { s with
      client := s.client.step handsOver .call, requests := s.requests ++ [req] } := by
    rintro id req' ⟨k, hk, hr⟩
    refine ⟨k, ?_, concat_old hr⟩
    change ((s.client.calls ++ [Stage.queued]).map Stage.id?)[k]? = some (some id)
    rw [List.map_append]
    exact concat_old hk
  exact
    { ids := hids
      places := hplaces
      length := by
        change (s.requests ++ [req]).length = (s.client.calls ++ [Stage.queued]).length
        rw [List.length_append, List.length_append, hs.length]
        rfl
      lines := fun line hline => by
        obtain ⟨id, req', heq, hasks⟩ := hs.lines line hline
        exact ⟨id, req', heq, hkeeps _ _ hasks⟩
      handlers := fun e he => by
        obtain ⟨id, req', heq, hasks⟩ := hs.handlers e he
        exact ⟨id, req', heq, hkeeps _ _ hasks⟩
      sent := hs.sent
      out := hs.out
      held := hs.held_step (by simp)
      events := hs.events }

/-- The server takes a request from the pipe, and may answer it at once. -/
lemma Sound.begin (hs : Sound s) {stdin : List Json} (reply : Option Reply)
    (hstdin : s.stdin = req.line id :: stdin) (hasks : Asks s id req) :
    Sound { s with
      stdin
      handlers := s.handlers ++ [(req.handler id, reply)]
      stdout := s.stdout ++ (reply.bind (req.handler id).line).toList } := by
  have hsub : s.handlers ⊆ s.handlers ++ [(req.handler id, reply)] := List.subset_append_left _ _
  exact
    { ids := hs.ids
      places := hs.places
      length := hs.length
      lines := fun line' hmem => hs.lines line' (by rw [hstdin]; exact List.mem_cons_of_mem _ hmem)
      handlers := fun e he => by
        rcases List.mem_append.1 he with he | he
        · exact hs.handlers e he
        · rw [List.mem_singleton.1 he]
          exact ⟨id, req, rfl, hasks⟩
      sent := by
        have hsent := hs.sent
        rw [System.sent, hstdin, List.map_cons, List.cons_append, lineId_line] at hsent
        rw [System.sent, List.map_append, List.map_singleton]
        refine (List.Perm.nodup_iff ?_).1 hsent
        rw [← List.append_assoc]
        exact (List.perm_append_singleton _ _).symm
      out := by
        intro out hout
        rcases List.mem_append.1 hout with hout | hout
        · exact (hs.out out hout).imp_right (Answers.mono hsub)
        · rw [Option.mem_toList, Option.bind_eq_some_iff] at hout
          obtain ⟨reply', rfl, hwritten⟩ := hout
          exact Or.inr ⟨req.handler id, reply', by simp, hwritten⟩
      held := fun x r hx => (hs.held x r hx).mono hsub
      events := by
        have hnone : (reply.bind (req.handler id).line).toList.filterMap eventOf = [] := by
          cases hout : reply.bind (req.handler id).line with
          | none => rfl
          | some out =>
            obtain ⟨reply', -, hwritten⟩ := Option.bind_eq_some_iff.1 hout
            simp [eventOf_answer hwritten]
        rw [List.filterMap_append, hnone, List.append_nil]
        exact hs.events }

/-- A handler comes to its end. -/
lemma Sound.answer (hs : Sound s) {i : ℕ} {h : Handler} (hi : s.handlers[i]? = some (h, none))
    (reply : Reply) :
    Sound { s with
      handlers := s.handlers.set i (h, some reply)
      stdout := s.stdout ++ (h.line reply).toList } := by
  have hids : (s.handlers.set i (h, some reply)).map (·.1.id) = s.handlers.map (·.1.id) :=
    Lookup.map_set_of_eq hi rfl
  have hmono : ∀ line, Answers s line → Answers { s with
      handlers := s.handlers.set i (h, some reply)
      stdout := s.stdout ++ (h.line reply).toList } line := by
    rintro line ⟨h', reply', hmem, hline⟩
    obtain ⟨j, hj⟩ := List.getElem?_of_mem hmem
    have hji : j ≠ i := by
      rintro rfl
      rw [hi] at hj
      cases hj
    exact ⟨h', reply', List.mem_of_getElem? (set_other hji hj), hline⟩
  exact
    { ids := hs.ids
      places := hs.places
      length := hs.length
      lines := hs.lines
      handlers := fun e he => by
        rcases Lookup.mem_set_cases he with rfl | he
        · exact hs.handlers (h, none) (List.mem_of_getElem? hi)
        · exact hs.handlers e he
      sent := by
        rw [System.sent, hids]
        exact hs.sent
      out := by
        intro out hout
        rcases List.mem_append.1 hout with hout | hout
        · exact (hs.out out hout).imp_right (hmono out)
        · rw [Option.mem_toList] at hout
          exact Or.inr ⟨h, reply, List.mem_of_getElem? (set_self hi), hout⟩
      held := fun x r hx => hmono _ (hs.held x r hx)
      events := by
        have hnone : (h.line reply).toList.filterMap eventOf = [] := by
          cases hout : h.line reply with
          | none => rfl
          | some out => simp [eventOf_answer hout]
        rw [List.filterMap_append, hnone, List.append_nil]
        exact hs.events }

lemma Sound.notify (hs : Sound s) (params : Json) :
    Sound { s with
      stdout := s.stdout ++ [notificationLine "stream_event" params]
      written := s.written ++ [params] } where
  ids := hs.ids
  places := hs.places
  length := hs.length
  lines := hs.lines
  handlers := hs.handlers
  sent := hs.sent
  out := by
    intro out hout
    rcases List.mem_append.1 hout with hout | hout
    · exact hs.out out hout
    · exact Or.inl ⟨params, List.mem_singleton.1 hout⟩
  held := hs.held
  events := by
    rw [List.filterMap_append, ← List.append_assoc, hs.events]
    rfl

/-- The reader takes a line from the pipe. -/
lemma Sound.read (hs : Sound s) {line : Json} {stdout : List Json}
    (hstdout : s.stdout = line :: stdout) :
    Sound { s with
      client := s.client.step handsOver (.read (.json line))
      stdout
      heard := s.heard ++ (eventOf line).toList } := by
  obtain ⟨hids, hplaces⟩ :=
    @step_sound _ handsOver hs.ids hs.places (.read (.json line))
  have hmap : (s.client.step handsOver (.read (.json line))).calls.map Stage.id? =
      s.client.calls.map Stage.id? := by
    rcases @ids_step handsOver s.client (.read (.json line)) with ⟨h, -⟩ | ⟨k, h, -⟩ | ⟨-, -, h⟩
    · cases h
    · cases h
    · exact h
  have hkeeps : Keeps s { s with
      client := s.client.step handsOver (.read (.json line))
      stdout
      heard := s.heard ++ (eventOf line).toList } := keeps_of_eq hmap rfl
  have hlen : (s.client.step handsOver (.read (.json line))).calls.length =
      s.client.calls.length := by
    have h := congrArg List.length hmap
    rwa [List.length_map, List.length_map] at h
  exact
    { ids := hids
      places := hplaces
      length := hs.length.trans hlen.symm
      lines := fun line hline => by
        obtain ⟨id, req, heq, hasks⟩ := hs.lines line hline
        exact ⟨id, req, heq, hkeeps _ _ hasks⟩
      handlers := fun e he => by
        obtain ⟨id, req, heq, hasks⟩ := hs.handlers e he
        exact ⟨id, req, heq, hkeeps _ _ hasks⟩
      sent := hs.sent
      out := fun out hout => hs.out out (by rw [hstdout]; exact List.mem_cons_of_mem _ hout)
      held := by
        intro x r hx
        rcases holds_step hx with ⟨y, hy⟩ | ⟨msg, heq, hmsg, hanswers⟩
        · exact hs.held y r hy
        · obtain rfl : line = msg := Line.json.inj (Sidecar.Move.read.inj heq)
          rw [hmsg]
          rcases hs.out line (by rw [hstdout]; exact List.mem_cons_self) with ⟨p, rfl⟩ | h
          · exact absurd rfl hanswers
          · exact h
      events := by
        rw [List.append_assoc, ← hs.events, hstdout]
        cases hevent : eventOf line <;> simp [hevent] }

/-- The reader comes to the end of the pipe. -/
lemma Sound.eof (hs : Sound s) : Sound { s with client := s.client.step handsOver (.read .eof) } := by
  have heq : ∃ reader, s.client.step handsOver (.read .eof) = { s.client with reader } := by
    rw [World.step]
    split_ifs
    · exact ⟨.ended, rfl⟩
    · exact ⟨s.client.reader, rfl⟩
  obtain ⟨reader, heq⟩ := heq
  rw [heq]
  exact
    { ids := hs.ids.same rfl rfl rfl
      places := hs.places.lines rfl rfl le_rfl
      length := hs.length
      lines := hs.lines
      handlers := hs.handlers
      sent := hs.sent
      out := hs.out
      held := fun x r hx => by
        cases x with
        | call j => exact hs.held (.call j) r hx
        | buffer i => exact hs.held (.buffer i) r hx
      events := hs.events }

lemma Sound.step (hs : Sound s) (move : Move) : Sound (s.step handsOver move) := by
  cases move with
  | call req => exact hs.call req
  | client move =>
    cases move with
    | call => exact hs
    | read line => exact hs
    | acquire k => exact hs.client (by simp) (by simp)
    | drained k => exact hs.client (by simp) (by simp)
    | timer k => exact hs.client (by simp) (by simp)
    | resume k => exact hs.client (by simp) (by simp)
    | dispatched => exact hs.client (by simp) (by simp)
  | receive =>
    rw [System.step]
    split
    · next line stdin _ hstdin =>
      obtain ⟨id, req, rfl, hasks⟩ := hs.lines line (by rw [hstdin]; exact List.mem_cons_self)
      rw [onLine_line]
      by_cases hmethod : req.method = ""
      · rw [if_pos hmethod]
        exact hs.begin (some _) hstdin hasks
      · rw [if_neg hmethod]
        have hbegun := hs.begin none hstdin hasks
        simpa using hbegun
    · exact hs
  | answer i reply =>
    rw [System.step]
    split
    · next h _ hi => exact hs.answer hi _
    · exact hs
  | notify params =>
    rw [System.step]
    split_ifs
    · exact hs.notify params
    · exact hs
  | exit => exact { hs with }
  | read =>
    rw [System.step]
    by_cases hreading : s.client.reader = .reading
    · rw [if_pos hreading]
      cases hstdout : s.stdout with
      | cons line stdout => exact hs.read hstdout
      | nil =>
        dsimp only
        split_ifs
        · exact hs
        · exact hstdout ▸ hs.eof
    · rw [if_neg hreading]
      exact hs

lemma sound_empty : Sound {} where
  ids := ids_empty
  places := held_empty
  length := rfl
  lines := by simp
  handlers := by simp
  sent := List.nodup_nil
  out := by simp
  held := by
    rintro (k | id) r h <;> simp [World.holds] at h
  events := rfl

lemma Sound.run (hs : Sound s) (moves : List Move) : Sound (s.run handsOver moves) := by
  induction moves generalizing s with
  | nil => exact hs
  | cons move moves ih => exact ih (hs.step move)

lemma Sound.faithful (hs : Sound s) : Faithful s where
  own := by
    intro k id r hk
    have hholds : s.client.holds (.call k) = some r := holds_call hk
    obtain ⟨h, reply, hmem, hline⟩ := hs.held _ r hholds
    obtain ⟨id', req, heq, j, hj, hreq⟩ := hs.handlers _ hmem
    dsimp only at heq
    rw [heq] at hline hmem
    obtain ⟨hreturned, hid'⟩ := returned_answer hline
    have hown : answers? r.msg = some id := (hs.places.own hholds).trans (holderId_call hk)
    obtain rfl : id' = id := Option.some.inj (hid'.symm.trans hown)
    rw [List.getElem?_map, Option.map_eq_some_iff] at hj
    obtain ⟨stage, hstage, hsid⟩ := hj
    obtain rfl : j = k := hs.ids.distinct hstage hk hsid rfl
    exact ⟨req, reply, hreq, hmem, hreturned⟩
  handled := by
    intro i j e e' hi hj heq
    have hnodup : (s.handlers.map (·.1.id)).Nodup := (List.nodup_append.1 hs.sent).2.1
    have hlt : i < (s.handlers.map (·.1.id)).length := by
      rw [List.length_map]
      exact (List.getElem?_eq_some_iff.1 hi).1
    refine (List.getElem?_inj hlt hnodup).1 ?_
    rw [List.getElem?_map, List.getElem?_map, hi, hj, Option.map_some, Option.map_some, heq]
  distinct := fun _ _ _ _ _ hk hk' hid hid' => hs.ids.distinct hk hk' hid hid'
  events := hs.events

/-- The second request is answered first, before its call came to its wait. -/
example : (System.run true {} [.call ⟨"send_text", none⟩, .call ⟨"ping", none⟩,
      .client (.acquire 0), .client (.drained 0), .client (.acquire 1), .receive, .receive,
      .answer 1 (.result (.obj [("ok", .bool true)])), .read, .client (.drained 1),
      .client (.resume 1)]).client.calls =
    [.waiting 1 none false,
      .finished 2 (.result ⟨0, responseLine (.int 2) (.obj [("ok", .bool true)])⟩)] := rfl

end SherwoodMonitor.SidecarPipes
