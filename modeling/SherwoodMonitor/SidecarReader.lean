import SherwoodMonitor.EventStream
import SherwoodMonitor.SidecarRuns

/-! The sidecar's reader (`sidecar.py`) on the bytes of its stdout: which lines end it, and what the
sidecar reports of itself afterwards. -/
namespace SherwoodMonitor.SidecarReader
open PyText PyJson PyConvert EventStream Sidecar

/-- The started sidecar with its `_sidecar_ok`, the lines that were read, and whether the end of
the stream was read and `shutdown` has run. -/
structure Client where
  world : World
  ok : Bool := true
  consumed : List (List UInt8) := []
  eof : Bool := false
  closed : Bool := false

variable (decode : List UInt8 → String) (loads : String → Loads)

/-- A line of stdout up to `json.loads`. -/
def lineOf (bytes : List UInt8) : Line :=
  if lineLimit < bytes.length then .fails
  else
    let text := strip (decode bytes)
    if text = "" then .blank
    else
      match loads text with
      | .decodeError => .malformed
      | .raises => .fails
      | .value msg => .json msg

/-- What happens next: a line or the end of stdout is there to read, a call or a dispatch goes on, or
`shutdown` gets to its end. -/
inductive Event
  | line (bytes : List UInt8)
  | endOfStream
  | work (move : Sidecar.Move)
  | shutdown

namespace Client

/-- A line is read when the reader waits for one. -/
def step (handsOver : Bool) (c : Client) : Event → Client
  | .line bytes =>
      if c.world.reader = .reading then
        { c with
          world := c.world.readLine (lineOf decode loads bytes)
          consumed := c.consumed ++ [bytes] }
      else c
  | .endOfStream =>
      if c.world.reader = .reading then { c with world := c.world.readLine .eof, eof := true } else c
  | .work (.read _) => c
  | .work move => { c with world := c.world.step handsOver move }
  | .shutdown => { c with world := { c.world with reader := .ended }, ok := false, closed := true }

def run (handsOver : Bool) (c : Client) (events : List Event) : Client :=
  events.foldl (step decode loads handsOver) c

/-- The sidecar as `start` leaves it, with the calls made so far. -/
def started (w : World) : Client := { world := { w with reader := .reading } }

end Client

/-- No line has stopped the reader; while it reads, the response of a pending call resolves it; and
after the end of the stream the sidecar does not report itself as ok. -/
structure Serves (c : Client) : Prop where
  going : c.world.reader = .ended → c.eof = true ∨ c.closed = true
  resolves : ∀ msg id k s, c.world.reader = .reading → answers? msg = some id →
    c.world.pending id = some k → c.world.calls[k]? = some s → s.open? = some id →
    s.response? = none →
    ∃ s' : Stage, (c.world.readLine (.json msg)).calls[k]? = some s' ∧ s'.response?.isSome = true
  honest : c.eof = true → c.ok = false

/-- The value is no object, or an object whose id is a list or an object. -/
def BadMessage : Json → Prop
  | .obj msg => isHashable (Json.lookup "id" msg) = false
  | _ => True

/-- A line that is too long, on which `json.loads` raises anything but `JSONDecodeError`, or whose
value is no message. -/
def Fatal (line : List UInt8) : Prop :=
  lineLimit < line.length ∨ strip (decode line) ≠ "" ∧
    (loads (strip (decode line)) = .raises ∨
      ∃ msg, loads (strip (decode line)) = .value msg ∧ BadMessage msg)

variable {decode loads} {c : Client}

lemma lookup_of_not_hasKey {key : String} {fields : List (String × Json)}
    (h : Json.hasKey key fields = false) : Json.lookup key fields = .null := by
  have hnone : fields.find? (fun f => f.1 = key) = none := by
    rw [List.find?_eq_none]
    intro f hf hkey
    rw [Json.hasKey, List.any_eq_false] at h
    exact h f hf hkey
  rw [Json.lookup, hnone]
  rfl

lemma classify_eq_raises (msg : Json) : classify msg = .raises ↔ BadMessage msg := by
  cases msg with
  | obj fields =>
    rw [classify, BadMessage]
    cases hkey : Json.hasKey "id" fields with
    | true => cases hid : isHashable (Json.lookup "id" fields) <;> simp [hid]
    | false =>
      rw [lookup_of_not_hasKey hkey]
      cases Json.lookup "method" fields <;> simp [isHashable]
  | _ => simp [classify, BadMessage]

lemma reader_respond (w : World) (id : ℤ) (r : Response) : (w.respond id r).reader = w.reader := by
  rcases respond_cases w id r with ⟨_, _, _, -, -, -, heq⟩ | ⟨-, heq⟩
  · rw [heq]
  · rw [heq]

lemma reader_handle {w : World} (hw : w.reader = .reading) (msg : Json) :
    (w.handle msg).reader = .ended ↔ BadMessage msg := by
  rw [← classify_eq_raises, World.handle]
  cases classify msg with
  | raises => simp
  | notification isEvent => cases isEvent <;> simp [hw]
  | response reqId => cases hid : idKey reqId <;> simp [hid, reader_respond, hw]

/-- A line ends the reader exactly when it is fatal. -/
lemma reader_readLine {w : World} (hw : w.reader = .reading) (line : List UInt8) :
    (w.readLine (lineOf decode loads line)).reader = .ended ↔ Fatal decode loads line := by
  rw [lineOf, Fatal]
  by_cases hlong : lineLimit < line.length
  · simp [hlong, World.readLine]
  · by_cases hblank : strip (decode line) = ""
    · simp [hlong, hblank, World.readLine, hw]
    · cases hloads : loads (strip (decode line)) with
      | decodeError => simp [hlong, hblank, hloads, World.readLine, hw]
      | raises => simp [hlong, hblank, hloads, World.readLine]
      | value msg => simp [hlong, hblank, hloads, World.readLine, reader_handle hw]

/-- While the reader reads, the response of a pending call resolves it. -/
lemma resolves_readLine {w : World} {msg : Json} {id : ℤ} {k : ℕ} {s : Stage}
    (hid : answers? msg = some id) (hpending : w.pending id = some k) (hs : w.calls[k]? = some s)
    (hopen : s.open? = some id) (hnone : s.response? = none) :
    ∃ s' : Stage, (w.readLine (.json msg)).calls[k]? = some s' ∧ s'.response?.isSome = true := by
  obtain ⟨s', hs'⟩ : ∃ s', s.resolve ⟨w.lines, msg⟩ = some s' := by
    cases s with
    | draining id' fut =>
      cases fut with
      | none => exact ⟨_, rfl⟩
      | some r => cases hnone
    | waiting id' fut cancelled =>
      cases fut with
      | none => exact ⟨_, rfl⟩
      | some r => cases hnone
    | queued => cases hopen
    | finished id' outcome => cases hopen
  have hhandle : w.handle msg = w.respond id ⟨w.lines, msg⟩ := by
    rw [answers?] at hid
    rw [World.handle]
    split at hid
    · next reqId hclass => simp only [hclass, hid]
    · cases hid
  refine ⟨s', ?_, by rw [(resolve_eq_some hs').1]; rfl⟩
  have hcalls : (w.respond id ⟨w.lines, msg⟩).calls = w.calls.set k s' := by
    rw [World.respond]
    simp only [hpending, hs, Option.bind_some, hs']
  rw [World.readLine, hhandle]
  exact (congrArg (·[k]?) hcalls).trans (Table.set_self hs)

/-- The reader has ended where the end of the stream or a fatal line was read, or after `shutdown`,
which alone takes the report back. -/
structure Tracked (decode : List UInt8 → String) (loads : String → Loads) (c : Client) : Prop where
  ended : c.world.reader = .ended ↔
    c.eof = true ∨ c.closed = true ∨ ∃ line ∈ c.consumed, Fatal decode loads line
  last : c.eof = true → ∀ line ∈ c.consumed, ¬Fatal decode loads line
  ok : c.ok = !c.closed

/-- The calls and the dispatch of a notification neither end the reader nor wake it up again. -/
lemma reader_step {handsOver : Bool} {w : World} {move : Sidecar.Move}
    (hmove : ∀ line, move ≠ .read line) :
    (w.step handsOver move).reader = .ended ↔ w.reader = .ended := by
  cases move with
  | read line => exact absurd rfl (hmove line)
  | dispatched =>
    rw [World.step]
    split_ifs with hdispatching
    · simp [hdispatching]
    · rfl
  | call => rfl
  | acquire k =>
    rw [World.step]
    split
    · split_ifs <;> rfl
    · rfl
  | drained k =>
    rw [World.step]
    split <;> rfl
  | timer k =>
    rw [World.step]
    split
    · split_ifs <;> rfl
    · rfl
  | resume k =>
    rw [World.step]
    split
    · split_ifs
      · rfl
      · split <;> rfl
    · rfl

lemma Tracked.work (h : Tracked decode loads c) {handsOver : Bool} {move : Sidecar.Move}
    (hmove : ∀ line, move ≠ .read line) :
    Tracked decode loads { c with world := c.world.step handsOver move } where
  ended := (reader_step hmove).trans h.ended
  last := h.last
  ok := h.ok

lemma Tracked.step (h : Tracked decode loads c) (handsOver : Bool) (event : Event) :
    Tracked decode loads (c.step decode loads handsOver event) := by
  cases event with
  | line bytes =>
    rw [Client.step]
    split_ifs with hreading
    · have hgoing : ¬(c.eof = true ∨ c.closed = true ∨ ∃ l ∈ c.consumed, Fatal decode loads l) := by
        rw [← h.ended, hreading]
        simp
      rw [not_or, not_or] at hgoing
      obtain ⟨heof, hclosed, hfine⟩ := hgoing
      refine ⟨?_, fun h' => absurd h' heof, h.ok⟩
      rw [reader_readLine hreading]
      constructor
      · intro hfatal
        exact Or.inr (Or.inr ⟨bytes, by simp, hfatal⟩)
      · rintro (h' | h' | ⟨l, hl, hfatal⟩)
        · exact absurd h' heof
        · exact absurd h' hclosed
        · rcases List.mem_append.1 hl with hl | hl
          · exact absurd ⟨l, hl, hfatal⟩ hfine
          · rwa [List.mem_singleton.1 hl] at hfatal
    · exact h
  | endOfStream =>
    rw [Client.step]
    split_ifs with hreading
    · refine ⟨by simp [World.readLine], fun _ l hl hfatal => ?_, h.ok⟩
      have hended := h.ended.2 (Or.inr (Or.inr ⟨l, hl, hfatal⟩))
      rw [hreading] at hended
      cases hended
    · exact h
  | work move =>
    cases move with
    | read line => exact h
    | _ => exact h.work fun line => (by simp)
  | shutdown => exact ⟨by simp [Client.step], h.last, rfl⟩

lemma Tracked.run (h : Tracked decode loads c) (handsOver : Bool) (events : List Event) :
    Tracked decode loads (c.run decode loads handsOver events) := by
  induction events generalizing c with
  | nil => exact h
  | cons event events ih => exact ih (h.step handsOver event)

/-- A call is made, and before its response a line comes that is valid JSON but no object. -/
def listBeforeResponse : List Event :=
  [.work .call, .work (.acquire 0), .line (bytesOf "[]"), .line (bytesOf "\x7b\"id\":1\x7d")]

end SherwoodMonitor.SidecarReader
