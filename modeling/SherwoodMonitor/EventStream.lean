import SherwoodMonitor.Library.JsonText
import SherwoodMonitor.Records

/-! The reader of a stream child (`supervisor.py`) and the router of its records (`router.py`), for
one fund. -/
namespace SherwoodMonitor.EventStream
open PyText PyJson Records

/-- `_DEDUPE_CAPACITY`. -/
def dedupeCapacity : ℕ := 128

/-- The limit of an asyncio stream; `readline` raises on a line that is longer. -/
def lineLimit : ℕ := 2 ^ 16

/-- What `json.loads` does; `raises` where that is no `JSONDecodeError`. -/
inductive Loads
  | value (v : Json)
  | decodeError
  | raises

/-- What became of a line, or of a record that another source routed. -/
inductive Outcome
  | skipped
  | undecodable
  | duplicate (msg : SessionMessage)
  | handled (rec : Record)

/-- `_seen_xmtp` of the fund, the oldest first, and `_events_seen`. -/
structure Router where
  seen : List String := []
  eventsSeen : ℕ := 0

/-- `route`; what the handler raises is caught. -/
def Router.route (r : Router) (raw : Json) : Except Raised (Router × Outcome) :=
  match decodeRecord raw with
  | .error .valueError => .ok (r, .undecodable)
  | .error e => .error e
  | .ok (.message msg) =>
      if msg.id ∈ r.seen then
        .ok ({ r with seen := r.seen.erase msg.id ++ [msg.id] }, .duplicate msg)
      else
        let seen := r.seen ++ [msg.id]
        .ok ({ seen := if dedupeCapacity < seen.length then seen.tail else seen,
               eventsSeen := r.eventsSeen + 1 }, .handled (.message msg))
  | .ok (.chain ev) => .ok ({ r with eventsSeen := r.eventsSeen + 1 }, .handled (.chain ev))

/-- The reader task, with the lines that it has read. -/
structure Stream where
  router : Router := {}
  log : List (List UInt8 × Outcome) := []
  raised : Bool := false

/-- The child writes a line, or the sidecar's stream routes a record of the same fund. -/
inductive Move
  | line (bytes : List UInt8)
  | elsewhere (raw : Json)

variable (decode : List UInt8 → String) (loads : String → Loads)

namespace Stream

def note (s : Stream) (line : List UInt8) (outcome : Outcome) : Stream :=
  { s with log := s.log ++ [(line, outcome)] }

/-- A round of the loop in `_read_stdout`. -/
def readLine (s : Stream) (line : List UInt8) : Stream :=
  if lineLimit < line.length then { s with raised := true }
  else
    let text := strip (decode line)
    if text = "" then s.note line .skipped
    else
      match loads text with
      | .decodeError => s.note line .skipped
      | .raises => { s with raised := true }
      | .value raw =>
          match s.router.route raw with
          | .ok (router, outcome) => { s with router }.note line outcome
          | .error _ => { s with raised := true }

def step (s : Stream) : Move → Stream
  | .line bytes => if s.raised then s else s.readLine decode loads bytes
  | .elsewhere raw =>
      match s.router.route raw with
      | .ok (router, _) => { s with router }
      | .error _ => s

def run (s : Stream) (moves : List Move) : Stream := moves.foldl (step decode loads) s

end Stream

def linesOf (moves : List Move) : List (List UInt8) :=
  moves.filterMap fun
    | .line bytes => some bytes
    | .elsewhere _ => none

/-- The line is within the limit, and its JSON value is that of an event or a message. -/
def WellFormed (line : List UInt8) (rec : Record) : Prop :=
  line.length ≤ lineLimit ∧ strip (decode line) ≠ "" ∧
    ∃ raw, loads (strip (decode line)) = .value raw ∧ decodeRecord raw = .ok rec

/-- The reader has read these lines and goes on, and each well-formed one was handled, or is a
message that the router had seen before. -/
structure Routed (s : Stream) (lines : List (List UInt8)) : Prop where
  going : s.raised = false
  all : s.log.map (·.1) = lines
  routed : ∀ e ∈ s.log, ∀ rec, WellFormed decode loads e.1 rec →
    e.2 = .handled rec ∨ ∃ msg, rec = .message msg ∧ e.2 = .duplicate msg

/-- A line that is too long, or on which `json.loads` raises anything but `JSONDecodeError`, or an
ill-typed chain record. -/
def Fatal (line : List UInt8) : Prop :=
  lineLimit < line.length ∨ strip (decode line) ≠ "" ∧
    (loads (strip (decode line)) = .raises ∨
      ∃ raw, loads (strip (decode line)) = .value raw ∧ illTyped raw = true)

variable {decode loads}

/-- The router raises on the ill-typed records, handles or drops a record that is decoded, and
skips the rest. -/
lemma route_cases (r : Router) (raw : Json) :
    illTyped raw = true ∧ (∃ e, r.route raw = .error e) ∨
    illTyped raw = false ∧ ∃ router outcome, r.route raw = .ok (router, outcome) ∧
      ∀ rec, decodeRecord raw = .ok rec →
        outcome = .handled rec ∨ ∃ msg, rec = .message msg ∧ outcome = .duplicate msg := by
  have hescapes := escapes_decodeRecord raw
  rw [Router.route]
  cases hdecode : decodeRecord raw with
  | error e =>
    rw [hdecode] at hescapes
    cases e with
    | valueError =>
      have hfine : illTyped raw = false := Bool.eq_false_iff.2 fun h => hescapes.2 h
      exact Or.inr ⟨hfine, r, .undecodable, rfl, fun rec h => nomatch h⟩
    | typeError => exact Or.inl ⟨hescapes.1 trivial, .typeError, rfl⟩
    | overflowError => exact Or.inl ⟨hescapes.1 trivial, .overflowError, rfl⟩
  | ok rec =>
    rw [hdecode] at hescapes
    have hfine : illTyped raw = false := Bool.eq_false_iff.2 fun h => hescapes.2 h
    refine Or.inr ⟨hfine, ?_⟩
    cases rec with
    | chain ev => exact ⟨_, _, rfl, fun rec h => Or.inl (congrArg _ (Except.ok.inj h))⟩
    | message msg =>
      dsimp only
      by_cases hseen : msg.id ∈ r.seen
      · rw [if_pos hseen]
        exact ⟨_, _, rfl, fun rec h => Or.inr ⟨msg, (Except.ok.inj h).symm, rfl⟩⟩
      · rw [if_neg hseen]
        exact ⟨_, _, rfl, fun rec h => Or.inl (congrArg _ (Except.ok.inj h))⟩

/-- A line that is not fatal is read, and what it holds is handled. -/
lemma readLine_cases (s : Stream) (line : List UInt8) :
    Fatal decode loads line ∧ (s.readLine decode loads line).raised = true ∨
    ¬ Fatal decode loads line ∧ ∃ router outcome,
      s.readLine decode loads line = { s with router, log := s.log ++ [(line, outcome)] } ∧
      ∀ rec, WellFormed decode loads line rec →
        outcome = .handled rec ∨ ∃ msg, rec = .message msg ∧ outcome = .duplicate msg := by
  rw [Stream.readLine]
  by_cases hlong : lineLimit < line.length
  · rw [if_pos hlong]
    exact Or.inl ⟨Or.inl hlong, rfl⟩
  rw [if_neg hlong]
  dsimp only
  by_cases hblank : strip (decode line) = ""
  · rw [if_pos hblank]
    refine Or.inr ⟨?_, s.router, .skipped, rfl, fun rec h => absurd hblank h.2.1⟩
    rintro (h | ⟨h, -⟩)
    · exact hlong h
    · exact h hblank
  rw [if_neg hblank]
  cases hloads : loads (strip (decode line)) with
  | decodeError =>
    refine Or.inr ⟨?_, s.router, .skipped, rfl, fun rec h => ?_⟩
    · rintro (h | ⟨-, h | ⟨raw, h, -⟩⟩)
      · exact hlong h
      · cases hloads.symm.trans h
      · cases hloads.symm.trans h
    · obtain ⟨-, -, raw, h, -⟩ := h
      cases hloads.symm.trans h
  | raises => exact Or.inl ⟨Or.inr ⟨hblank, Or.inl hloads⟩, rfl⟩
  | value raw =>
    rcases route_cases s.router raw with ⟨hill, e, heq⟩ | ⟨hfine, router, outcome, heq, hout⟩
    · simp only [heq]
      exact Or.inl ⟨Or.inr ⟨hblank, Or.inr ⟨raw, hloads, hill⟩⟩, trivial⟩
    · simp only [heq]
      refine Or.inr ⟨?_, router, outcome, rfl, fun rec h => ?_⟩
      · rintro (h | ⟨-, h | ⟨raw', h, hill⟩⟩)
        · exact hlong h
        · cases hloads.symm.trans h
        · obtain rfl := Loads.value.inj (hloads.symm.trans h)
          exact absurd hill (by simp [hfine])
      · obtain ⟨-, -, raw', h, hdecode⟩ := h
        obtain rfl := Loads.value.inj (hloads.symm.trans h)
        exact hout rec hdecode

/-- A reader that raised reads no more. -/
lemma raised_run {s : Stream} (h : s.raised = true) (moves : List Move) :
    (s.run decode loads moves).raised = true := by
  induction moves generalizing s with
  | nil => exact h
  | cons move moves ih =>
    refine ih ?_
    cases move with
    | line bytes =>
      rw [Stream.step, if_pos h]
      exact h
    | elsewhere raw =>
      rw [Stream.step]
      split <;> exact h

lemma Routed.line {s : Stream} {lines : List (List UInt8)} (h : Routed decode loads s lines)
    {bytes : List UInt8} (hbytes : ¬ Fatal decode loads bytes) :
    Routed decode loads (s.step decode loads (.line bytes)) (lines ++ [bytes]) := by
  rw [Stream.step, if_neg (by simp [h.going])]
  rcases readLine_cases s bytes with ⟨hfatal, -⟩ | ⟨-, router, outcome, heq, hout⟩
  · exact absurd hfatal hbytes
  · rw [heq]
    refine ⟨h.going, by simp [h.all], fun e he rec hwell => ?_⟩
    rcases List.mem_append.1 he with he | he
    · exact h.routed e he rec hwell
    · obtain rfl := List.mem_singleton.1 he
      exact hout rec hwell

lemma Routed.elsewhere {s : Stream} {lines : List (List UInt8)} (h : Routed decode loads s lines)
    (raw : Json) : Routed decode loads (s.step decode loads (.elsewhere raw)) lines := by
  rw [Stream.step]
  split
  · exact ⟨h.going, h.all, h.routed⟩
  · exact h

lemma Routed.run {s : Stream} {lines : List (List UInt8)} (h : Routed decode loads s lines)
    {moves : List Move} (hmoves : ∀ line ∈ linesOf moves, ¬ Fatal decode loads line) :
    Routed decode loads (s.run decode loads moves) (lines ++ linesOf moves) := by
  induction moves generalizing s lines with
  | nil =>
    rw [linesOf, List.filterMap_nil, List.append_nil]
    exact h
  | cons move moves ih =>
    cases move with
    | line bytes =>
      have hrest := ih (h.line (hmoves bytes List.mem_cons_self))
        fun line hline => hmoves line (List.mem_cons_of_mem _ hline)
      rw [List.append_assoc] at hrest
      exact hrest
    | elsewhere raw =>
      exact ih (h.elsewhere raw) hmoves

/-- A reader that still goes on has met no fatal line. -/
lemma fine_of_going {s : Stream} {moves : List Move} (hs : s.raised = false)
    (h : (s.run decode loads moves).raised = false) :
    ∀ line ∈ linesOf moves, ¬ Fatal decode loads line := by
  induction moves generalizing s with
  | nil => simp [linesOf]
  | cons move moves ih =>
    have hstep : (s.step decode loads move).raised = false := by
      by_contra hraised
      have hrun := @raised_run decode loads _ (by simpa using hraised) moves
      cases h.symm.trans hrun
    have hrest := ih hstep h
    cases move with
    | elsewhere raw => exact hrest
    | line bytes =>
      intro line hline
      rcases List.mem_cons.1 (hline : line ∈ bytes :: linesOf moves) with rfl | hline
      · rw [Stream.step, if_neg (by simp [hs])] at hstep
        rcases @readLine_cases decode loads s line with ⟨-, hraised⟩ | ⟨hfine, -⟩
        · cases hstep.symm.trans hraised
        · exact hfine
      · exact hrest line hline

/-- The characters of a line in ASCII. -/
def ascii (line : List UInt8) : String := String.ofList (line.map fun b => Char.ofNat b.toNat)

/-- `json.loads` on texts without floats that it reads or refuses. -/
def loadsText (s : String) : Loads :=
  match JsonText.loads (fun _ => (0, "0.0")) s with
  | some v => .value v
  | none => .decodeError

def bytesOf (s : String) : List UInt8 := s.toList.map fun c => UInt8.ofNat c.toNat

/-- A chain event without a block number, and a well-formed one behind it. -/
def blockless : List Move :=
  [.line (bytesOf "\x7b\"source\":\"chain\",\"block\":null\x7d"),
    .line (bytesOf "\x7b\"source\":\"chain\",\"block\":1\x7d")]

end SherwoodMonitor.EventStream
