import Mathlib.Data.List.Sort
import SherwoodMonitor.Library.PyConvert
import SherwoodMonitor.Models

/-! One tick of the digest (`cron_tick.py`, `exposure.py`): the events behind the saved cursor, and
the exposure of the funds. `none` stands for an exception that leaves the function. -/
namespace SherwoodMonitor.CronTick
open PyText PyJson JsonRecords PyConvert Models

abbrev Fields := List (String × Json)

def interestingChain : List String :=
  ["ProposalCreated", "ProposalSettled", "ProposalCancelled", "ProposalExecuted",
   "SandboxPayloadStored", "SandboxRun", "ReviewOpened", "ReviewResolved", "GuardianSlashed"]

def interestingXmtp : List String := ["RISK_ALERT", "APPROVAL_REQUEST"]

/-- An entry of the cursor file. -/
structure Cursor where
  block : ℤ
  timestamp : ℚ
  lastTickAt : ℤ
  deriving DecidableEq

/-- An event or a message of a payload, with its block or its time. -/
inductive Found
  | chain (block : ℤ) (fields : Fields)
  | xmtp (sentAt : ℚ) (fields : Fields)

/-- `{"kind": kind, **fields}`. -/
def withKind (kind : String) (fields : Fields) : Json :=
  .obj (("kind", getOr "kind" (.str kind) fields) :: fields.filter fun f => f.1 ≠ "kind")

/-- The event as the result has it. -/
def Found.json : Found → Json
  | .chain _ fields => withKind "chain" fields
  | .xmtp _ fields => withKind "xmtp" fields

/-- What reading a time stamp gives: the time, a `ValueError`, or another exception. -/
inductive IsoResult
  | time (t : ℚ)
  | invalid
  | raises

section
variable (isoTime : String → IsoResult)

/-- An entry of `payload["events"]` with its block. -/
def chainEvent (v : Json) : Option (ℤ × Fields) := do
  let fields ← v.fieldsOf
  let block ← toInt (getOr "block" (.int 0) fields)
  return (block, fields)

/-- The events of the payload, sorted by block. -/
def chainEvents (payload : Fields) : Option (List (ℤ × Fields)) := do
  let events ← iterate (getOr "events" (.arr []) payload)
  let events ← events.mapM chainEvent
  return events.insertionSort fun a b => a.1 ≤ b.1

/-- An entry of `payload["messages"]` with its time; a message without a readable time is skipped. -/
def xmtpMessage (v : Json) : Option (Option (ℚ × Fields)) := do
  let fields ← v.fieldsOf
  match getOr "sentAt" (.str "") fields with
  | .str sent =>
      match isoTime (sent.replace "Z" "+00:00") with
      | .time t => return some (t, fields)
      | .invalid => return none
      | .raises => none
  | _ => none

/-- The messages of the payload that have a time, sorted by it. -/
def xmtpMessages (payload : Fields) : Option (List (ℚ × Fields)) := do
  let messages ← iterate (getOr "messages" (.arr []) payload)
  let messages ← messages.mapM (xmtpMessage isoTime)
  return (messages.filterMap id).insertionSort fun a b => a.1 ≤ b.1

/-- The loop over what is sorted: the interesting ones past the cursor, and the largest key. -/
def scan {κ : Type} [LinearOrder κ] (words : List String) (cursor : κ) :
    List (κ × Fields) → κ → Option (List (κ × Fields) × κ)
  | [], top => some ([], top)
  | (key, fields) :: rest, top =>
      if key ≤ cursor then scan words cursor rest top
      else do
        let interesting ← inWords words (getOr "type" .null fields)
        let (found, top) ← scan words cursor rest (max key top)
        return (if interesting then (key, fields) :: found else found, top)

/-- `_filter_interesting`. -/
def filterInteresting (payload : Json) (block : ℤ) (ts : ℚ) :
    Option (List Found × ℤ × ℚ) := do
  let payload ← payload.fieldsOf
  let events ← chainEvents payload
  let (events, maxBlock) ← scan interestingChain block events block
  let messages ← xmtpMessages isoTime payload
  let (messages, maxTs) ← scan interestingXmtp ts messages ts
  return (events.map (fun e => Found.chain e.1 e.2) ++ messages.map (fun m => Found.xmtp m.1 m.2),
    maxBlock, maxTs)

end

/-! ### Exposure -/

/-- `ExposureReport`, less the shares of each fund that nothing reads; the dicts are in their
order. -/
structure Exposure where
  totalAum : PyConvert.Num := .fin 0
  byProtocol : List (String × PyConvert.Num) := []
  perFund : List (String × List String) := []

/-- `d[key] = d.get(key, 0.0) + usd`. -/
def addTo (key : String) (usd : PyConvert.Num) :
    List (String × PyConvert.Num) → List (String × PyConvert.Num)
  | [] => [(key, usd)]
  | (k, v) :: d => if k = key then (k, v.add usd) :: d else (k, v) :: addTo key usd d

/-- The protocols of a fund, with one more. -/
def addProtocol (fund protocol : String) : List (String × List String) → List (String × List String)
  | [] => [(fund, [protocol])]
  | (f, ps) :: d =>
      if f = fund then (f, if ps.contains protocol then ps else ps ++ [protocol]) :: d
      else (f, ps) :: addProtocol fund protocol d

/-- `per_fund.setdefault(sub, {})`. -/
def setDefault (fund : String) (d : List (String × List String)) : List (String × List String) :=
  if d.any fun e => e.1 = fund then d else d ++ [(fund, [])]

/-- One position of a fund. -/
def addPosition (fund : String) (report : Exposure) (position : Json) : Option Exposure := do
  let fields ← position.fieldsOf
  let protocol := lower (getOr "protocol" (.str "") fields).toStr
  if protocol = "" then return report
  else
    let usd ← toFloat (getOr "usd" (.int 0) fields)
    return { report with
      byProtocol := addTo protocol usd report.byProtocol
      perFund := addProtocol fund protocol report.perFund }

/-- One fund's reply; `none` and an empty one are skipped. -/
def addFund (report : Exposure) : String × Option Json → Option Exposure
  | (_, none) => some report
  | (fund, some info) =>
      if info.truthy then do
        let fields ← info.fieldsOf
        let aum ← toFloat (getOr "aumUsd" (.int 0) fields)
        let positions := getOr "positions" (.arr []) fields
        let positions ← iterate (if positions.truthy then positions else .arr [])
        positions.foldlM (addPosition fund)
          { report with totalAum := report.totalAum.add aum
                        perFund := setDefault fund report.perFund }
      else some report

/-- `aggregate_exposure`, on what the lookups of the funds gave. -/
def aggregateExposure (replies : List (String × Option Json)) : Option Exposure :=
  replies.foldlM addFund {}

structure Alert where
  protocol : String
  pct : PyConvert.Num
  funds : List String

/-- `check_concentration`. -/
def checkConcentration (threshold : ℚ) (report : Exposure) : List Alert :=
  if report.totalAum.positive then
    (report.byProtocol.map fun e => (e.1, (e.2.divPositive report.totalAum).percent)).filterMap
      fun e =>
        if e.2.atLeast threshold then
          some ⟨e.1, e.2, (report.perFund.filter fun f => f.2.contains e.1).map (·.1)⟩
        else none
  else []

/-! ### The tick -/

/-- The file of the cursors, by the name of the fund. -/
abbrev CursorFile := String → Option Cursor

/-- The cursor that a tick of the fund starts from. -/
def CursorFile.cursor (file : CursorFile) (fund : String) : Cursor :=
  (file fund).getD { block := 0, timestamp := 0, lastTickAt := 0 }

/-- What a tick does with the payload: the new events, and the entry to save. -/
def readPayload (isoTime : String → IsoResult) (start : Cursor) (payload : Json) (now : ℤ) :
    Option (List Found × Cursor) := do
  let (events, maxBlock, maxTs) ← filterInteresting isoTime payload start.block start.timestamp
  return (events, { block := maxBlock, timestamp := maxTs, lastTickAt := now })

/-- `cron_tick`'s result: `cursor` is `none` where the session check failed, `alerts` where no
exposure was asked for. -/
structure Result where
  fund : String
  events : List Found
  cursor : Option Cursor := none
  alerts : Option (List Alert) := none

/-- The exposure that a tick is asked for: the threshold, and the lookups of the funds. -/
abbrev Lookups := Option (ℚ × List (String × Option Json))

/-- The end of a tick, behind the save. -/
def finish (fund : String) (events : List Found) (entry : Cursor) : Lookups → Option Result
  | none => some { fund, events, cursor := some entry }
  | some (threshold, replies) => do
      let report ← aggregateExposure replies
      return { fund, events, cursor := some entry,
               alerts := some (checkConcentration threshold report) }

/-- What one tick is called with, and what it is answered: the session check (`none` where it
failed), the clock, whether the file can be written, and the lookups. -/
structure Input where
  fund : String
  session : Option Json
  now : ℤ
  writes : Bool := true
  lookups : Lookups := none

/-- `cron_tick`, with no other one at the same time. -/
def cronTick (isoTime : String → IsoResult) (file : CursorFile) (input : Input) :
    CursorFile × Option Result :=
  match input.session with
  | none => (file, some { fund := input.fund, events := [] })
  | some payload =>
      match readPayload isoTime (file.cursor input.fund) payload input.now with
      | none => (file, none)
      | some (events, entry) =>
          if input.writes then
            (Function.update file input.fund (some entry),
              finish input.fund events entry input.lookups)
          else (file, none)

/-! ### What is found -/

/-- The interesting ones of a list. -/
def interestingOf {κ : Type} (words : List String) (l : List (κ × Fields)) : List (κ × Fields) :=
  l.filter fun e => inWords words (getOr "type" .null e.2) = some true

section
variable {κ : Type} [LinearOrder κ] {words : List String} {cursor top : κ}
  {l found : List (κ × Fields)} {last : κ}

lemma scan_cons {e : κ × Fields} (h : scan words cursor (e :: l) top = some (found, last)) :
    e.1 ≤ cursor ∧ scan words cursor l top = some (found, last) ∨
    cursor < e.1 ∧ ∃ interesting rest, inWords words (getOr "type" .null e.2) = some interesting ∧
      scan words cursor l (max e.1 top) = some (rest, last) ∧
      found = if interesting then e :: rest else rest := by
  obtain ⟨key, fields⟩ := e
  rw [scan] at h
  split_ifs at h with hle
  · exact Or.inl ⟨hle, h⟩
  · cases hwords : inWords words (getOr "type" .null fields) with
    | none => simp [hwords] at h
    | some interesting =>
      cases hscan : scan words cursor l (max key top) with
      | none => simp [hwords, hscan] at h
      | some r =>
        obtain ⟨rest, last'⟩ := r
        simp only [hwords, hscan, Option.bind_eq_bind, Option.bind_some, Option.pure_def,
          Option.some.injEq, Prod.mk.injEq] at h
        obtain ⟨rfl, rfl⟩ := h
        exact Or.inr ⟨not_le.1 hle, interesting, rest, rfl, rfl, rfl⟩

/-- The key that is reached is no less than the one begun with, and no less than any found. -/
lemma le_scan (h : scan words cursor l top = some (found, last)) :
    top ≤ last ∧ ∀ e ∈ found, cursor < e.1 ∧ e.1 ≤ last := by
  induction l generalizing top found with
  | nil =>
    simp only [scan, Option.some.injEq, Prod.mk.injEq] at h
    obtain ⟨rfl, rfl⟩ := h
    simp
  | cons e l ih =>
    rcases scan_cons h with ⟨-, hrest⟩ | ⟨hlt, interesting, rest, -, hrest, rfl⟩
    · exact ih hrest
    · obtain ⟨htop, hall⟩ := ih hrest
      refine ⟨(le_max_right _ _).trans htop, fun e' he' => ?_⟩
      cases interesting with
      | false => exact hall e' he'
      | true =>
        rcases List.mem_cons.1 he' with rfl | he'
        · exact ⟨hlt, (le_max_left _ _).trans htop⟩
        · exact hall e' he'

/-- Every interesting one past the cursor is found. -/
lemma mem_scan (h : scan words cursor l top = some (found, last)) {e : κ × Fields}
    (he : e ∈ interestingOf words l) (hlt : cursor < e.1) : e ∈ found := by
  induction l generalizing top found with
  | nil => simp [interestingOf] at he
  | cons e' l ih =>
    have hcases : e = e' ∧ inWords words (getOr "type" .null e.2) = some true ∨
        e ∈ interestingOf words l := by
      obtain ⟨hmem, hword⟩ := List.mem_filter.1 he
      rcases List.mem_cons.1 hmem with rfl | hmem
      · exact Or.inl ⟨rfl, of_decide_eq_true hword⟩
      · exact Or.inr (List.mem_filter.2 ⟨hmem, hword⟩)
    rcases scan_cons h with ⟨hle, hrest⟩ | ⟨-, interesting, rest, hword, hrest, rfl⟩
    · rcases hcases with ⟨rfl, -⟩ | hcases
      · exact absurd hlt (not_lt.2 hle)
      · exact ih hrest hcases
    · rcases hcases with ⟨rfl, htrue⟩ | hcases
      · obtain rfl := Option.some.inj (hword.symm.trans htrue)
        exact List.mem_cons_self
      · split_ifs
        · exact List.mem_cons_of_mem _ (ih hrest hcases)
        · exact ih hrest hcases

end

/-- Both cursors of an entry are as far as those of another. -/
structure Cursor.Le (c c' : Cursor) : Prop where
  block : c.block ≤ c'.block
  timestamp : c.timestamp ≤ c'.timestamp

lemma Cursor.Le.refl (c : Cursor) : c.Le c := ⟨le_refl _, le_refl _⟩

lemma Cursor.Le.trans {a b c : Cursor} (h : a.Le b) (h' : b.Le c) : a.Le c :=
  ⟨h.block.trans h'.block, h.timestamp.trans h'.timestamp⟩

/-- The event lies behind the one cursor and not behind the other. -/
def Found.Between (c c' : Cursor) : Found → Prop
  | .chain block _ => c.block < block ∧ block ≤ c'.block
  | .xmtp sentAt _ => c.timestamp < sentAt ∧ sentAt ≤ c'.timestamp

/-- No event lies in two intervals of which one ends before the other. -/
lemma Found.not_between_of_le {a b c d : Cursor} {e : Found} (h : e.Between a b)
    (h' : e.Between c d) (hle : b.Le c) : False := by
  cases e with
  | chain block fields => exact absurd (h.2.trans hle.block) (not_le.2 h'.1)
  | xmtp sentAt fields => exact absurd (h.2.trans hle.timestamp) (not_le.2 h'.1)

/-- The interesting events and messages of a payload. -/
def interestingIn (isoTime : String → IsoResult) (payload : Json) : List Found :=
  match payload.fieldsOf with
  | none => []
  | some fields =>
      (interestingOf interestingChain ((chainEvents fields).getD [])).map
          (fun e => Found.chain e.1 e.2) ++
        (interestingOf interestingXmtp ((xmtpMessages isoTime fields).getD [])).map
          fun m => Found.xmtp m.1 m.2

section
variable {isoTime : String → IsoResult} {start entry : Cursor} {payload : Json} {now : ℤ}
  {events : List Found}

lemma readPayload_some (h : readPayload isoTime start payload now = some (events, entry)) :
    ∃ fields chain chain' xmtp xmtp', payload.fieldsOf = some fields ∧
      chainEvents fields = some chain ∧
      scan interestingChain start.block chain start.block = some (chain', entry.block) ∧
      xmtpMessages isoTime fields = some xmtp ∧
      scan interestingXmtp start.timestamp xmtp start.timestamp = some (xmtp', entry.timestamp) ∧
      events = chain'.map (fun e => Found.chain e.1 e.2) ++
        xmtp'.map fun m => Found.xmtp m.1 m.2 := by
  simp only [readPayload, filterInteresting, Option.bind_eq_bind, Option.bind_eq_some_iff,
    Option.pure_def, Option.some.injEq, Prod.mk.injEq, Prod.exists] at h
  obtain ⟨_, _, _, ⟨fields, hfields, chain, hchain, chain', block, hscan, xmtp, hxmtp, xmtp', ts,
    hscan', rfl, rfl, rfl⟩, rfl, rfl⟩ := h
  exact ⟨fields, chain, chain', xmtp, xmtp', hfields, hchain, hscan, hxmtp, hscan', rfl⟩

/-- The new entry is no less than the one begun with, and the events lie between them. -/
lemma readPayload_le (h : readPayload isoTime start payload now = some (events, entry)) :
    start.Le entry ∧ ∀ e ∈ events, e.Between start entry := by
  obtain ⟨fields, chain, chain', xmtp, xmtp', -, -, hscan, -, hscan', rfl⟩ := readPayload_some h
  refine ⟨⟨(le_scan hscan).1, (le_scan hscan').1⟩, fun e he => ?_⟩
  rcases List.mem_append.1 he with he | he
  · obtain ⟨c, hc, rfl⟩ := List.mem_map.1 he
    exact (le_scan hscan).2 c hc
  · obtain ⟨m, hm, rfl⟩ := List.mem_map.1 he
    exact (le_scan hscan').2 m hm

/-- Every interesting event that the entry moves past is among the new events. -/
lemma mem_readPayload (h : readPayload isoTime start payload now = some (events, entry)) {e : Found}
    (he : e ∈ interestingIn isoTime payload) (hpast : e.Between start entry) : e ∈ events := by
  obtain ⟨fields, chain, chain', xmtp, xmtp', hfields, hchain, hscan, hxmtp, hscan', rfl⟩ :=
    readPayload_some h
  simp only [interestingIn, hfields, hchain, hxmtp, Option.getD_some] at he
  rcases List.mem_append.1 he with he | he
  · obtain ⟨c, hc, rfl⟩ := List.mem_map.1 he
    exact List.mem_append_left _ (List.mem_map.2 ⟨c, mem_scan hscan hc hpast.1, rfl⟩)
  · obtain ⟨m, hm, rfl⟩ := List.mem_map.1 he
    exact List.mem_append_right _ (List.mem_map.2 ⟨m, mem_scan hscan' hm hpast.1, rfl⟩)

end

end SherwoodMonitor.CronTick
