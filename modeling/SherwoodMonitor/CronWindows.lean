import SherwoodMonitor.CronTick

/-! What one call of `_filter_interesting` returns, on payloads of well-typed entries, and what a
history returns that is read window by window. -/
namespace SherwoodMonitor.CronWindows
open PyText PyJson JsonRecords PyConvert Models CronTick

variable {isoTime : String → IsoResult} {block : ℤ} {ts : ℚ}

/-- A payload whose events have integer blocks and whose messages have string timestamps, with
these read off. -/
structure Window where
  payload : Json
  events : List (ℤ × Fields)
  messages : List (String × Fields)
  typed : ∃ fields, payload = .obj fields ∧
    getOr "events" (.arr []) fields = .arr (events.map fun e => .obj e.2) ∧
    (∀ e ∈ events, getOr "block" (.int 0) e.2 = .int e.1) ∧
    getOr "messages" (.arr []) fields = .arr (messages.map fun m => .obj m.2) ∧
    ∀ m ∈ messages, getOr "sentAt" (.str "") m.2 = .str m.1

/-- What the date library makes of a timestamp. -/
def sentTime (isoTime : String → IsoResult) (m : String × Fields) : IsoResult :=
  isoTime (m.1.replace "Z" "+00:00")

def readTime (isoTime : String → IsoResult) (m : String × Fields) : Option (ℚ × Fields) :=
  match sentTime isoTime m with
  | .time t => some (t, m.2)
  | _ => none

/-- The messages with a readable timestamp. -/
def timed (isoTime : String → IsoResult) (messages : List (String × Fields)) : List (ℚ × Fields) :=
  messages.filterMap (readTime isoTime)

/-- The type of the entry can be looked up in a set. -/
def Typed (fields : Fields) : Prop := isHashable (getOr "type" .null fields) = true

/-- The entries past a cursor. -/
def past {κ : Type} [LinearOrder κ] (cursor : κ) (l : List (κ × Fields)) : List (κ × Fields) :=
  l.filter fun e => cursor < e.1

/-- The types of the entries past the cursors can be looked up, and no timestamp makes the date
library raise anything but `ValueError`. -/
structure Window.Readable (isoTime : String → IsoResult) (w : Window) (block : ℤ) (ts : ℚ) :
    Prop where
  events : ∀ e ∈ past block w.events, Typed e.2
  times : ∀ m ∈ w.messages, sentTime isoTime m ≠ .raises
  messages : ∀ m ∈ past ts (timed isoTime w.messages), Typed m.2

/-- A list holds the interesting entries past the cursor, by position. -/
structure Past {κ : Type} [LinearOrder κ] (words : List String) (cursor : κ)
    (l found : List (κ × Fields)) : Prop where
  all : found.Perm (interestingOf words (past cursor l))
  ascending : found.Pairwise fun a b => a.1 ≤ b.1

/-- The result holds the interesting events and messages past the cursors, each kind by position,
and the largest positions. -/
def Window.Exact (isoTime : String → IsoResult) (w : Window) (block : ℤ) (ts : ℚ)
    (r : List Found × ℤ × ℚ) : Prop :=
  (∃ (events : List (ℤ × Fields)) (messages : List (ℚ × Fields)), r.1 = events.map (fun e => Found.chain e.1 e.2) ++
      messages.map (fun m => Found.xmtp m.1 m.2) ∧
    Past interestingChain block w.events events ∧
    Past interestingXmtp ts (timed isoTime w.messages) messages) ∧
  r.2.1 = (w.events.map (·.1)).foldl max block ∧
  r.2.2 = ((timed isoTime w.messages).map (·.1)).foldl max ts

/-! ### One window -/

section
variable {κ : Type} [LinearOrder κ] {words : List String} {cursor top last : κ}
  {l found : List (κ × Fields)}

lemma inWords_isSome (words : List String) (v : Json) :
    (inWords words v).isSome = isHashable v := by
  cases v <;> rfl

/-- The loop reads the types past the cursor, keeps what is interesting there and takes the largest
key. -/
lemma scan_eq_some (htop : cursor ≤ top) :
    scan words cursor l top = some (found, last) ↔
      (∀ e ∈ past cursor l, Typed e.2) ∧ found = interestingOf words (past cursor l) ∧
        last = (l.map (·.1)).foldl max top := by
  induction l generalizing top found last with
  | nil => simp [scan, past, interestingOf, eq_comm]
  | cons e l ih =>
    obtain ⟨key, fields⟩ := e
    rw [scan, List.map_cons, List.foldl_cons]
    split_ifs with hle
    · have hpast : past cursor ((key, fields) :: l) = past cursor l :=
        List.filter_cons_of_neg (by simpa using hle)
      rw [ih htop, hpast, max_eq_left (hle.trans htop)]
    · have hpast : past cursor ((key, fields) :: l) = (key, fields) :: past cursor l :=
        List.filter_cons_of_pos (by simpa using hle)
      have hsome := inWords_isSome words (getOr "type" .null fields)
      rw [hpast, List.forall_mem_cons, max_comm top key, Typed, ← hsome]
      cases hwords : inWords words (getOr "type" .null fields) with
      | none => simp
      | some interesting =>
        have hkept : interestingOf words ((key, fields) :: past cursor l) =
            if interesting then (key, fields) :: interestingOf words (past cursor l)
            else interestingOf words (past cursor l) := by
          cases interesting <;> simp [interestingOf, hwords]
        simp only [Option.bind_eq_bind, Option.bind_some, Option.bind_eq_some_iff, Prod.exists,
          Option.pure_def, Option.some.injEq, Prod.mk.injEq, Option.isSome_some, true_and, hkept,
          ih (htop.trans (le_max_right key top))]
        constructor
        · rintro ⟨_, _, ⟨htyped, rfl, rfl⟩, rfl, rfl⟩
          exact ⟨htyped, rfl, rfl⟩
        · rintro ⟨htyped, rfl, rfl⟩
          exact ⟨_, _, ⟨htyped, rfl, rfl⟩, rfl, rfl⟩

lemma past_perm {l' : List (κ × Fields)} (h : l.Perm l') :
    (interestingOf words (past cursor l)).Perm (interestingOf words (past cursor l')) :=
  (h.filter _).filter _

end

lemma mapM_eq_some {α β : Type} {f : α → Option β} {P : α → Prop} {g : α → β} {l : List α}
    {r : List β} (hf : ∀ a ∈ l, ∀ b, f a = some b ↔ P a ∧ b = g a) :
    l.mapM f = some r ↔ (∀ a ∈ l, P a) ∧ r = l.map g := by
  induction l generalizing r with
  | nil => simp [eq_comm]
  | cons a l ih =>
    obtain ⟨ha, hl⟩ := List.forall_mem_cons.1 hf
    simp only [List.mapM_cons, Option.bind_eq_bind, Option.bind_eq_some_iff, ha, ih hl,
      Option.pure_def, Option.some.injEq, List.forall_mem_cons, List.map_cons]
    constructor
    · rintro ⟨_, ⟨hp, rfl⟩, _, ⟨hall, rfl⟩, rfl⟩
      exact ⟨⟨hp, hall⟩, rfl⟩
    · rintro ⟨⟨hp, hall⟩, rfl⟩
      exact ⟨_, ⟨hp, rfl⟩, _, ⟨hall, rfl⟩, rfl⟩

/-- What reading the two lists of a window gives. -/
lemma Window.read (w : Window) : ∃ fields, w.payload = .obj fields ∧
    chainEvents fields = some (w.events.insertionSort fun a b => a.1 ≤ b.1) ∧
    ∀ r, xmtpMessages isoTime fields = some r ↔
      (∀ m ∈ w.messages, sentTime isoTime m ≠ .raises) ∧
        r = (timed isoTime w.messages).insertionSort fun a b => a.1 ≤ b.1 := by
  obtain ⟨fields, hpayload, hevents, hblocks, hmessages, hsent⟩ := w.typed
  refine ⟨fields, hpayload, ?_, fun r => ?_⟩
  · have hmap : (w.events.map fun e => Json.obj e.2).mapM chainEvent = some w.events := by
      rw [List.mapM_map, @mapM_eq_some _ _ _ (fun _ => True) id]
      · simp
      · intro e he b
        simp [chainEvent, Json.fieldsOf, hblocks e he, toInt, eq_comm]
    rw [chainEvents, hevents]
    simp [iterate, hmap]
  · have hmap : ∀ read, (w.messages.map fun m => Json.obj m.2).mapM (xmtpMessage isoTime) = some read
        ↔ (∀ m ∈ w.messages, sentTime isoTime m ≠ .raises) ∧
          read = w.messages.map (readTime isoTime) := by
      intro read
      rw [List.mapM_map, mapM_eq_some]
      intro m hm b
      simp only [Function.comp_apply, xmtpMessage, Json.fieldsOf, hsent m hm, Option.bind_eq_bind,
        Option.bind_some, readTime, sentTime]
      cases isoTime (m.1.replace "Z" "+00:00") <;> simp [eq_comm]
    have htimed : (w.messages.map (readTime isoTime)).filterMap id = timed isoTime w.messages := by
      rw [List.filterMap_map]
      rfl
    rw [xmtpMessages, hmessages]
    simp only [iterate, Option.bind_eq_bind, Option.bind_some, Option.bind_eq_some_iff, hmap,
      Option.pure_def, Option.some.injEq]
    constructor
    · rintro ⟨_, ⟨hall, rfl⟩, rfl⟩
      exact ⟨hall, by rw [htimed]⟩
    · rintro ⟨hall, rfl⟩
      exact ⟨_, ⟨hall, rfl⟩, by rw [htimed]⟩

section
variable {κ : Type} [LinearOrder κ] {words : List String} {cursor : κ} {l l' : List (κ × Fields)}

def sorted (l : List (κ × Fields)) : List (κ × Fields) := l.insertionSort fun a b => a.1 ≤ b.1

lemma sorted_perm (l : List (κ × Fields)) : (sorted l).Perm l := List.perm_insertionSort _ l

lemma sorted_ascending (l : List (κ × Fields)) : (sorted l).Pairwise fun a b => a.1 ≤ b.1 := by
  have : Std.Total fun a b : κ × Fields => a.1 ≤ b.1 := ⟨fun a b => le_total a.1 b.1⟩
  have : IsTrans (κ × Fields) fun a b => a.1 ≤ b.1 := ⟨fun _ _ _ => le_trans⟩
  exact List.pairwise_insertionSort _ l

/-- What the loop keeps of the sorted entries. -/
def kept (words : List String) (cursor : κ) (l : List (κ × Fields)) : List (κ × Fields) :=
  interestingOf words (past cursor (sorted l))

lemma past_kept : Past words cursor l (kept words cursor l) where
  all := ((sorted_perm l).filter _).filter _
  ascending := ((sorted_ascending l).filter _).filter _

lemma foldl_max_perm (top : κ) (h : l.Perm l') :
    (l.map (·.1)).foldl max top = (l'.map (·.1)).foldl max top :=
  (h.map _).foldl_eq top

lemma scan_sorted {found : List (κ × Fields)} {last : κ} :
    scan words cursor (sorted l) cursor = some (found, last) ↔
      (∀ e ∈ past cursor l, Typed e.2) ∧ found = kept words cursor l ∧
        last = (l.map (·.1)).foldl max cursor := by
  rw [scan_eq_some le_rfl, foldl_max_perm cursor (sorted_perm l)]
  have hmem : ∀ e, e ∈ past cursor (sorted l) ↔ e ∈ past cursor l := fun e =>
    ((sorted_perm l).filter _).mem_iff
  simp only [hmem, kept]

/-- Ascending lists of the same entries have the same positions. -/
lemma Past.positions_eq {found found' : List (κ × Fields)} (h : Past words cursor l found)
    (h' : Past words cursor l' found') (hperm : l.Perm l') :
    found.Perm found' ∧ found.map (·.1) = found'.map (·.1) := by
  have hfound : found.Perm found' :=
    (h.all.trans ((hperm.filter _).filter _)).trans h'.all.symm
  refine ⟨hfound, List.Perm.eq_of_pairwise (fun a b _ _ => le_antisymm) ?_ ?_ (hfound.map _)⟩
  · exact List.pairwise_map.2 h.ascending
  · exact List.pairwise_map.2 h'.ascending

end

/-- What a call returns, where it does not raise. -/
lemma filterInteresting_eq_some (w : Window) {r : List Found × ℤ × ℚ} :
    filterInteresting isoTime w.payload block ts = some r ↔
      w.Readable isoTime block ts ∧
      r = ((kept interestingChain block w.events).map (fun e => Found.chain e.1 e.2) ++
          (kept interestingXmtp ts (timed isoTime w.messages)).map (fun m => Found.xmtp m.1 m.2),
        (w.events.map (·.1)).foldl max block,
        ((timed isoTime w.messages).map (·.1)).foldl max ts) := by
  obtain ⟨fields, hpayload, hchain, hxmtp⟩ := @Window.read isoTime w
  have hsorted : ∀ {κ : Type} [LinearOrder κ] (l : List (κ × Fields)),
      l.insertionSort (fun a b => a.1 ≤ b.1) = sorted l := fun _ => rfl
  simp only [filterInteresting, hpayload, Json.fieldsOf, hchain, Option.bind_eq_bind,
    Option.bind_some, Option.bind_eq_some_iff, Prod.exists, hxmtp, Option.pure_def,
    Option.some.injEq, hsorted, scan_sorted]
  constructor
  · rintro ⟨_, _, ⟨hevents, rfl, rfl⟩, _, ⟨htimes, rfl⟩, _, _, hscan, rfl⟩
    obtain ⟨hmessages, rfl, rfl⟩ := scan_sorted.1 hscan
    exact ⟨⟨hevents, htimes, hmessages⟩, rfl⟩
  · rintro ⟨⟨hevents, htimes, hmessages⟩, rfl⟩
    exact ⟨_, _, ⟨hevents, rfl, rfl⟩, _, ⟨htimes, rfl⟩, _, _,
      scan_sorted.2 ⟨hmessages, rfl, rfl⟩, rfl⟩

/-- The results of two calls on the same entries: the same cursors, and of each kind the same
entries, at the same positions. -/
def SameUpToTies (r r' : List Found × ℤ × ℚ) : Prop :=
  (∃ (events events' : List (ℤ × Fields)) (messages messages' : List (ℚ × Fields)),
    r.1 = events.map (fun e => Found.chain e.1 e.2) ++ messages.map (fun m => Found.xmtp m.1 m.2) ∧
    r'.1 = events'.map (fun e => Found.chain e.1 e.2) ++
      messages'.map (fun m => Found.xmtp m.1 m.2) ∧
    (events.Perm events' ∧ events.map (·.1) = events'.map (·.1)) ∧
    messages.Perm messages' ∧ messages.map (·.1) = messages'.map (·.1)) ∧
  r.2 = r'.2

lemma exact_iff (w : Window) (block : ℤ) (ts : ℚ) :
    (∃ r, filterInteresting isoTime w.payload block ts = some r ∧ w.Exact isoTime block ts r) ↔
      w.Readable isoTime block ts := by
  simp only [filterInteresting_eq_some]
  constructor
  · rintro ⟨_, ⟨hreadable, -⟩, -⟩
    exact hreadable
  · intro hreadable
    exact ⟨_, ⟨hreadable, rfl⟩, ⟨_, _, rfl, past_kept, past_kept⟩, rfl, rfl⟩

/-- Permuted payloads are both read or both not, and their results differ at most among entries of
equal position. -/
lemma same_of_perm {w w' : Window} (hevents : w.events.Perm w'.events)
    (hmessages : w.messages.Perm w'.messages) {r : List Found × ℤ × ℚ}
    (h : filterInteresting isoTime w.payload block ts = some r) :
    ∃ r', filterInteresting isoTime w'.payload block ts = some r' ∧ SameUpToTies r r' := by
  have htimed : (timed isoTime w.messages).Perm (timed isoTime w'.messages) :=
    hmessages.filterMap _
  obtain ⟨hreadable, rfl⟩ := (filterInteresting_eq_some w).1 h
  have hreadable' : w'.Readable isoTime block ts :=
    { events := fun e he => hreadable.events e ((hevents.filter _).mem_iff.2 he)
      times := fun m hm => hreadable.times m (hmessages.mem_iff.2 hm)
      messages := fun m hm => hreadable.messages m ((htimed.filter _).mem_iff.2 hm) }
  refine ⟨_, (filterInteresting_eq_some w').2 ⟨hreadable', rfl⟩, ⟨_, _, _, _, rfl, rfl,
    past_kept.positions_eq past_kept hevents, past_kept.positions_eq past_kept htimed⟩, ?_⟩
  exact Prod.ext (foldl_max_perm block hevents) (foldl_max_perm ts htimed)

/-! ### A history in windows -/

/-- Calls on the windows one after the other, each with the cursors that the one before returned. -/
def runWindows (isoTime : String → IsoResult) : List Json → ℤ → ℚ → Option (List Found)
  | [], _, _ => some []
  | payload :: rest, block, ts => do
      let (found, block, ts) ← filterInteresting isoTime payload block ts
      let later ← runWindows isoTime rest block ts
      return found ++ later

/-- All positions of the window are above the cursors. -/
structure Window.Above (isoTime : String → IsoResult) (w : Window) (block : ℤ) (ts : ℚ) : Prop where
  events : ∀ e ∈ w.events, block < e.1
  messages : ∀ m ∈ timed isoTime w.messages, ts < m.1

/-- All positions of a window are before those of another. -/
structure Window.Before (isoTime : String → IsoResult) (w w' : Window) : Prop where
  events : ∀ e ∈ w.events, ∀ e' ∈ w'.events, e.1 < e'.1
  messages : ∀ m ∈ timed isoTime w.messages, ∀ m' ∈ timed isoTime w'.messages, m.1 < m'.1

/-- The interesting entries of a window. -/
def Window.interesting (isoTime : String → IsoResult) (w : Window) : List Found :=
  (interestingOf interestingChain w.events).map (fun e => Found.chain e.1 e.2) ++
    (interestingOf interestingXmtp (timed isoTime w.messages)).map fun m => Found.xmtp m.1 m.2

lemma past_eq_self {κ : Type} [LinearOrder κ] {cursor : κ} {l : List (κ × Fields)}
    (h : ∀ e ∈ l, cursor < e.1) : past cursor l = l :=
  List.filter_eq_self.2 fun e he => decide_eq_true (h e he)

/-- Above the cursors it does not matter where they stand. -/
lemma Window.Above.readable_iff {w : Window} {block' : ℤ} {ts' : ℚ} (h : w.Above isoTime block ts)
    (h' : w.Above isoTime block' ts') :
    w.Readable isoTime block ts ↔ w.Readable isoTime block' ts' := by
  have hevents := (past_eq_self h.events).trans (past_eq_self h'.events).symm
  have hmessages := (past_eq_self h.messages).trans (past_eq_self h'.messages).symm
  constructor
  · rintro ⟨he, ht, hm⟩
    exact ⟨hevents ▸ he, ht, hmessages ▸ hm⟩
  · rintro ⟨he, ht, hm⟩
    exact ⟨hevents.symm ▸ he, ht, hmessages.symm ▸ hm⟩

lemma lt_foldl_max {κ : Type} [LinearOrder κ] {l : List (κ × Fields)} {top x : κ} (htop : top < x)
    (h : ∀ e ∈ l, e.1 < x) : (l.map (·.1)).foldl max top < x := by
  induction l generalizing top with
  | nil => exact htop
  | cons e l ih =>
    obtain ⟨he, hrest⟩ := List.forall_mem_cons.1 h
    exact ih (max_lt htop he) hrest

lemma Window.Above.next {w w' : Window} (h : w'.Above isoTime block ts)
    (hbefore : w.Before isoTime w') :
    w'.Above isoTime ((w.events.map (·.1)).foldl max block)
      (((timed isoTime w.messages).map (·.1)).foldl max ts) where
  events := fun e he => lt_foldl_max (h.events e he) fun e' he' => hbefore.events e' he' e he
  messages := fun m hm =>
    lt_foldl_max (h.messages m hm) fun m' hm' => hbefore.messages m' hm' m hm

/-- What a call returns of a window above the cursors. -/
lemma Window.Above.kept_perm {w : Window} (h : w.Above isoTime block ts) :
    ((kept interestingChain block w.events).map (fun e => Found.chain e.1 e.2) ++
      (kept interestingXmtp ts (timed isoTime w.messages)).map fun m => Found.xmtp m.1 m.2).Perm
      (w.interesting isoTime) := by
  have hevents : (kept interestingChain block w.events).Perm
      (interestingOf interestingChain (past block w.events)) := past_kept.all
  have hmessages : (kept interestingXmtp ts (timed isoTime w.messages)).Perm
      (interestingOf interestingXmtp (past ts (timed isoTime w.messages))) := past_kept.all
  rw [past_eq_self h.events] at hevents
  rw [past_eq_self h.messages] at hmessages
  exact (hevents.map _).append (hmessages.map _)

/-- Windows that follow each other return each interesting entry exactly once, unless one of them
raises. -/
lemma runWindows_iff {windows : List Window} (hwindows : windows.Pairwise (Window.Before isoTime))
    (habove : ∀ w ∈ windows, w.Above isoTime block ts) :
    (∃ found, runWindows isoTime (windows.map (·.payload)) block ts = some found ∧
        found.Perm (windows.flatMap (Window.interesting isoTime))) ↔
      ∀ w ∈ windows, w.Readable isoTime block ts := by
  induction windows generalizing block ts with
  | nil => simp [runWindows]
  | cons w windows ih =>
    obtain ⟨hbefore, hrest⟩ := List.pairwise_cons.1 hwindows
    obtain ⟨hw, hlater⟩ := List.forall_mem_cons.1 habove
    have hnext := fun w' hw' => (hlater w' hw').next (hbefore w' hw')
    have hreadable : (∀ w' ∈ windows, w'.Readable isoTime _ _) ↔
        ∀ w' ∈ windows, w'.Readable isoTime block ts :=
      forall₂_congr fun w' hw' => (hnext w' hw').readable_iff (hlater w' hw')
    rw [List.forall_mem_cons, ← hreadable, ← ih hrest hnext, List.flatMap_cons]
    simp only [List.map_cons, runWindows, Option.bind_eq_bind, Option.bind_eq_some_iff, Prod.exists,
      filterInteresting_eq_some, Option.pure_def, Option.some.injEq, Prod.mk.injEq]
    constructor
    · rintro ⟨_, ⟨_, _, _, ⟨hr, rfl, rfl, rfl⟩, later, hrun, rfl⟩, hperm⟩
      exact ⟨hr, later, hrun,
        (List.perm_append_left_iff _).1 ((hw.kept_perm.symm.append_right later).trans hperm)⟩
    · rintro ⟨hr, later, hrun, hperm⟩
      exact ⟨_, ⟨_, _, _, ⟨hr, rfl, rfl, rfl⟩, later, hrun, rfl⟩, hw.kept_perm.append hperm⟩

/-- On well-typed payloads a call returns the interesting entries past the cursors, by position, and
the largest positions, unless it looks up the type of an entry that is a list or a dict; permuting
the payload changes the result at most among entries of equal position; and windows of a history
that are read one after the other return each interesting entry exactly once, with the same
exception. -/
theorem filterInteresting_laws (isoTime : String → IsoResult) (block : ℤ) (ts : ℚ) :
    (∀ w : Window, (∃ r, filterInteresting isoTime w.payload block ts = some r ∧
      w.Exact isoTime block ts r) ↔ w.Readable isoTime block ts) ∧
    (∀ w w' : Window, w.events.Perm w'.events → w.messages.Perm w'.messages →
      ∀ r, filterInteresting isoTime w.payload block ts = some r →
        ∃ r', filterInteresting isoTime w'.payload block ts = some r' ∧ SameUpToTies r r') ∧
    ∀ windows : List Window, windows.Pairwise (Window.Before isoTime) →
      (∀ w ∈ windows, w.Above isoTime block ts) →
      ((∃ found, runWindows isoTime (windows.map (·.payload)) block ts = some found ∧
          found.Perm (windows.flatMap (Window.interesting isoTime))) ↔
        ∀ w ∈ windows, w.Readable isoTime block ts) :=
  ⟨fun w => exact_iff w block ts, fun _ _ hevents hmessages _ => same_of_perm hevents hmessages,
    fun _ => runWindows_iff⟩

/-- A payload of events, given by their blocks and types. -/
def eventsWindow (events : List (ℤ × Json)) : Window where
  payload := .obj [("events", .arr (events.map fun e => .obj [("type", e.2), ("block", .int e.1)]))]
  events := events.map fun e => (e.1, [("type", e.2), ("block", .int e.1)])
  messages := []
  typed := by
    refine ⟨_, rfl, ?_, ?_, rfl, by simp⟩
    · rw [List.map_map]
      rfl
    · intro e he
      obtain ⟨e, -, rfl⟩ := List.mem_map.1 he
      rfl

def sampleWindows : List Window :=
  [eventsWindow [(2, .str "VoteCast"), (1, .str "ProposalCreated")],
    eventsWindow [(3, .str "ProposalSettled")]]

theorem filterInteresting_laws_sample :
    ∃ found, runWindows (fun _ => .invalid) (sampleWindows.map (·.payload)) 0 0 = some found ∧
      found.Perm (sampleWindows.flatMap (Window.interesting fun _ => .invalid)) := by
  have hmessages : ∀ w ∈ sampleWindows, w.messages = [] := by
    rw [sampleWindows, List.forall_mem_cons, List.forall_mem_singleton]
    exact ⟨rfl, rfl⟩
  have hnone : ∀ w ∈ sampleWindows, timed (fun _ => .invalid) w.messages = [] := by
    intro w hw
    rw [hmessages w hw]
    rfl
  have hevents : ∀ w ∈ sampleWindows, ∀ e ∈ w.events, 0 < e.1 := by decide +kernel
  have htyped : ∀ w ∈ sampleWindows, ∀ e ∈ past 0 w.events, Typed e.2 := by
    unfold Typed
    decide +kernel
  refine ((filterInteresting_laws (fun _ => .invalid) 0 0).2.2 sampleWindows ?_ ?_).2 ?_
  · refine List.pairwise_pair.2 ⟨by decide +kernel, ?_⟩
    intro m hm
    simp [timed, eventsWindow] at hm
  · exact fun w hw => ⟨hevents w hw, by simp [hnone w hw]⟩
  · exact fun w hw => ⟨htyped w hw, by simp [hmessages w hw], by simp [hnone w hw, past]⟩

/-- The type of an event is a list: the lookup raises. -/
theorem list_type_raises :
    ¬∃ r, filterInteresting (fun _ => .invalid) (eventsWindow [(5, .arr [])]).payload 0 0 = some r ∧
      (eventsWindow [(5, .arr [])]).Exact (fun _ => .invalid) 0 0 r := by
  rintro ⟨r, hr, -⟩
  have hnone : filterInteresting (fun _ => .invalid) (eventsWindow [(5, .arr [])]).payload 0 0 = none :=
    rfl
  rw [hnone] at hr
  cases hr

end SherwoodMonitor.CronWindows
