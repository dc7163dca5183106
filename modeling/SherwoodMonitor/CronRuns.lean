import SherwoodMonitor.CronTick

/-! Runs of the digest's ticks. One after the other: what the saved cursor moves past is in a
result, unless the exposure lookups make a tick raise behind its save. -/
namespace SherwoodMonitor.CronTick
open PyText PyJson JsonRecords PyConvert Models

/-! ### Replies that aggregate -/

/-- A position that can be read: a dict, without a protocol or with a number in dollars. -/
def ReadablePosition (position : Json) : Prop :=
  ∃ fields, position.fieldsOf = some fields ∧
    (lower (getOr "protocol" (.str "") fields).toStr = "" ∨
      (toFloat (getOr "usd" (.int 0) fields)).isSome)

/-- A reply that can be read: none, an empty one, or a dict with a number of dollars and positions
that can be read. -/
def ReadableReply : Option Json → Prop
  | none => True
  | some info => info.truthy = true →
      ∃ fields, info.fieldsOf = some fields ∧ (toFloat (getOr "aumUsd" (.int 0) fields)).isSome ∧
        ∃ positions, iterate (if (getOr "positions" (.arr []) fields).truthy then
            getOr "positions" (.arr []) fields else .arr []) = some positions ∧
          ∀ position ∈ positions, ReadablePosition position

lemma addPosition_isSome {fund : String} {report : Exposure} {position : Json} :
    (addPosition fund report position).isSome ↔ ReadablePosition position := by
  rw [addPosition, ReadablePosition]
  cases hfields : position.fieldsOf with
  | none => simp
  | some fields =>
    simp only [Option.bind_eq_bind, Option.bind_some, Option.some.injEq, exists_eq_left']
    split_ifs with hprotocol
    · simp [hprotocol]
    · cases toFloat (getOr "usd" (.int 0) fields) <;> simp [hprotocol]

lemma foldlM_isSome {α σ : Type} {f : σ → α → Option σ} {P : α → Prop}
    (hf : ∀ s a, (f s a).isSome ↔ P a) (l : List α) (s : σ) :
    (l.foldlM f s).isSome ↔ ∀ a ∈ l, P a := by
  induction l generalizing s with
  | nil => simp
  | cons a l ih =>
    rw [List.foldlM_cons, List.forall_mem_cons, ← hf s a]
    cases hfa : f s a with
    | none => simp
    | some s' => simpa using ih s'

lemma addFund_isSome {report : Exposure} {reply : String × Option Json} :
    (addFund report reply).isSome ↔ ReadableReply reply.2 := by
  obtain ⟨fund, _ | info⟩ := reply
  · simp [addFund, ReadableReply]
  · rw [addFund, ReadableReply]
    split_ifs with htruthy
    · cases hfields : info.fieldsOf with
      | none => simp [htruthy]
      | some fields =>
        cases haum : toFloat (getOr "aumUsd" (.int 0) fields) with
        | none => simp [htruthy, haum]
        | some aum =>
          cases hpositions : iterate (if (getOr "positions" (.arr []) fields).truthy then
              getOr "positions" (.arr []) fields else .arr []) with
          | none => simp [htruthy, haum, hpositions]
          | some positions =>
            have hfold := @foldlM_isSome _ _ (addPosition fund) ReadablePosition
              (fun _ _ => addPosition_isSome) positions
            simp [htruthy, haum, hpositions, hfold]
    · simp [htruthy]

/-- The exposure is aggregated exactly where every reply can be read. -/
lemma aggregateExposure_isSome {replies : List (String × Option Json)} :
    (aggregateExposure replies).isSome ↔ ∀ reply ∈ replies, ReadableReply reply.2 :=
  @foldlM_isSome _ _ addFund (fun reply => ReadableReply reply.2) (fun _ _ => addFund_isSome)
    replies {}

/-- No exposure is asked for, or every reply can be read. -/
def Input.Readable (input : Input) : Prop :=
  ∀ threshold replies, input.lookups = some (threshold, replies) →
    ∀ reply ∈ replies, ReadableReply reply.2

lemma finish_isSome {fund : String} {events : List Found} {entry : Cursor} {lookups : Lookups} :
    (finish fund events entry lookups).isSome ↔
      ∀ threshold replies, lookups = some (threshold, replies) →
        ∀ reply ∈ replies, ReadableReply reply.2 := by
  cases lookups with
  | none => simp [finish]
  | some l =>
    obtain ⟨threshold, replies⟩ := l
    have hiff := @aggregateExposure_isSome replies
    cases hreport : aggregateExposure replies with
    | none =>
      rw [hreport] at hiff
      simp only [finish, hreport]
      refine ⟨fun h => (nomatch h), fun h => absurd (hiff.2 (h threshold replies rfl)) (by simp)⟩
    | some report =>
      rw [hreport] at hiff
      simp only [finish, hreport]
      refine ⟨fun _ t r heq => ?_, fun _ => rfl⟩
      obtain ⟨rfl, rfl⟩ := Prod.mk.inj (Option.some.inj heq)
      exact hiff.1 rfl

lemma events_finish {fund : String} {events : List Found} {entry : Cursor} {lookups : Lookups}
    {r : Result} (h : finish fund events entry lookups = some r) : r.events = events := by
  cases lookups with
  | none =>
    obtain rfl := Option.some.inj h
    rfl
  | some l =>
    simp only [finish, Option.bind_eq_bind, Option.bind_eq_some_iff, Option.pure_def,
      Option.some.injEq] at h
    obtain ⟨report, -, rfl⟩ := h
    rfl

/-! ### Ticks one after the other -/

/-- A tick of a run, with the file before and after it. -/
structure Ran where
  input : Input
  before : CursorFile
  after : CursorFile
  result : Option Result

section
variable (isoTime : String → IsoResult)

def ranTick (file : CursorFile) (input : Input) : Ran :=
  ⟨input, file, (cronTick isoTime file input).1, (cronTick isoTime file input).2⟩

def runTicks : CursorFile → List Input → List Ran
  | _, [] => []
  | file, input :: inputs =>
      ranTick isoTime file input :: runTicks (cronTick isoTime file input).1 inputs

/-- The tick's save moves the cursor of its fund past an interesting event that it found. -/
def Ran.Passes (ran : Ran) (e : Found) : Prop :=
  (∃ payload, ran.input.session = some payload ∧ e ∈ interestingIn isoTime payload) ∧
    e.Between (ran.before.cursor ran.input.fund) (ran.after.cursor ran.input.fund)

/-- Every interesting event that a save moves the cursor past is in a result that a tick of the
fund returned. -/
def AtLeastOnce (runs : List Ran) : Prop :=
  ∀ ran ∈ runs, ∀ e, ran.Passes isoTime e → ∃ other ∈ runs, other.input.fund = ran.input.fund ∧
    ∃ r, other.result = some r ∧ e ∈ r.events

end

variable {isoTime : String → IsoResult} {file : CursorFile} {input : Input}

@[simp] lemma cursor_update_self (fund : String) (entry : Cursor) :
    CursorFile.cursor (Function.update file fund (some entry)) fund = entry := by
  simp [CursorFile.cursor]

lemma cursor_update_of_ne {fund other : String} (hne : fund ≠ other) (entry : Cursor) :
    CursorFile.cursor (Function.update file other (some entry)) fund = file.cursor fund := by
  simp [CursorFile.cursor, Function.update_of_ne hne]

/-- A tick leaves the file, or saves the entry that it read the payload to. -/
lemma cronTick_cases (file : CursorFile) (input : Input) :
    (cronTick isoTime file input).1 = file ∧
      (∀ r, (cronTick isoTime file input).2 = some r → r.events = []) ∨
    ∃ payload events entry, input.session = some payload ∧
      readPayload isoTime (file.cursor input.fund) payload input.now = some (events, entry) ∧
      cronTick isoTime file input = (Function.update file input.fund (some entry),
        finish input.fund events entry input.lookups) := by
  rw [cronTick]
  cases hsession : input.session with
  | none =>
    refine Or.inl ⟨rfl, fun r hr => ?_⟩
    obtain rfl := Option.some.inj hr
    rfl
  | some payload =>
    dsimp only
    cases hread : readPayload isoTime (file.cursor input.fund) payload input.now with
    | none => exact Or.inl ⟨rfl, fun r hr => nomatch hr⟩
    | some found =>
      dsimp only
      split_ifs
      · exact Or.inr ⟨payload, found.1, found.2, rfl, hread, rfl⟩
      · exact Or.inl ⟨rfl, fun r hr => nomatch hr⟩

/-- A tick takes no cursor back. -/
lemma cursor_le_cronTick (file : CursorFile) (input : Input) (fund : String) :
    (file.cursor fund).Le ((cronTick isoTime file input).1.cursor fund) := by
  rcases @cronTick_cases isoTime file input with ⟨hfile, -⟩ | ⟨payload, events, entry, -, hread, heq⟩
  · rw [hfile]
    exact Cursor.Le.refl _
  · rw [heq]
    by_cases hfund : fund = input.fund
    · subst hfund
      rw [cursor_update_self]
      exact (readPayload_le hread).1
    · rw [cursor_update_of_ne hfund]
      exact Cursor.Le.refl _

/-- What a result has lies between the cursors before and after its tick. -/
lemma between_of_result {r : Result} (h : (cronTick isoTime file input).2 = some r) {e : Found}
    (he : e ∈ r.events) : e.Between (file.cursor input.fund)
      ((cronTick isoTime file input).1.cursor input.fund) := by
  rcases @cronTick_cases isoTime file input with ⟨-, hnone⟩ | ⟨payload, events, entry, -, hread, heq⟩
  · rw [hnone r h] at he
    cases he
  · rw [heq] at h ⊢
    rw [events_finish h] at he
    rw [cursor_update_self]
    exact (readPayload_le hread).2 e he

/-- A tick whose save moves the cursor past an event has it in its result, if it returns. -/
lemma result_of_passes {e : Found} (h : (ranTick isoTime file input).Passes isoTime e) :
    ((cronTick isoTime file input).2.isSome ↔ input.Readable) ∧
      ∀ r, (cronTick isoTime file input).2 = some r → e ∈ r.events := by
  obtain ⟨⟨payload, hsession, hinteresting⟩, hbetween⟩ := h
  rcases @cronTick_cases isoTime file input with ⟨hfile, -⟩ | ⟨payload', events, entry, hsession',
    hread, heq⟩
  · have hsame : (ranTick isoTime file input).after = file := hfile
    rw [hsame] at hbetween
    exact absurd (Found.not_between_of_le hbetween hbetween (Cursor.Le.refl _)) id
  · have hafter : (ranTick isoTime file input).after =
        Function.update file input.fund (some entry) := by
      rw [ranTick, heq]
    rw [hafter] at hbetween
    have hentry : e.Between (file.cursor input.fund) entry := by
      have hcursor := @cursor_update_self file input.fund entry
      rw [← hcursor]
      exact hbetween
    obtain rfl : payload' = payload := Option.some.inj (hsession'.symm.trans hsession)
    rw [heq]
    refine ⟨finish_isSome, fun r hr => ?_⟩
    rw [events_finish hr]
    exact mem_readPayload hread hinteresting hentry

lemma runTicks_from {inputs : List Input} {file : CursorFile} {ran : Ran}
    (h : ran ∈ runTicks isoTime file inputs) (fund : String) :
    (file.cursor fund).Le (ran.before.cursor fund) ∧
      ran = ranTick isoTime ran.before ran.input := by
  induction inputs generalizing file with
  | nil => cases h
  | cons input inputs ih =>
    rcases List.mem_cons.1 h with rfl | h
    · exact ⟨Cursor.Le.refl _, rfl⟩
    · exact ⟨(cursor_le_cronTick file input fund).trans (ih h).1, (ih h).2⟩

/-- A later tick begins where an earlier one ended, or further on. -/
lemma runTicks_pairwise (file : CursorFile) (inputs : List Input) (fund : String) :
    (runTicks isoTime file inputs).Pairwise fun a b =>
      (a.after.cursor fund).Le (b.before.cursor fund) := by
  induction inputs generalizing file with
  | nil => exact List.Pairwise.nil
  | cons input inputs ih =>
    exact List.pairwise_cons.2 ⟨fun b hb => (runTicks_from hb fund).1, ih _⟩

/-- What a save moves the cursor past is in a result exactly where no tick that moves it past
something fails to read the replies of its exposure lookups. -/
theorem digest_at_least_once_iff (file : CursorFile) (inputs : List Input) :
    AtLeastOnce isoTime (runTicks isoTime file inputs) ↔
      ∀ ran ∈ runTicks isoTime file inputs, (∃ e, ran.Passes isoTime e) → ran.input.Readable := by
  constructor
  · rintro h ran hran ⟨e, hpasses⟩
    obtain ⟨other, hother, hfund, r, hr, he⟩ := h ran hran e hpasses
    have hself := (runTicks_from hran ran.input.fund).2
    have hselfOther := (runTicks_from hother ran.input.fund).2
    have hbetween : e.Between (other.before.cursor ran.input.fund)
        (other.after.cursor ran.input.fund) := by
      rw [hselfOther] at hr ⊢
      rw [← hfund]
      exact between_of_result hr he
    -- two ticks of the fund cannot both move the cursor past the event
    have hsame : other = ran := by
      obtain ⟨i, hi, rfl⟩ := List.getElem_of_mem hran
      obtain ⟨j, hj, rfl⟩ := List.getElem_of_mem hother
      have hpairwise := List.pairwise_iff_getElem.1
        (@runTicks_pairwise isoTime file inputs (runTicks isoTime file inputs)[i].input.fund)
      rcases lt_trichotomy i j with hij | rfl | hji
      · exact (Found.not_between_of_le hpasses.2 hbetween (hpairwise i j hi hj hij)).elim
      · rfl
      · exact (Found.not_between_of_le hbetween hpasses.2 (hpairwise j i hj hi hji)).elim
    subst hsame
    rw [hself] at hpasses hr
    exact (result_of_passes hpasses).1.1 (Option.isSome_iff_exists.2 ⟨r, hr⟩)
  · intro h ran hran e hpasses
    have hself := (runTicks_from hran ran.input.fund).2
    have hreadable := h ran hran ⟨e, hpasses⟩
    refine ⟨ran, hran, rfl, ?_⟩
    rw [hself] at hpasses hreadable ⊢
    obtain ⟨hiff, hmem⟩ := result_of_passes hpasses
    obtain ⟨r, hr⟩ := Option.isSome_iff_exists.1 (hiff.2 hreadable)
    exact ⟨r, hr, hmem r hr⟩

/-- A new proposal, and a lookup that answers with a list. -/
def listReply : Input :=
  { fund := "alpha"
    session := some (.obj [("events", .arr [.obj [("type", .str "ProposalCreated"),
      ("block", .int 100)]])])
    now := 0
    lookups := some (30, [("alpha", some (.arr [.int 1]))]) }

theorem list_reply_loses_event :
    ¬ AtLeastOnce (fun _ => .invalid) (runTicks (fun _ => .invalid) (fun _ => none) [listReply]) := by
  intro h
  have hpasses : (ranTick (fun _ => .invalid) (fun _ => none) listReply).Passes (fun _ => .invalid)
      (.chain 100 [("type", .str "ProposalCreated"), ("block", .int 100)]) := by
    refine ⟨⟨_, rfl, ?_⟩, ?_⟩
    · simp [interestingIn, interestingOf, chainEvents, chainEvent, Json.fieldsOf, getOr, entry,
        iterate, toInt, inWords, interestingChain]
    · simp only [Found.Between]
      decide +kernel
  obtain ⟨other, hother, -, r, hr, -⟩ := h _ List.mem_cons_self _ hpasses
  obtain rfl := List.mem_singleton.1 hother
  have hnone : (cronTick (fun _ => .invalid) (fun _ => none) listReply).2.isNone = true := by
    decide +kernel
  have hsome : (cronTick (fun _ => .invalid) (fun _ => none) listReply).2 = some r := hr
  rw [hsome] at hnone
  cases hnone

end SherwoodMonitor.CronTick
