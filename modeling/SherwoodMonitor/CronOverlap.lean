import SherwoodMonitor.CronRuns

/-! Ticks at the same time. A tick reads the cursor file under the lock, lets go of it for the
session check, and writes under the lock again; any other tick may run in between. -/
namespace SherwoodMonitor.CronTick
open PyJson PyConvert Models

/-- Where a tick is. Behind the session check it has its events and the entry to save beside the
cursor that it began from. -/
inductive Stage
  | started
  | loaded (start : Cursor)
  | read (start : Cursor) (events : List Found) (entry : Cursor)
  | saved (start : Cursor) (events : List Found) (entry : Cursor)
  | returned (start : Cursor) (events : List Found) (entry : Cursor) (result : Option Result)
  | ended (result : Option Result)

structure Task where
  fund : String
  stage : Stage

structure World where
  file : CursorFile := fun _ => none
  tasks : List Task := []

/-- A tick begins or goes on to its next await. -/
inductive Move
  | begin (fund : String)
  | load (t : ℕ)
  | session (t : ℕ) (payload : Option Json) (now : ℤ)
  | save (t : ℕ) (writes : Bool)
  | finish (t : ℕ) (lookups : Lookups)

variable (isoTime : String → IsoResult)

namespace World

def goOn (w : World) (t : ℕ) (task : Task) (stage : Stage) : World :=
  { w with tasks := w.tasks.set t { task with stage } }

def step (w : World) : Move → World
  | .begin fund => { w with tasks := w.tasks ++ [⟨fund, .started⟩] }
  | .load t =>
      match w.tasks[t]? with
      | some ⟨fund, .started⟩ => w.goOn t ⟨fund, .started⟩ (.loaded (w.file.cursor fund))
      | _ => w
  | .session t payload now =>
      match w.tasks[t]? with
      | some ⟨fund, .loaded start⟩ =>
          match payload with
          | none => w.goOn t ⟨fund, .loaded start⟩ (.ended (some { fund, events := [] }))
          | some payload =>
              match readPayload isoTime start payload now with
              | none => w.goOn t ⟨fund, .loaded start⟩ (.ended none)
              | some (events, entry) =>
                  w.goOn t ⟨fund, .loaded start⟩ (.read start events entry)
      | _ => w
  | .save t writes =>
      match w.tasks[t]? with
      | some ⟨fund, .read start events entry⟩ =>
          if writes then
            { w.goOn t ⟨fund, .read start events entry⟩ (.saved start events entry) with
              file := Function.update w.file fund (some entry) }
          else w.goOn t ⟨fund, .read start events entry⟩ (.ended none)
      | _ => w
  | .finish t lookups =>
      match w.tasks[t]? with
      | some ⟨fund, .saved start events entry⟩ =>
          w.goOn t ⟨fund, .saved start events entry⟩
            (.returned start events entry (CronTick.finish fund events entry lookups))
      | _ => w

def run (w : World) (moves : List Move) : World := moves.foldl (step isoTime) w

end World

/-- The saved cursor of the fund is still the one that the tick began from, where this move saves. -/
def Unmoved (w : World) : Move → Prop
  | .save t true => ∀ fund start events entry, w.tasks[t]? = some ⟨fund, .read start events entry⟩ →
      (w.file.cursor fund).block = start.block ∧ (w.file.cursor fund).timestamp = start.timestamp
  | _ => True

def UnmovedRun : World → List Move → Prop
  | _, [] => True
  | w, move :: moves => Unmoved w move ∧ UnmovedRun (w.step isoTime move) moves

/-- What a tick has read from its payload, and what a tick has saved. -/
def Stage.read? : Stage → Option (Cursor × List Found × Cursor)
  | .read start events entry => some (start, events, entry)
  | .saved start events entry => some (start, events, entry)
  | .returned start events entry _ => some (start, events, entry)
  | _ => none

def Stage.saved? : Stage → Option (Cursor × List Found × Cursor)
  | .saved start events entry => some (start, events, entry)
  | .returned start events entry _ => some (start, events, entry)
  | _ => none

/-- The intervals that the saved ticks of a fund moved its cursor over lie one behind the other,
and none reaches past the saved cursor. -/
structure Disjoint (w : World) : Prop where
  between : ∀ {t : ℕ} {task : Task} {start events entry}, w.tasks[t]? = some task →
    task.stage.read? = some (start, events, entry) →
    start.Le entry ∧ ∀ e ∈ events, e.Between start entry
  behind : ∀ {t : ℕ} {task : Task} {start events entry}, w.tasks[t]? = some task →
    task.stage.saved? = some (start, events, entry) → entry.Le (w.file.cursor task.fund)
  apart : ∀ {t t' : ℕ} {task task' : Task} {start events entry start' events' entry'}, t ≠ t' →
    w.tasks[t]? = some task → w.tasks[t']? = some task' → task.fund = task'.fund →
    task.stage.saved? = some (start, events, entry) →
    task'.stage.saved? = some (start', events', entry') → entry.Le start' ∨ entry'.Le start
  results : ∀ {t : ℕ} {fund : String} {start events entry r},
    w.tasks[t]? = some ⟨fund, .returned start events entry (some r)⟩ → r.events = events

variable {isoTime} {w : World} {t : ℕ}

lemma getElem?_goOn {task new : Task} {stage : Stage} {t' : ℕ} (h : w.tasks[t]? = some task)
    (hnew : (w.goOn t task stage).tasks[t']? = some new) :
    t' = t ∧ new = { task with stage } ∨ t' ≠ t ∧ w.tasks[t']? = some new := by
  obtain ⟨ht, -⟩ := List.getElem?_eq_some_iff.1 h
  rw [World.goOn, List.getElem?_set] at hnew
  split_ifs at hnew with heq
  · exact Or.inl ⟨heq.symm, (Option.some.inj hnew).symm⟩
  · exact Or.inr ⟨Ne.symm heq, hnew⟩

/-- A tick goes on without saving, and has read what it may have. -/
lemma Disjoint.goOn (h : Disjoint w) {task : Task} {stage : Stage} (htask : w.tasks[t]? = some task)
    (hread : ∀ start events entry, stage.read? = some (start, events, entry) →
      start.Le entry ∧ ∀ e ∈ events, e.Between start entry)
    (hsaved : stage.saved? = task.stage.saved?)
    (hresult : ∀ start events entry r, stage = .returned start events entry (some r) →
      r.events = events) : Disjoint (w.goOn t task stage) where
  between hget hstage := by
    rcases getElem?_goOn htask hget with ⟨rfl, rfl⟩ | ⟨-, hget⟩
    · exact hread _ _ _ hstage
    · exact h.between hget hstage
  behind hget hstage := by
    rcases getElem?_goOn htask hget with ⟨rfl, rfl⟩ | ⟨-, hold⟩
    · have hbefore := h.behind htask (hsaved.symm.trans hstage)
      exact hbefore
    · exact h.behind hold hstage
  apart hne hget hget' hfund hstage hstage' := by
    rcases getElem?_goOn htask hget with ⟨rfl, rfl⟩ | ⟨-, hold⟩ <;>
      rcases getElem?_goOn htask hget' with ⟨rfl, rfl⟩ | ⟨-, hold'⟩
    · exact absurd rfl hne
    · have hapart := h.apart hne htask hold' hfund (hsaved.symm.trans hstage) hstage'
      exact hapart
    · have hapart := h.apart hne hold htask hfund hstage (hsaved.symm.trans hstage')
      exact hapart
    · exact h.apart hne hold hold' hfund hstage hstage'
  results hget := by
    rcases getElem?_goOn htask hget with ⟨rfl, heq⟩ | ⟨-, hget⟩
    · exact hresult _ _ _ _ (congrArg Task.stage heq).symm
    · exact h.results hget

/-- A tick saves where the saved cursor is still the one that it began from. -/
lemma Disjoint.save (h : Disjoint w) {fund : String} {start entry : Cursor} {events : List Found}
    (htask : w.tasks[t]? = some ⟨fund, .read start events entry⟩)
    (hunmoved : (w.file.cursor fund).Le start) :
    Disjoint { w.goOn t ⟨fund, .read start events entry⟩ (.saved start events entry) with
      file := Function.update w.file fund (some entry) } where
  between hget hstage := by
    rcases getElem?_goOn htask hget with ⟨rfl, rfl⟩ | ⟨-, hold⟩
    · have hbefore := h.between htask hstage
      exact hbefore
    · exact h.between hold hstage
  behind {t' task start' events' entry'} hget hstage := by
    rcases getElem?_goOn htask hget with ⟨rfl, rfl⟩ | ⟨-, hold⟩
    · obtain ⟨rfl, rfl, rfl⟩ : start = start' ∧ events = events' ∧ entry = entry' := by
        simpa [Stage.saved?] using hstage
      rw [cursor_update_self]
      exact Cursor.Le.refl _
    · have hbefore := h.behind hold hstage
      by_cases hfund : task.fund = fund
      · rw [hfund, cursor_update_self]
        rw [hfund] at hbefore
        exact hbefore.trans (hunmoved.trans (h.between htask rfl).1)
      · rw [cursor_update_of_ne hfund]
        exact hbefore
  apart {t₁ t₂ task₁ task₂ start₁ events₁ entry₁ start₂ events₂ entry₂} hne hget hget' hfund hstage
      hstage' := by
    rcases getElem?_goOn htask hget with ⟨rfl, rfl⟩ | ⟨-, hold⟩ <;>
      rcases getElem?_goOn htask hget' with ⟨rfl, rfl⟩ | ⟨-, hold'⟩
    · exact absurd rfl hne
    · obtain ⟨rfl, rfl, rfl⟩ : start = start₁ ∧ events = events₁ ∧ entry = entry₁ := by
        simpa [Stage.saved?] using hstage
      have hbehind := h.behind hold' hstage'
      rw [← hfund] at hbehind
      exact Or.inr (hbehind.trans hunmoved)
    · obtain ⟨rfl, rfl, rfl⟩ : start = start₂ ∧ events = events₂ ∧ entry = entry₂ := by
        simpa [Stage.saved?] using hstage'
      have hbehind := h.behind hold hstage
      rw [hfund] at hbehind
      exact Or.inl (hbehind.trans hunmoved)
    · exact h.apart hne hold hold' hfund hstage hstage'
  results hget := by
    rcases getElem?_goOn htask hget with ⟨rfl, heq⟩ | ⟨-, hold⟩
    · cases congrArg Task.stage heq
    · exact h.results hold

lemma Disjoint.begin_ (h : Disjoint w) (fund : String) :
    Disjoint { w with tasks := w.tasks ++ [⟨fund, .started⟩] } := by
  have hold : ∀ {t : ℕ} {task : Task}, (w.tasks ++ [⟨fund, .started⟩])[t]? = some task →
      w.tasks[t]? = some task ∨ task = ⟨fund, .started⟩ := by
    intro t task hget
    rw [List.getElem?_append] at hget
    split_ifs at hget
    · exact Or.inl hget
    · exact Or.inr (by simpa using List.mem_of_getElem? hget)
  constructor
  · intro t task start events entry hget hstage
    rcases hold hget with hget | rfl
    · exact h.between hget hstage
    · cases hstage
  · intro t task start events entry hget hstage
    rcases hold hget with hget | rfl
    · exact h.behind hget hstage
    · cases hstage
  · intro t t' task task' start events entry start' events' entry' hne hget hget' hfund hstage
      hstage'
    rcases hold hget with hget | rfl
    · rcases hold hget' with hget' | rfl
      · exact h.apart hne hget hget' hfund hstage hstage'
      · cases hstage'
    · cases hstage
  · intro t fund' start events entry r hget
    rcases hold hget with hget | heq
    · exact h.results hget
    · cases congrArg Task.stage heq

lemma Disjoint.step (h : Disjoint w) {move : Move} (hunmoved : Unmoved w move) :
    Disjoint (w.step isoTime move) := by
  cases move with
  | begin fund => exact h.begin_ fund
  | load t =>
    rw [World.step]
    split
    · next htask =>
      exact h.goOn htask (fun _ _ _ hr => nomatch hr) rfl fun _ _ _ _ hr => nomatch hr
    · exact h
  | session t payload now =>
    rw [World.step]
    split
    · next htask =>
      cases payload with
      | none => exact h.goOn htask (fun _ _ _ hr => nomatch hr) rfl fun _ _ _ _ hr => nomatch hr
      | some payload =>
        dsimp only
        split
        · exact h.goOn htask (fun _ _ _ hr => nomatch hr) rfl fun _ _ _ _ hr => nomatch hr
        · next events entry hread =>
          refine h.goOn htask (fun start' events' entry' hr => ?_) rfl fun _ _ _ _ hr => nomatch hr
          obtain ⟨rfl, rfl, rfl⟩ : _ = start' ∧ events = events' ∧ entry = entry' := by
            simpa [Stage.read?] using hr
          exact readPayload_le hread
    · exact h
  | save t writes =>
    rw [World.step]
    split
    · next fund start events entry htask =>
      cases writes with
      | false => exact h.goOn htask (fun _ _ _ hr => nomatch hr) rfl fun _ _ _ _ hr => nomatch hr
      | true =>
        obtain ⟨hblock, htime⟩ := hunmoved fund start events entry htask
        exact h.save htask ⟨hblock.le, htime.le⟩
    · exact h
  | finish t lookups =>
    rw [World.step]
    split
    · next fund start events entry htask =>
      refine h.goOn htask (fun start' events' entry' hr => ?_) rfl fun start' events' entry' r hr => ?_
      · exact h.between htask hr
      · obtain ⟨rfl, rfl, rfl, hresult⟩ := Stage.returned.inj hr
        exact events_finish hresult
    · exact h

lemma disjoint_start (file : CursorFile) : Disjoint { file } := by
  constructor <;> intros <;> simp_all

lemma disjoint_run (h : Disjoint w) {moves : List Move} (hunmoved : UnmovedRun isoTime w moves) :
    Disjoint (w.run isoTime moves) := by
  induction moves generalizing w with
  | nil => exact h
  | cons move moves ih => exact ih (h.step hunmoved.1) hunmoved.2

/-- Only a save changes the file, and only the entry of its fund. -/
lemma file_step (w : World) (move : Move) :
    (w.step isoTime move).file = w.file ∨
      ∃ t fund start events entry, move = .save t true ∧
        w.tasks[t]? = some ⟨fund, .read start events entry⟩ ∧
        (w.step isoTime move).file = Function.update w.file fund (some entry) := by
  cases move with
  | begin fund => exact Or.inl rfl
  | load t =>
    rw [World.step]
    split <;> exact Or.inl rfl
  | session t payload now =>
    rw [World.step]
    split
    · cases payload with
      | none => exact Or.inl rfl
      | some payload =>
        dsimp only
        split <;> exact Or.inl rfl
    · exact Or.inl rfl
  | save t writes =>
    cases htask : w.tasks[t]? with
    | none =>
      exact Or.inl (by simp only [World.step, htask])
    | some task =>
      obtain ⟨fund, stage⟩ := task
      cases stage with
      | read start events entry =>
        cases writes with
        | false =>
          refine Or.inl ?_
          rw [World.step, htask]
          rfl
        | true =>
          refine Or.inr ⟨t, fund, start, events, entry, rfl, htask, ?_⟩
          simp only [World.step, htask, if_true]
      | _ => exact Or.inl (by simp only [World.step, htask])
  | finish t lookups =>
    rw [World.step]
    split <;> exact Or.inl rfl

/-- The tick saved its cursor and returned a result. -/
def World.Returned (w : World) (t : ℕ) (fund : String) (r : Result) : Prop :=
  ∃ (start : Cursor) (events : List Found) (entry : Cursor),
    w.tasks[t]? = some ⟨fund, .returned start events entry (some r)⟩

/-- The move saves the cursor of a tick of the fund. -/
def Move.isOf (w : World) (fund : String) : Move → Prop
  | .save t _ => ∃ stage, w.tasks[t]? = some ⟨fund, stage⟩
  | _ => False

lemma unmovedRun_append {before after : List Move} (h : UnmovedRun isoTime w (before ++ after)) :
    UnmovedRun isoTime w before ∧ UnmovedRun isoTime (w.run isoTime before) after := by
  induction before generalizing w with
  | nil => exact ⟨trivial, h⟩
  | cons move moves ih =>
    obtain ⟨hmoves, hafter⟩ := ih h.2
    exact ⟨⟨h.1, hmoves⟩, hafter⟩

/-- Where every tick saves while its fund's saved cursor is still the one that it began from: no
step takes a cursor back, only a tick of a fund changes its cursor, and no two ticks that saved
return one event. -/
theorem cursors_advance {file : CursorFile} {moves : List Move}
    (h : UnmovedRun isoTime { file } moves) :
    (∀ before move after, moves = before ++ move :: after → ∀ fund,
      ((World.run isoTime { file } before).file.cursor fund).Le
        (((World.run isoTime { file } before).step isoTime move).file.cursor fund) ∧
      (((World.run isoTime { file } before).step isoTime move).file fund ≠
        (World.run isoTime { file } before).file fund →
          move.isOf (World.run isoTime { file } before) fund)) ∧
    ∀ t t' fund r r', t ≠ t' → (World.run isoTime { file } moves).Returned t fund r →
      (World.run isoTime { file } moves).Returned t' fund r' → ∀ e ∈ r.events, e ∉ r'.events := by
  constructor
  · rintro before move after rfl fund
    obtain ⟨hbefore, hmove, -⟩ := unmovedRun_append h
    have hdisjoint := disjoint_run (disjoint_start file) hbefore
    set w := World.run isoTime { file } before
    rcases @file_step isoTime w move with hfile | ⟨t, fund', start, events, entry, rfl, htask, hfile⟩
    · rw [hfile]
      exact ⟨Cursor.Le.refl _, fun hne => absurd rfl hne⟩
    · rw [hfile]
      by_cases hfund : fund = fund'
      · subst hfund
        rw [cursor_update_self]
        obtain ⟨hblock, htime⟩ := hmove fund start events entry htask
        exact ⟨Cursor.Le.trans ⟨hblock.le, htime.le⟩ (hdisjoint.between htask rfl).1,
          fun _ => ⟨_, htask⟩⟩
      · rw [cursor_update_of_ne hfund, Function.update_of_ne hfund]
        exact ⟨Cursor.Le.refl _, fun hne => absurd rfl hne⟩
  · rintro t t' fund r r' hne ⟨start, events, entry, hget⟩ ⟨start', events', entry', hget'⟩ e he he'
    have hdisjoint := disjoint_run (disjoint_start file) h
    have hbetween := (hdisjoint.between hget rfl).2 e (hdisjoint.results hget ▸ he)
    have hbetween' := (hdisjoint.between hget' rfl).2 e (hdisjoint.results hget' ▸ he')
    rcases hdisjoint.apart hne hget hget' rfl rfl rfl with hle | hle
    · exact Found.not_between_of_le hbetween hbetween' hle
    · exact Found.not_between_of_le hbetween' hbetween hle

lemma unmoved_of_all (h : (w.tasks[t]?).all (fun task => match task.stage with
      | .read start _ _ => (w.file.cursor task.fund).block = start.block &&
          (w.file.cursor task.fund).timestamp = start.timestamp
      | _ => true) = true) : Unmoved w (.save t true) := by
  intro fund start events entry htask
  simpa [htask] using h

/-- A session check that finds a new proposal at the block. -/
def proposalAt (block : ℤ) : Json :=
  .obj [("events", .arr [.obj [("type", .str "ProposalCreated"), ("block", .int block)]])]

/-- Two ticks of the fund, one behind the other. -/
def oneByOne : List Move :=
  [.begin "alpha", .load 0, .session 0 (some (proposalAt 100)) 0, .save 0 true, .finish 0 none,
    .begin "alpha", .load 1, .session 1 (some (proposalAt 200)) 0, .save 1 true, .finish 1 none]

theorem cursors_advance_oneByOne :
    ((World.run (fun _ => .invalid) {} (oneByOne.take 8)).file.cursor "alpha").Le
      (((World.run (fun _ => .invalid) {} (oneByOne.take 8)).step (fun _ => .invalid)
        (.save 1 true)).file.cursor "alpha") := by
  have hunmoved : UnmovedRun (fun _ => .invalid) {} oneByOne := by
    refine ⟨trivial, trivial, trivial, unmoved_of_all ?_, trivial, trivial, trivial, trivial,
      unmoved_of_all ?_, trivial, trivial⟩ <;> decide +kernel
  exact ((cursors_advance hunmoved).1 (oneByOne.take 8) (.save 1 true) [.finish 1 none] rfl
    "alpha").1

/-- Two ticks of the fund that both begin from block 0: the second one to save takes the cursor
back to where it found its event. -/
def overlapping : List Move :=
  [.begin "alpha", .begin "alpha", .load 0, .load 1, .session 0 (some (proposalAt 200)) 0,
    .save 0 true, .session 1 (some (proposalAt 100)) 0, .save 1 true]

theorem overlapping_takes_cursor_back :
    ¬ ((World.run (fun _ => .invalid) {} overlapping.dropLast).file.cursor "alpha").Le
      ((World.run (fun _ => .invalid) {} overlapping).file.cursor "alpha") := by
  intro h
  have hblock : ¬ ((World.run (fun _ => .invalid) {} overlapping.dropLast).file.cursor
      "alpha").block ≤
      ((World.run (fun _ => .invalid) {} overlapping).file.cursor "alpha").block := by
    decide +kernel
  exact hblock h.block

end SherwoodMonitor.CronTick
