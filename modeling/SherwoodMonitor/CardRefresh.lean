import Mathlib.Logic.Function.Basic
import SherwoodMonitor.Library.Table

/-! The refresh loops of live cards (`telegram/cards_live.py`), run by a job queue or, without one,
by tasks of the event loop. -/
namespace SherwoodMonitor.CardRefresh
open Table

/-- Where a loop stands. A task that has not run yet is `created`; a job between its runs, and a
task that sleeps, is `waiting`. -/
inductive Phase
  | created
  | waiting
  | ticking
  | done
  deriving DecidableEq

/-- A job or a task, and whether it has been removed from the queue or cancelled. -/
structure Loop where
  key : String
  phase : Phase
  stopped : Bool := false
  deriving DecidableEq

/-- The loop goes on. -/
def Loop.live (l : Loop) : Bool := !l.stopped && decide (l.phase ≠ .done)

/-- `LiveCards`, whether it has a job queue, and the loops that it has ever started. -/
structure Cards where
  queue : Bool
  loops : List Loop := []
  jobs : String → Option ℕ := fun _ => none
  tasks : String → Option ℕ := fun _ => none

/-- `d.pop(key, None)`. -/
def pop (d : String → Option ℕ) (key : String) : String → Option ℕ := Function.update d key none

namespace Cards

def isRefreshing (s : Cards) (key : String) : Bool := (s.jobs key).isSome || (s.tasks key).isSome

def startRefresh (s : Cards) (key : String) : Cards :=
  if s.isRefreshing key then s
  else if s.queue then
    { s with
      loops := s.loops ++ [{ key, phase := .waiting }]
      jobs := Function.update s.jobs key (some s.loops.length) }
  else
    { s with
      loops := s.loops ++ [{ key, phase := .created }]
      tasks := Function.update s.tasks key (some s.loops.length) }

/-- `job.schedule_removal()` and `task.cancel()`. -/
def halt (loops : List Loop) (i : ℕ) : List Loop :=
  loops.modify i fun l => { l with stopped := true }

def isDone (loops : List Loop) (i : ℕ) : Bool :=
  (loops[i]?).any fun l => l.phase = .done

/-- `stop_refresh`, called by a task that may be a loop itself. -/
def stopRefresh (s : Cards) (key : String) (caller : Option ℕ) : Cards :=
  let loops :=
    match s.jobs key with
    | some i => halt s.loops i
    | none => s.loops
  let loops :=
    match s.tasks key with
    | some i => if isDone loops i ∨ caller = some i then loops else halt loops i
    | none => loops
  { s with loops, jobs := pop s.jobs key, tasks := pop s.tasks key }

def enter (s : Cards) (i : ℕ) (l : Loop) (phase : Phase) : Cards :=
  { s with loops := s.loops.set i { l with phase } }

/-- The task ends: the `finally` of `_loop`. -/
def unwind (s : Cards) (i : ℕ) (l : Loop) : Cards :=
  { s.enter i l .done with tasks := pop s.tasks l.key }

/-- The event loop runs the loop up to its next wait; a task that is cancelled before it ran does
not reach its `finally`, and a removed job does not run again. -/
def resume (s : Cards) (i : ℕ) : Cards :=
  match s.loops[i]? with
  | none => s
  | some l =>
      match l.phase with
      | .created => s.enter i l (if l.stopped then .done else .waiting)
      | .waiting =>
          if l.stopped then if s.queue then s else s.unwind i l
          else s.enter i l .ticking
      | _ => s

/-- The tick of a loop ends; what `_safe_tick` returns is `keep`. A task that was cancelled meanwhile
unwinds. -/
def endTick (s : Cards) (i : ℕ) (keep : Bool) : Cards :=
  match s.loops[i]? with
  | none => s
  | some l =>
      match l.phase with
      | .ticking =>
          if s.queue then
            if keep then s.enter i l .waiting else (s.enter i l .waiting).stopRefresh l.key none
          else if l.stopped || !keep then s.unwind i l
          else s.enter i l .waiting
      | _ => s

end Cards

inductive Move
  | start (key : String)
  | stop (key : String) (caller : Option ℕ)
  | resume (i : ℕ)
  | endTick (i : ℕ) (keep : Bool)

def step (s : Cards) : Move → Cards
  | .start key => s.startRefresh key
  | .stop key caller => s.stopRefresh key caller
  | .resume i => s.resume i
  | .endTick i keep => s.endTick i keep

def run (s : Cards) (moves : List Move) : Cards := moves.foldl step s

/-- The loop at a place is live and has the key. -/
def LiveAt (loops : List Loop) (key : String) (i : ℕ) : Prop :=
  ∃ l : Loop, loops[i]? = some l ∧ l.key = key ∧ l.live = true

/-- At most one loop of each key is live, and the key is refreshing exactly when one is. -/
structure Sound (s : Cards) : Prop where
  once : ∀ key i j, LiveAt s.loops key i → LiveAt s.loops key j → i = j
  refreshing : ∀ key, s.isRefreshing key = true ↔ ∃ i, LiveAt s.loops key i

/-- Only a stop of its key or its own final tick ends a live loop. -/
def EndsOnly (s : Cards) (move : Move) : Prop :=
  ∀ key i, LiveAt s.loops key i → ¬LiveAt (step s move).loops key i →
    (∃ caller, move = .stop key caller) ∨ move = .endTick i false

/-- This holds in every state of the run and at every step. -/
def Holds (s : Cards) : List Move → Prop
  | [] => Sound s
  | move :: moves => Sound s ∧ EndsOnly s move ∧ Holds (step s move) moves

/-- A loop that was stopped unwinds, or ends its last tick, before a newer loop of its key is
started, and no task stops its own key. -/
def Fine (s : Cards) : Move → Prop
  | .start _ => True
  | .stop key caller => ∀ i, caller = some i → s.tasks key ≠ some i
  | .resume i => ∀ l, s.loops[i]? = some l → l.phase = .waiting → l.stopped = true →
      s.tasks l.key = none
  | .endTick i keep => ∀ l, s.loops[i]? = some l → l.phase = .ticking → l.stopped = true →
      (s.queue = true → keep = false → s.jobs l.key = none) ∧ s.tasks l.key = none

def FineRun (s : Cards) : List Move → Prop
  | [] => True
  | move :: moves => Fine s move ∧ FineRun (step s move) moves

/-! ### The registered loops -/

/-- The map that the loops are registered in, and the one that stays empty. -/
def entry (s : Cards) : String → Option ℕ := if s.queue then s.jobs else s.tasks

def idle (s : Cards) : String → Option ℕ := if s.queue then s.tasks else s.jobs

/-- The entry of a key is its live loop. -/
structure Registered (s : Cards) : Prop where
  entry : ∀ key i, entry s key = some i ↔ LiveAt s.loops key i
  idle : ∀ key, idle s key = none

variable {s s' : Cards} {loops : List Loop} {i j : ℕ} {l l' : Loop} {key : String}

lemma Registered.isRefreshing (h : Registered s) (key : String) :
    s.isRefreshing key = (CardRefresh.entry s key).isSome := by
  have hidle := h.idle key
  rw [CardRefresh.idle] at hidle
  rw [Cards.isRefreshing, CardRefresh.entry]
  cases hq : s.queue <;> simp [hq] at hidle ⊢ <;> simp [hidle]

lemma Registered.sound (h : Registered s) : Sound s where
  once key i j hi hj :=
    Option.some.inj (((h.entry key i).2 hi).symm.trans ((h.entry key j).2 hj))
  refreshing key := by
    rw [h.isRefreshing, Option.isSome_iff_exists]
    exact exists_congr (h.entry key)

lemma liveAt_set_same (hl : loops[i]? = some l) (hkey : l'.key = l.key) (hlive : l'.live = l.live) :
    LiveAt (loops.set i l') key j ↔ LiveAt loops key j := by
  by_cases hji : j = i
  · subst hji
    rw [LiveAt, LiveAt, set_self hl, hl]
    simp [hkey, hlive]
  · rw [LiveAt, LiveAt, List.getElem?_set_ne (Ne.symm hji)]

lemma liveAt_set_dead (hl : loops[i]? = some l) (hdead : l'.live = false) :
    LiveAt (loops.set i l') key j ↔ LiveAt loops key j ∧ j ≠ i := by
  by_cases hji : j = i
  · subst hji
    rw [LiveAt, set_self hl]
    simp [hdead]
  · rw [LiveAt, LiveAt, List.getElem?_set_ne (Ne.symm hji)]
    simp [hji]

lemma liveAt_halt : LiveAt (Cards.halt loops i) key j ↔ LiveAt loops key j ∧ j ≠ i := by
  rw [LiveAt, LiveAt, Cards.halt, List.getElem?_modify]
  by_cases hji : j = i
  · subst hji
    cases loops[j]? <;> simp [Loop.live]
  · cases loops[j]? <;> simp [Ne.symm hji, hji]

lemma liveAt_concat (hlive : l.live = true) :
    LiveAt (loops ++ [l]) key j ↔ LiveAt loops key j ∨ j = loops.length ∧ l.key = key := by
  constructor
  · rintro ⟨l', hl', rfl, hlive'⟩
    rcases concat_cases hl' with ⟨hj, rfl⟩ | hold
    · exact Or.inr ⟨hj, rfl⟩
    · exact Or.inl ⟨l', hold, rfl, hlive'⟩
  · rintro (⟨l', hl', hkey, hlive'⟩ | ⟨rfl, hkey⟩)
    · exact ⟨l', concat_old hl', hkey, hlive'⟩
    · exact ⟨l, concat_new, hkey, hlive⟩

/-- A step that keeps the entries and what is live. -/
lemma Registered.keep (h : Registered s) (hentry : CardRefresh.entry s' = CardRefresh.entry s)
    (hidle : CardRefresh.idle s' = CardRefresh.idle s)
    (hlive : ∀ key j, LiveAt s'.loops key j ↔ LiveAt s.loops key j) : Registered s' where
  entry key i := by rw [hentry, h.entry, hlive]
  idle key := by rw [hidle, h.idle]

/-- A step that ends what is registered under a key. -/
lemma Registered.drop (h : Registered s) (key : String)
    (hentry : CardRefresh.entry s' = pop (CardRefresh.entry s) key)
    (hidle : ∀ k, CardRefresh.idle s' k = none)
    (hlive : ∀ k j, LiveAt s'.loops k j ↔ LiveAt s.loops k j ∧ k ≠ key) : Registered s' where
  entry k i := by
    rw [hentry, hlive, pop]
    by_cases hk : k = key
    · subst hk
      simp
    · rw [Function.update_of_ne hk, h.entry]
      simp [hk]
  idle := hidle

lemma pop_none {d : String → Option ℕ} (hd : ∀ k, d k = none) (key k : String) :
    pop d key k = none := by
  rw [pop, Function.update_apply]
  split
  · rfl
  · exact hd k

lemma LiveAt.key_eq {k : String} (h : LiveAt loops key i) (h' : LiveAt loops k i) : key = k := by
  obtain ⟨l, hl, rfl, -⟩ := h
  obtain ⟨l', hl', rfl, -⟩ := h'
  rw [Option.some.inj (hl.symm.trans hl')]

/-- The loop that is not the entry of a key is of another key. -/
lemma Registered.ne_iff (h : Registered s) (hi : CardRefresh.entry s key = some i) {k : String}
    (hj : LiveAt s.loops k j) : j ≠ i ↔ k ≠ key := by
  have hlive := (h.entry key i).1 hi
  constructor
  · rintro hji rfl
    exact hji (Option.some.inj (((h.entry k j).2 hj).symm.trans hi))
  · rintro hk rfl
    exact hk (hj.key_eq hlive)

lemma LiveAt.not_done (h : LiveAt loops key i) : Cards.isDone loops i = false := by
  obtain ⟨l, hl, -, hlive⟩ := h
  simp only [Loop.live, Bool.and_eq_true, Bool.not_eq_true', decide_eq_true_eq] at hlive
  simp [Cards.isDone, hl, hlive.2]

/-- The loops after `stop_refresh`: the one that was registered is halted. -/
lemma loops_stopRefresh (h : Registered s) {caller : Option ℕ}
    (hcaller : ∀ i, caller = some i → s.tasks key ≠ some i) :
    (s.stopRefresh key caller).loops =
      match entry s key with
      | some i => Cards.halt s.loops i
      | none => s.loops := by
  have hidle := h.idle key
  have hentry := h.entry key
  rw [idle] at hidle
  rw [entry] at hentry ⊢
  cases hq : s.queue with
  | true =>
    simp only [hq, if_true] at hidle ⊢
    simp only [Cards.stopRefresh, hidle]
  | false =>
    simp only [hq, Bool.false_eq_true, if_false] at hidle hentry ⊢
    simp only [Cards.stopRefresh, hidle]
    cases htask : s.tasks key with
    | none => rfl
    | some i =>
      have hdone := ((hentry i).1 htask).not_done
      have hne : caller ≠ some i := fun heq => hcaller i heq htask
      simp [hdone, hne]

lemma stopRefresh_spec (h : Registered s) {caller : Option ℕ}
    (hcaller : ∀ i, caller = some i → s.tasks key ≠ some i) :
    Registered (s.stopRefresh key caller) ∧
      ∀ k j, LiveAt (s.stopRefresh key caller).loops k j ↔ LiveAt s.loops k j ∧ k ≠ key := by
  have hlive : ∀ k j, LiveAt (s.stopRefresh key caller).loops k j ↔ LiveAt s.loops k j ∧ k ≠ key := by
    intro k j
    rw [loops_stopRefresh h hcaller]
    cases hentry : entry s key with
    | none =>
      refine ⟨fun hj => ⟨hj, ?_⟩, fun hj => hj.1⟩
      rintro rfl
      simp [(h.entry k j).2 hj] at hentry
    | some i =>
      dsimp only
      rw [liveAt_halt]
      exact and_congr_right fun hj => h.ne_iff hentry hj
  refine ⟨h.drop key ?_ ?_ hlive, hlive⟩
  · exact (apply_ite (fun d => pop d key) (s.queue = true) s.jobs s.tasks).symm
  · intro k
    have hpop := apply_ite (fun d => pop d key) (s.queue = true) s.tasks s.jobs
    exact (congrFun hpop.symm k).trans (pop_none h.idle key k)

lemma startRefresh_spec (h : Registered s) (key : String) :
    Registered (s.startRefresh key) ∧
      ∀ k j, LiveAt s.loops k j → LiveAt (s.startRefresh key).loops k j := by
  rw [Cards.startRefresh]
  cases href : s.isRefreshing key with
  | true => exact ⟨h, fun _ _ => id⟩
  | false =>
    have hnone : entry s key = none := by
      rw [h.isRefreshing] at href
      exact Option.not_isSome_iff_eq_none.1 (by simp [href])
    -- the new loop is the only live one of its key
    have hregistered : ∀ {s' : Cards} {phase : Phase}, phase ≠ .done →
        s'.loops = s.loops ++ [⟨key, phase, false⟩] →
        entry s' = Function.update (entry s) key (some s.loops.length) →
        (∀ k, idle s' k = none) → Registered s' := by
      intro s' phase hphase hloops hentry hidle
      refine ⟨fun k i => ?_, hidle⟩
      rw [hentry, hloops, liveAt_concat (by simp [Loop.live, hphase]), ← h.entry]
      by_cases hk : k = key
      · subst hk
        simp [hnone, eq_comm]
      · simp [hk, Ne.symm hk]
    have hidle := h.idle
    cases hq : s.queue with
    | true =>
      refine ⟨hregistered (by decide) rfl ?_ ?_, fun k j hj => ?_⟩
      · simp [entry, hq]
      · simpa [idle, hq] using hidle
      · exact (liveAt_concat rfl).2 (Or.inl hj)
    | false =>
      refine ⟨hregistered (by decide) rfl ?_ ?_, fun k j hj => ?_⟩
      · simp [entry, hq]
      · simpa [idle, hq] using hidle
      · exact (liveAt_concat rfl).2 (Or.inl hj)

/-- What the steps of a loop do to the loop itself. -/
lemma enter_spec (h : Registered s) (hl : s.loops[i]? = some l) {phase : Phase}
    (hlive : ({ l with phase } : Loop).live = l.live) :
    Registered (s.enter i l phase) ∧
      ∀ k j, LiveAt (s.enter i l phase).loops k j ↔ LiveAt s.loops k j := by
  have hiff : ∀ k j, LiveAt (s.enter i l phase).loops k j ↔ LiveAt s.loops k j :=
    fun k j => liveAt_set_same hl rfl hlive
  exact ⟨h.keep rfl rfl hiff, hiff⟩

/-- A task that unwinds is the one registered, or it was stopped and none is. -/
lemma unwind_spec (h : Registered s) (hq : s.queue = false) (hl : s.loops[i]? = some l)
    (hphase : l.phase ≠ .done) (hstopped : l.stopped = true → s.tasks l.key = none) :
    Registered (s.unwind i l) ∧
      ∀ k j, LiveAt s.loops k j → LiveAt (s.unwind i l).loops k j ∨ l.stopped = false ∧ j = i := by
  have hdead : ({ l with phase := .done } : Loop).live = false := by simp [Loop.live]
  have hset : ∀ k j, LiveAt (s.unwind i l).loops k j ↔ LiveAt s.loops k j ∧ j ≠ i :=
    fun k j => liveAt_set_dead hl hdead
  have hentry : entry s = s.tasks := by simp [entry, hq]
  have hown : ∀ k j, LiveAt s.loops k j → (j ≠ i ↔ k ≠ l.key) := by
    intro k j hj
    cases hstop : l.stopped with
    | true =>
      have hnone := hstopped hstop
      constructor
      · rintro - rfl
        rw [← hentry, (h.entry _ j).2 hj] at hnone
        cases hnone
      · rintro - rfl
        obtain ⟨l', hl', -, hlive⟩ := hj
        obtain rfl := Option.some.inj (hl.symm.trans hl')
        simp [Loop.live, hstop] at hlive
    | false =>
      have hlive : LiveAt s.loops l.key i := ⟨l, hl, rfl, by simp [Loop.live, hstop, hphase]⟩
      exact h.ne_iff ((h.entry _ i).2 hlive) hj
  refine ⟨h.drop l.key ?_ ?_ fun k j => ?_, fun k j hj => ?_⟩
  · simp [entry, hq, Cards.unwind, Cards.enter]
  · have hidle := h.idle
    simpa [idle, hq, Cards.unwind, Cards.enter] using hidle
  · rw [hset]
    exact and_congr_right (hown k j)
  · rw [hset]
    by_cases hji : j = i
    · cases hstop : l.stopped with
      | true =>
        subst hji
        obtain ⟨l', hl', -, hlive⟩ := hj
        obtain rfl := Option.some.inj (hl.symm.trans hl')
        simp [Loop.live, hstop] at hlive
      | false => exact Or.inr ⟨rfl, hji⟩
    · exact Or.inl ⟨hj, hji⟩

/-- Running a loop up to its next wait ends no live one. -/
lemma resume_spec (h : Registered s) (hfine : Fine s (.resume i)) :
    Registered (s.resume i) ∧
      ∀ k j, LiveAt (s.resume i).loops k j ↔ LiveAt s.loops k j := by
  rw [Cards.resume]
  cases hl : s.loops[i]? with
  | none => exact ⟨h, fun _ _ => Iff.rfl⟩
  | some l =>
    have hf := hfine l hl
    obtain ⟨key, phase, stopped⟩ := l
    cases phase with
    | created => cases stopped <;> exact enter_spec h hl rfl
    | waiting =>
      cases stopped with
      | false => exact enter_spec h hl rfl
      | true =>
        cases hq : s.queue with
        | true => exact ⟨h, fun _ _ => Iff.rfl⟩
        | false =>
          obtain ⟨hreg, hkept⟩ := unwind_spec h hq hl (by simp) fun _ => hf rfl rfl
          refine ⟨hreg, fun k j => ⟨fun hj => ?_, fun hj => ?_⟩⟩
          · exact ((liveAt_set_dead hl rfl).1 hj).1
          · exact (hkept k j hj).resolve_right fun hstop => nomatch hstop.1
    | ticking => exact ⟨h, fun _ _ => Iff.rfl⟩
    | done => exact ⟨h, fun _ _ => Iff.rfl⟩

/-- The end of a tick ends no live loop but its own, at the final tick. -/
lemma endTick_spec (h : Registered s) {keep : Bool} (hfine : Fine s (.endTick i keep)) :
    Registered (s.endTick i keep) ∧
      ∀ k j, LiveAt s.loops k j → LiveAt (s.endTick i keep).loops k j ∨ j = i ∧ keep = false := by
  rw [Cards.endTick]
  cases hl : s.loops[i]? with
  | none => exact ⟨h, fun _ _ hj => Or.inl hj⟩
  | some l =>
    have hf := hfine l hl
    obtain ⟨key, phase, stopped⟩ := l
    cases phase with
    | ticking =>
      have hentered := @enter_spec s i _ h hl .waiting rfl
      cases hq : s.queue with
      | true =>
        cases keep with
        | true => exact ⟨hentered.1, fun k j hj => Or.inl ((hentered.2 k j).2 hj)⟩
        | false =>
          obtain ⟨hreg, hlive⟩ :=
            @stopRefresh_spec _ key hentered.1 none fun _ hnone => (nomatch hnone)
          refine ⟨hreg, fun k j hj => ?_⟩
          by_cases hk : k = key
          · subst hk
            refine Or.inr ⟨?_, rfl⟩
            have hentry := (h.entry k j).2 hj
            cases stopped with
            | true =>
              have hnone := (hf rfl rfl).1 hq rfl
              simp only [entry, hq, if_true] at hentry
              rw [hnone] at hentry
              cases hentry
            | false =>
              have hself := (h.entry k i).2 ⟨_, hl, rfl, rfl⟩
              exact Option.some.inj (hentry.symm.trans hself)
          · exact Or.inl ((hlive k j).2 ⟨(hentered.2 k j).2 hj, hk⟩)
      | false =>
        cases stopped with
        | true =>
          obtain ⟨hreg, hkept⟩ := unwind_spec h hq hl (by simp) fun _ => (hf rfl rfl).2
          exact ⟨hreg, fun k j hj => Or.inl
            ((hkept k j hj).resolve_right fun hstop => nomatch hstop.1)⟩
        | false =>
          cases keep with
          | true => exact ⟨hentered.1, fun k j hj => Or.inl ((hentered.2 k j).2 hj)⟩
          | false =>
            obtain ⟨hreg, hkept⟩ := unwind_spec h hq hl (by simp) fun hstop => nomatch hstop
            exact ⟨hreg, fun k j hj => (hkept k j hj).imp_right fun hself => ⟨hself.2, rfl⟩⟩
    | _ => exact ⟨h, fun _ _ hj => Or.inl hj⟩

lemma step_spec (h : Registered s) {move : Move} (hfine : Fine s move) :
    Registered (step s move) ∧ EndsOnly s move := by
  cases move with
  | start key =>
    obtain ⟨hreg, hkept⟩ := startRefresh_spec h key
    exact ⟨hreg, fun k j hj hdead => absurd (hkept k j hj) hdead⟩
  | stop key caller =>
    obtain ⟨hreg, hlive⟩ := stopRefresh_spec h hfine
    refine ⟨hreg, fun k j hj hdead => Or.inl ⟨caller, ?_⟩⟩
    by_contra hne
    exact hdead ((hlive k j).2 ⟨hj, fun hk => hne (by rw [hk])⟩)
  | resume i =>
    obtain ⟨hreg, hlive⟩ := resume_spec h hfine
    exact ⟨hreg, fun k j hj hdead => absurd ((hlive k j).2 hj) hdead⟩
  | endTick i keep =>
    obtain ⟨hreg, hlive⟩ := endTick_spec h hfine
    refine ⟨hreg, fun k j hj hdead => Or.inr ?_⟩
    obtain ⟨rfl, rfl⟩ := (hlive k j hj).resolve_left hdead
    rfl

/-- In a run whose steps are all fine the loops and the entries agree throughout. -/
theorem refresh_holds (queue : Bool) (moves : List Move) (hfine : FineRun { queue } moves) :
    Holds { queue } moves := by
  have hstart : Registered { queue } := by
    refine ⟨fun key i => ?_, fun key => ?_⟩
    · cases queue <;> simp [entry, LiveAt]
    · cases queue <;> rfl
  revert hfine
  generalize ({ queue } : Cards) = s at hstart
  induction moves generalizing s with
  | nil => exact fun _ => hstart.sound
  | cons move moves ih =>
    rintro ⟨hmove, hrest⟩
    obtain ⟨hreg, hends⟩ := step_spec hstart hmove
    exact ⟨hstart.sound, hends, ih _ hreg hrest⟩

/-- A loop that ticks twice, and a second one after its final tick. -/
def quietMoves : List Move :=
  [.start "k", .resume 0, .resume 0, .endTick 0 true, .resume 0, .endTick 0 false, .start "k"]

theorem refresh_holds_quiet : Holds { queue := false } quietMoves := by
  refine refresh_holds false quietMoves ⟨trivial, ?_, ?_, ?_, ?_, ?_, trivial, trivial⟩
  all_goals
    intro l hl hphase hstopped
    obtain rfl := Option.some.inj hl
    cases hstopped

/-- Stopped and started again at once, the task of the old loop unwinds and takes the entry of the
new one; with a job queue, the last tick of the old job stops the new one. -/
theorem not_holds_of_restart :
    ¬Holds { queue := false }
        [.start "k", .resume 0, .stop "k" none, .start "k", .resume 0] ∧
      ¬Holds { queue := true }
        [.start "k", .resume 0, .stop "k" none, .start "k", .endTick 0 false] := by
  constructor
  · rintro ⟨-, -, -, -, -, -, -, -, -, -, hsound⟩
    have href := (hsound.refreshing "k").2 ⟨1, ⟨_, rfl, rfl, rfl⟩⟩
    exact absurd href (by decide)
  · rintro ⟨-, -, -, -, -, -, -, -, -, hends, -⟩
    have hdead : ¬LiveAt (step (run { queue := true }
        [.start "k", .resume 0, .stop "k" none, .start "k"]) (.endTick 0 false)).loops "k" 1 := by
      rintro ⟨l, hl, -, hlive⟩
      obtain rfl := Option.some.inj hl
      cases hlive
    rcases hends "k" 1 ⟨_, rfl, rfl, rfl⟩ hdead with ⟨caller, hmove⟩ | hmove
    · cases hmove
    · cases hmove

end SherwoodMonitor.CardRefresh
