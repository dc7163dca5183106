import Mathlib.Tactic
import SherwoodMonitor.Supervisor

/-! What holds of the stream children in every run of the supervisor in which no spawn completes
behind a `stop` and no `start` overtakes one. -/
namespace SherwoodMonitor.Supervisor
open Table

def Phase.child? : Phase → Option ℕ
  | .spawning c => some c
  | .closing c => some c
  | .waiting c => some c
  | _ => none

def StopPhase.state? : StopPhase → Option ℕ
  | .waiting i _ => some i
  | .joining i => some i
  | .returned => none

def Phase.isSpawning : Phase → Bool
  | .spawning _ => true
  | _ => false

/-- No spawn completes while a `stop` waits for the process that it captured before; and a `start`
makes a new task only where no `stop` of the fund is under way and every child of the fund that was
signalled has exited. -/
def Calm (w : World) : Move → Prop
  | .start s => w.busy s = true ∨
      (∀ call ∈ w.stops, call.subdomain = s → call.phase = .returned) ∧
      ∀ ch ∈ w.children, ch.fund = s → ch.signalled = true → ch.live = false
  | .resume i _ => ∀ o ∈ w.objects[i]?, o.task.isSpawning = true → o.stopRequested = true →
      o.cancelled = true
  | _ => True

instance (w : World) : (move : Move) → Decidable (Calm w move)
  | .start _ => inferInstanceAs (Decidable (_ ∨ _))
  | .resume _ _ => inferInstanceAs (Decidable (∀ o ∈ _, _))
  | .stop _ | .reaped _ | .graceOver _ | .joined _ | .exits _ => isTrue trivial

def CalmRun : World → List Move → Prop
  | _, [] => True
  | w, move :: moves => Calm w move ∧ CalmRun (w.step move) moves

instance decidableCalmRun : (w : World) → (moves : List Move) → Decidable (CalmRun w moves)
  | _, [] => isTrue trivial
  | w, move :: moves =>
      have := decidableCalmRun (w.step move) moves
      inferInstanceAs (Decidable (Calm w move ∧ _))

/-- Only the task of a fund's entry in `_states` runs. A live child of a fund is the one that this
task has, or the task is done and the child was signalled. -/
structure Sound (w : World) : Prop where
  entry : ∀ {s : String} {i : ℕ}, w.states s = some i →
    ∃ o, w.objects[i]? = some o ∧ o.subdomain = s
  running : ∀ {i : ℕ} {o : State}, w.objects[i]? = some o → o.task ≠ .done →
    w.states o.subdomain = some i
  child : ∀ {i : ℕ} {o : State} {c : ℕ}, w.objects[i]? = some o → o.task.child? = some c →
    ∃ ch, w.children[c]? = some ch ∧ ch.fund = o.subdomain
  proc : ∀ {i : ℕ} {o : State} {c : ℕ}, w.objects[i]? = some o → o.task = .waiting c →
    o.proc = some c
  held : ∀ {c : ℕ} {ch : Child}, w.children[c]? = some ch → ch.live = true →
    ∃ i o, w.states ch.fund = some i ∧ w.objects[i]? = some o ∧
      (o.task.child? = some c ∨ o.task = .done ∧ ch.signalled = true)
  one : w.OneLive
  closing : ∀ {i : ℕ} {o : State} {c : ℕ} {ch : Child}, w.objects[i]? = some o →
    o.task = .closing c → w.children[c]? = some ch → ch.signalled = true
  cancelled : ∀ {i : ℕ} {o : State} {c : ℕ} {ch : Child}, w.objects[i]? = some o →
    o.cancelled = true → o.task = .waiting c → w.children[c]? = some ch → ch.live = true →
      ch.signalled = true
  stopping : ∀ {k : ℕ} {s : String} {i p : ℕ}, w.stops[k]? = some ⟨s, .waiting i p⟩ →
    ∃ o, w.objects[i]? = some o ∧ o.stopRequested = true ∧ o.proc = some p
  stopped : ∀ {k : ℕ} {call : StopCall} {i : ℕ}, w.stops[k]? = some call →
    call.phase.state? = some i → w.states call.subdomain = some i

variable {w : World} {i : ℕ} {o : State}

lemma sound_empty : Sound {} := by
  constructor <;> intros <;> simp_all [World.OneLive]

/-- A task goes on with the child that it has, or without one where that child is not live. -/
lemma Sound.setState (h : Sound w) (ho : w.objects[i]? = some o) {o' : State}
    (hsub : o'.subdomain = o.subdomain) (hdone : o.task = .done → o'.task = .done)
    (hchild : ∀ c, o'.task.child? = some c → o.task.child? = some c)
    (hlive : ∀ c ch, o.task.child? = some c → w.children[c]? = some ch → ch.live = true →
      o'.task.child? = some c ∨ o'.task = .done ∧ ch.signalled = true)
    (hproc : ∀ c, o'.task = .waiting c → o'.proc = some c)
    (hclosing : ∀ c ch, o'.task = .closing c → w.children[c]? = some ch → ch.signalled = true)
    (hcancelled : ∀ c ch, o'.cancelled = true → o'.task = .waiting c →
      w.children[c]? = some ch → ch.live = true → ch.signalled = true)
    (hstop : o.stopRequested = true → o'.stopRequested = true ∧ (o'.proc = o.proc)) :
    Sound (w.setState i o') where
  entry hs := by
    obtain ⟨p, hp, hps⟩ := h.entry hs
    rename_i s j
    by_cases hj : j = i
    · subst hj
      obtain rfl : o = p := Option.some.inj (ho.symm.trans hp)
      exact ⟨o', set_self ho, hsub.trans hps⟩
    · exact ⟨p, set_other hj hp, hps⟩
  running hp hne := by
    rcases set_cases hp with ⟨rfl, rfl⟩ | ⟨-, hp⟩
    · rw [hsub]
      exact h.running ho fun hd => hne (hdone hd)
    · exact h.running hp hne
  child hp hc := by
    rcases set_cases hp with ⟨rfl, rfl⟩ | ⟨-, hp⟩
    · rw [hsub]
      exact h.child ho (hchild _ hc)
    · exact h.child hp hc
  proc hp hc := by
    rcases set_cases hp with ⟨rfl, rfl⟩ | ⟨-, hp⟩
    · exact hproc _ hc
    · exact h.proc hp hc
  held {c ch} hch hl := by
    obtain ⟨j, p, hs, hp, hheld⟩ := h.held hch hl
    by_cases hj : j = i
    · subst hj
      obtain rfl : o = p := Option.some.inj (ho.symm.trans hp)
      refine ⟨j, o', hs, set_self ho, ?_⟩
      rcases hheld with hc | ⟨hd, hsig⟩
      · exact hlive c ch hc hch hl
      · exact Or.inr ⟨hdone hd, hsig⟩
    · exact ⟨j, p, hs, set_other hj hp, hheld⟩
  one := h.one
  closing hp hc hch := by
    rcases set_cases hp with ⟨rfl, rfl⟩ | ⟨-, hp⟩
    · exact hclosing _ _ hc hch
    · exact h.closing hp hc hch
  cancelled hp hcan hc hch hl := by
    rcases set_cases hp with ⟨rfl, rfl⟩ | ⟨-, hp⟩
    · exact hcancelled _ _ hcan hc hch hl
    · exact h.cancelled hp hcan hc hch hl
  stopping {k s j p} hk := by
    obtain ⟨o₁, ho₁, hreq, hp⟩ := h.stopping hk
    by_cases hj : j = i
    · subst hj
      obtain rfl : o = o₁ := Option.some.inj (ho.symm.trans ho₁)
      exact ⟨o', set_self ho, (hstop hreq).1, (hstop hreq).2.trans hp⟩
    · exact ⟨o₁, set_other hj ho₁, hreq, hp⟩
  stopped hk hi := h.stopped hk hi

/-- A child is signalled, or exits. -/
lemma Sound.touch (h : Sound w) {c : ℕ} {f : Child → Child} (hfund : ∀ ch, (f ch).fund = ch.fund)
    (hlive : ∀ ch, (f ch).live = true → ch.live = true)
    (hsig : ∀ ch, ch.signalled = true → (f ch).signalled = true) :
    Sound { w with children := w.children.modify c f } := by
  have hold : ∀ {c' : ℕ} {ch : Child}, (w.children.modify c f)[c']? = some ch →
      ∃ ch', w.children[c']? = some ch' ∧ ch.fund = ch'.fund ∧ (ch.live = true → ch'.live = true) ∧
        (ch'.signalled = true → ch.signalled = true) := by
    intro c' ch hch
    obtain ⟨ch', hch', ⟨-, rfl⟩ | ⟨-, rfl⟩⟩ := modify_cases hch
    · exact ⟨ch', hch', hfund ch', hlive ch', hsig ch'⟩
    · exact ⟨ch, hch', rfl, id, id⟩
  refine ⟨h.entry, h.running, ?_, h.proc, ?_, ?_, ?_, ?_, h.stopping, h.stopped⟩
  · intro i o c' ho hc
    obtain ⟨ch, hch, hf⟩ := h.child ho hc
    by_cases hcc : c' = c
    · subst hcc
      exact ⟨f ch, by simp [hch], (hfund ch).trans hf⟩
    · exact ⟨ch, by simp [Ne.symm hcc, hch], hf⟩
  · intro c' ch hch hl
    obtain ⟨ch', hch', hf, hl', hs'⟩ := hold hch
    obtain ⟨i, o, hs, ho, hheld⟩ := h.held hch' (hl' hl)
    rw [← hf] at hs
    exact ⟨i, o, hs, ho, hheld.imp_right fun hd => ⟨hd.1, hs' hd.2⟩⟩
  · intro c₁ c₂ ch₁ ch₂ hch₁ hch₂ hfunds hl₁ hl₂
    obtain ⟨ch₁', hch₁', hf₁, hl₁', -⟩ := hold hch₁
    obtain ⟨ch₂', hch₂', hf₂, hl₂', -⟩ := hold hch₂
    have hfund := hf₁.symm.trans (hfunds.trans hf₂)
    exact h.one c₁ c₂ ch₁' ch₂' hch₁' hch₂' hfund (hl₁' hl₁) (hl₂' hl₂)
  · intro i o c' ch ho hc hch
    obtain ⟨ch', hch', -, -, hs'⟩ := hold hch
    exact hs' (h.closing ho hc hch')
  · intro i o c' ch ho hcan hc hch hl
    obtain ⟨ch', hch', -, hl', hs'⟩ := hold hch
    exact hs' (h.cancelled ho hcan hc hch' (hl' hl))

lemma Sound.signal (h : Sound w) (c : ℕ) : Sound (w.signal c) :=
  h.touch (fun _ => rfl) (fun _ hl => hl) fun _ _ => rfl

lemma Sound.exit (h : Sound w) (c : ℕ) : Sound (w.exit c) :=
  h.touch (fun _ => rfl) (fun _ hl => nomatch hl) fun _ hs => hs

lemma signalled_signal {c : ℕ} {ch : Child} (h : (w.signal c).children[c]? = some ch) :
    ch.signalled = true := by
  obtain ⟨ch', -, ⟨-, rfl⟩ | ⟨hne, -⟩⟩ := modify_cases h
  · rfl
  · exact absurd rfl hne

/-- What has to hold of a `stop` that stands at its new await. -/
structure CallSound (w : World) (call : StopCall) : Prop where
  stopping : ∀ {i p : ℕ}, call.phase = .waiting i p →
    ∃ o, w.objects[i]? = some o ∧ o.stopRequested = true ∧ o.proc = some p
  stopped : ∀ {i : ℕ}, call.phase.state? = some i → w.states call.subdomain = some i

lemma Sound.addStop (h : Sound w) {call : StopCall} (hcall : CallSound w call) :
    Sound (w.addStop call) := by
  refine ⟨h.entry, h.running, h.child, h.proc, h.held, h.one, h.closing, h.cancelled, ?_, ?_⟩
  · intro k s i p hk
    rcases concat_cases hk with ⟨-, rfl⟩ | hk
    · exact hcall.stopping rfl
    · exact h.stopping hk
  · intro k call' i hk hi
    rcases concat_cases hk with ⟨-, rfl⟩ | hk
    · exact hcall.stopped hi
    · exact h.stopped hk hi

lemma Sound.setStop (h : Sound w) {k : ℕ} {call : StopCall} (hcall : CallSound w call) :
    Sound (w.setStop k call) := by
  refine ⟨h.entry, h.running, h.child, h.proc, h.held, h.one, h.closing, h.cancelled, ?_, ?_⟩
  · intro k' s i p hk
    rcases set_cases hk with ⟨-, rfl⟩ | ⟨-, hk⟩
    · exact hcall.stopping rfl
    · exact h.stopping hk
  · intro k' call' i hk hi
    rcases set_cases hk with ⟨-, rfl⟩ | ⟨-, hk⟩
    · exact hcall.stopped hi
    · exact h.stopped hk hi

/-- Only the loop of a fund's own task spawns, while no child of the fund is live. -/
lemma Sound.spawn (h : Sound w) (ho : w.objects[i]? = some o) (hrun : o.task ≠ .done)
    (hfree : o.task.child? = none) : Sound (w.spawn i o) := by
  have hentry := h.running ho hrun
  have hnone : ∀ (c : ℕ) (ch : Child), w.children[c]? = some ch → ch.live = true →
      ch.fund ≠ o.subdomain := by
    intro c ch hch hl hfund
    obtain ⟨j, p, hs, hp, hheld⟩ := h.held hch hl
    obtain rfl : i = j := Option.some.inj (hentry.symm.trans (hfund ▸ hs))
    obtain rfl : o = p := Option.some.inj (ho.symm.trans hp)
    rcases hheld with hc | ⟨hd, -⟩
    · cases hfree.symm.trans hc
    · exact hrun hd
  have hold : ∀ {c : ℕ} {ch : Child}, (w.children ++ [⟨o.subdomain, true, false⟩])[c]? = some ch →
      c = w.children.length ∧ ch = ⟨o.subdomain, true, false⟩ ∨ w.children[c]? = some ch :=
    fun hch => concat_cases hch
  refine ⟨?_, ?_, ?_, ?_, ?_, ?_, ?_, ?_, ?_, h.stopped⟩
  · intro s j hs
    obtain ⟨p, hp, hps⟩ := h.entry hs
    by_cases hj : j = i
    · subst hj
      obtain rfl : o = p := Option.some.inj (ho.symm.trans hp)
      exact ⟨_, set_self ho, hps⟩
    · exact ⟨p, set_other hj hp, hps⟩
  · intro j p hp hne
    rcases set_cases hp with ⟨rfl, rfl⟩ | ⟨-, hp⟩
    · exact hentry
    · exact h.running hp hne
  · intro j p c hp hc
    rcases set_cases hp with ⟨rfl, rfl⟩ | ⟨-, hp⟩
    · obtain rfl : w.children.length = c := Option.some.inj hc
      exact ⟨_, concat_new, rfl⟩
    · obtain ⟨ch, hch, hf⟩ := h.child hp hc
      exact ⟨ch, concat_old hch, hf⟩
  · intro j p c hp hc
    rcases set_cases hp with ⟨rfl, rfl⟩ | ⟨-, hp⟩
    · cases hc
    · exact h.proc hp hc
  · intro c ch hch hl
    rcases hold hch with ⟨rfl, rfl⟩ | hch'
    · exact ⟨i, _, hentry, set_self ho, Or.inl rfl⟩
    · obtain ⟨j, p, hs, hp, hheld⟩ := h.held hch' hl
      have hj : j ≠ i := by
        rintro rfl
        obtain ⟨p', hp', hsub⟩ := h.entry hs
        obtain rfl : o = p' := Option.some.inj (ho.symm.trans hp')
        exact hnone c ch hch' hl hsub.symm
      exact ⟨j, p, hs, set_other hj hp, hheld⟩
  · intro c c' ch ch' hch hch' hfund hl hl'
    rcases hold hch with ⟨rfl, rfl⟩ | hch <;> rcases hold hch' with ⟨rfl, rfl⟩ | hch'
    · rfl
    · exact absurd hfund.symm (hnone c' ch' hch' hl')
    · exact absurd hfund (hnone c ch hch hl)
    · exact h.one c c' ch ch' hch hch' hfund hl hl'
  · intro j p c ch hp hc hch
    rcases set_cases hp with ⟨rfl, rfl⟩ | ⟨-, hp⟩
    · cases hc
    · have hchild : p.task.child? = some c := by rw [hc]; rfl
      obtain ⟨ch', hch', -⟩ := h.child hp hchild
      obtain rfl : ch' = ch := Option.some.inj ((concat_old hch').symm.trans hch)
      exact h.closing hp hc hch'
  · intro j p c ch hp hcan hc hch hl
    rcases set_cases hp with ⟨rfl, rfl⟩ | ⟨-, hp⟩
    · cases hc
    · have hchild : p.task.child? = some c := by rw [hc]; rfl
      obtain ⟨ch', hch', -⟩ := h.child hp hchild
      obtain rfl : ch' = ch := Option.some.inj ((concat_old hch').symm.trans hch)
      exact h.cancelled hp hcan hc hch' hl
  · intro k s j p hk
    obtain ⟨q, hq, hreq, hproc⟩ := h.stopping hk
    by_cases hj : j = i
    · subst hj
      obtain rfl : o = q := Option.some.inj (ho.symm.trans hq)
      exact ⟨_, set_self ho, hreq, hproc⟩
    · exact ⟨q, set_other hj hq, hreq, hproc⟩

/-- A task without a live child moves on, or ends. -/
lemma Sound.goOn (h : Sound w) (ho : w.objects[i]? = some o) (hrun : o.task ≠ .done) {t : Phase}
    (ht : t.child? = none)
    (hlive : ∀ c ch, o.task.child? = some c → w.children[c]? = some ch → ch.live = true →
      t = .done ∧ ch.signalled = true) (b : Bool) :
    Sound (w.setState i { o with task := t, cancelled := b }) := by
  refine h.setState ho rfl (fun hd => absurd hd hrun) (fun c hc => nomatch ht.symm.trans hc)
    (fun c ch hc hch hl => Or.inr (hlive c ch hc hch hl)) (fun c hc => ?_) (fun c _ hc => ?_)
    (fun c _ _ hc => ?_) fun hreq => ⟨hreq, rfl⟩
  all_goals
    obtain rfl : t = _ := hc
    cases ht

lemma Sound.loop (h : Sound w) (ho : w.objects[i]? = some o) (hrun : o.task ≠ .done)
    (hfree : o.task.child? = none) (spawns : Bool) : Sound (w.loop i o spawns) := by
  have hlive : ∀ (t : Phase) c ch, o.task.child? = some c → w.children[c]? = some ch →
      ch.live = true → t = .done ∧ ch.signalled = true :=
    fun t c ch hc => nomatch hfree.symm.trans hc
  rw [World.loop]
  split_ifs
  · exact h.goOn ho hrun rfl (hlive _) o.cancelled
  · exact h.spawn ho hrun hfree
  · exact h.goOn ho hrun rfl (hlive _) o.cancelled

lemma Sound.deliver (h : Sound w) (ho : w.objects[i]? = some o) (hcan : o.cancelled = true) :
    Sound (w.deliver i o) := by
  rw [World.deliver]
  split
  · next c htask =>
    change Sound ((w.signal c).setState i { o with task := .closing c, cancelled := false })
    refine (h.signal c).setState ho rfl (fun hd => nomatch htask.symm.trans hd) (fun c' hc => ?_)
      (fun c' ch hc _ _ => Or.inl ?_) (fun _ hc => nomatch hc) (fun c' ch hc hch => ?_)
      (fun _ _ hcan' => nomatch hcan') fun hreq => ⟨hreq, rfl⟩
    · rw [htask]
      exact hc
    · rw [htask] at hc
      exact hc
    · obtain rfl := Phase.closing.inj hc
      exact signalled_signal hch
  · next hspawn =>
    refine h.setState ho rfl (fun _ => rfl) (fun _ hc => nomatch hc)
      (fun c ch hc hch hl => Or.inr ⟨rfl, ?_⟩) (fun _ hc => nomatch hc) (fun _ _ hc => nomatch hc)
      (fun _ _ hcan' => nomatch hcan') fun hreq => ⟨hreq, rfl⟩
    cases htask : o.task with
    | spawning c' => exact absurd htask (hspawn c')
    | closing c' =>
      obtain rfl : c' = c := by simpa [htask, Phase.child?] using hc
      exact h.closing ho htask hch
    | waiting c' =>
      obtain rfl : c' = c := by simpa [htask, Phase.child?] using hc
      exact h.cancelled ho hcan htask hch hl
    | _ => simp [htask, Phase.child?] at hc

lemma not_live {c : ℕ} {ch : Child} (hl : ¬ w.isLive c = true) (hch : w.children[c]? = some ch) :
    ¬ ch.live = true := by
  simpa [World.isLive, hch] using hl

lemma Sound.resume (h : Sound w) (ho : w.objects[i]? = some o) {spawns : Bool}
    (hcalm : Calm w (.resume i spawns)) : Sound (w.resume i o spawns) := by
  rw [World.resume]
  by_cases hcan : o.cancelled = true
  · rw [if_pos hcan]
    exact h.deliver ho hcan
  rw [if_neg hcan]
  cases htask : o.task with
  | ready => exact h.loop ho (by simp [htask]) (by simp [htask, Phase.child?]) spawns
  | spawning c =>
    have hreq : o.stopRequested ≠ true := fun hreq =>
      hcan (hcalm o ho (by rw [htask]; rfl) hreq)
    refine h.setState ho rfl (fun hd => nomatch htask.symm.trans hd) (fun c' hc => ?_)
      (fun c' ch hc _ _ => Or.inl ?_) (fun c' hc => ?_) (fun _ _ hc => nomatch hc)
      (fun _ _ hcan' => absurd hcan' hcan) fun hr => absurd hr hreq
    · rw [htask]
      exact hc
    · rw [htask] at hc
      exact hc
    · rw [Phase.waiting.inj hc]
  | closing c =>
    dsimp only
    split_ifs with hl
    · exact h
    · refine h.goOn ho (by simp [htask]) rfl (fun c' ch hc hch hlive => ?_) o.cancelled
      obtain rfl : c = c' := by simpa [htask, Phase.child?] using hc
      exact absurd hlive (not_live hl hch)
  | waiting c =>
    dsimp only
    split_ifs with hl
    · exact h
    · refine h.goOn ho (by simp [htask]) rfl (fun c' ch hc hch hlive => ?_) o.cancelled
      obtain rfl : c = c' := by simpa [htask, Phase.child?] using hc
      exact absurd hlive (not_live hl hch)
  | draining =>
    refine h.goOn ho (by simp [htask]) ?_ (fun c' ch hc => ?_) o.cancelled
    · cases o.stopRequested <;> rfl
    · simp [htask, Phase.child?] at hc
  | sleeping => exact h.loop ho (by simp [htask]) (by simp [htask, Phase.child?]) spawns
  | done => exact h

lemma current_eq_some {s : String} :
    w.current s = some (i, o) ↔ w.states s = some i ∧ w.objects[i]? = some o := by
  simp only [World.current, Option.bind_eq_some_iff, Option.map_eq_some_iff, Prod.mk.injEq]
  constructor
  · rintro ⟨j, hs, o', ho, rfl, rfl⟩
    exact ⟨hs, ho⟩
  · rintro ⟨hs, ho⟩
    exact ⟨i, hs, o, ho, rfl, rfl⟩

lemma callSound_returned (s : String) : CallSound w ⟨s, .returned⟩ :=
  ⟨fun hp => (nomatch hp), fun hi => (nomatch hi)⟩

/-- A `stop` cancels the task, where the child that the task waits for has exited or is
signalled. -/
lemma Sound.cancel (h : Sound w) {s : String} (hs : w.states s = some i)
    (hsig : ∀ o c ch, w.objects[i]? = some o → o.task = .waiting c → w.children[c]? = some ch →
      ch.live = true → ch.signalled = true) :
    Sound (w.cancel i).1 ∧ CallSound (w.cancel i).1 ⟨s, (w.cancel i).2⟩ := by
  rw [World.cancel]
  cases ho : w.objects[i]? with
  | none => exact ⟨h, callSound_returned s⟩
  | some o =>
    dsimp only
    split_ifs
    · exact ⟨h, callSound_returned s⟩
    · refine ⟨?_, fun hp => (nomatch hp), fun hi => ?_⟩
      · exact h.setState ho rfl id (fun _ hc => hc) (fun _ _ hc _ _ => Or.inl hc)
          (fun c hc => (h.proc ho hc : o.proc = some c)) (fun _ _ hc hch => h.closing ho hc hch)
          (fun c ch _ hc hch hl => hsig o c ch ho hc hch hl) fun hreq => ⟨hreq, rfl⟩
      · obtain rfl := Option.some.inj hi
        exact hs

lemma Sound.request (h : Sound w) (ho : w.objects[i]? = some o) :
    Sound (w.setState i { o with stopRequested := true }) :=
  h.setState ho rfl id (fun _ hc => hc) (fun _ _ hc _ _ => Or.inl hc)
    (fun c hc => (h.proc ho hc : o.proc = some c)) (fun _ _ hc hch => h.closing ho hc hch)
    (fun _ _ hcan hc hch hl => h.cancelled ho hcan hc hch hl) fun _ => ⟨rfl, rfl⟩

lemma Sound.stop (h : Sound w) (s : String) : Sound (w.stop s) := by
  rw [World.stop]
  cases hcur : w.current s with
  | none => exact h.addStop (callSound_returned s)
  | some r =>
    obtain ⟨i, o⟩ := r
    obtain ⟨hs, ho⟩ := current_eq_some.1 hcur
    have hset := h.request ho
    have hself : (w.setState i { o with stopRequested := true }).objects[i]? =
      some { o with stopRequested := true } := set_self ho
    dsimp only
    split
    · next p hproc =>
      refine (hset.signal p).addStop ⟨fun hp => ?_, fun hi => ?_⟩
      · obtain ⟨rfl, rfl⟩ := StopPhase.waiting.inj hp
        exact ⟨_, hself, rfl, hproc⟩
      · obtain rfl := Option.some.inj hi
        exact hs
    · next hproc =>
      obtain ⟨hsound, hcall⟩ := hset.cancel hs fun o' c ch ho' hc _ _ => by
        obtain rfl := Option.some.inj (hself.symm.trans ho')
        cases hproc.symm.trans (h.proc ho hc)
      exact hsound.addStop hcall

lemma Sound.start (h : Sound w) {s : String} (hcalm : Calm w (.start s)) : Sound (w.start s) := by
  rw [World.start]
  split_ifs with hbusy
  · exact h
  obtain ⟨hstops, hchildren⟩ := hcalm.resolve_left hbusy
  have hcurrent : ∀ {i : ℕ} {o : State}, w.states s = some i → w.objects[i]? = some o →
      o.task = .done := by
    intro i o hs ho
    simpa [World.busy, current_eq_some.2 ⟨hs, ho⟩] using hbusy
  refine ⟨?_, ?_, ?_, ?_, ?_, h.one, ?_, ?_, ?_, ?_⟩
  · intro s' i hs
    by_cases hss : s' = s
    · subst hss
      obtain rfl : w.objects.length = i := by simpa using hs
      exact ⟨_, concat_new, rfl⟩
    · obtain ⟨o, ho, hsub⟩ := h.entry (by simpa [hss] using hs)
      exact ⟨o, concat_old ho, hsub⟩
  · intro i o ho hrun
    rcases concat_cases ho with ⟨rfl, rfl⟩ | ho
    · simp
    · have hss : o.subdomain ≠ s := fun hss => hrun (hcurrent (hss ▸ h.running ho hrun) ho)
      simpa [hss] using h.running ho hrun
  · intro i o c ho hc
    rcases concat_cases ho with ⟨rfl, rfl⟩ | ho
    · cases hc
    · exact h.child ho hc
  · intro i o c ho hc
    rcases concat_cases ho with ⟨rfl, rfl⟩ | ho
    · cases hc
    · exact h.proc ho hc
  · intro c ch hch hl
    obtain ⟨i, o, hs, ho, hheld⟩ := h.held hch hl
    have hss : ch.fund ≠ s := by
      intro hss
      rw [hss] at hs
      rcases hheld with hc | ⟨-, hsig⟩
      · simp [hcurrent hs ho, Phase.child?] at hc
      · simp [hchildren ch (List.mem_of_getElem? hch) hss hsig] at hl
    exact ⟨i, o, by simpa [hss] using hs, concat_old ho, hheld⟩
  · intro i o c ch ho hc hch
    rcases concat_cases ho with ⟨rfl, rfl⟩ | ho
    · cases hc
    · exact h.closing ho hc hch
  · intro i o c ch ho hcan hc hch hl
    rcases concat_cases ho with ⟨rfl, rfl⟩ | ho
    · cases hc
    · exact h.cancelled ho hcan hc hch hl
  · intro k s' i p hk
    obtain ⟨o, ho, hstop⟩ := h.stopping hk
    exact ⟨o, concat_old ho, hstop⟩
  · intro k call i hk hi
    have hss : call.subdomain ≠ s := by
      intro hss
      rw [hstops call (List.mem_of_getElem? hk) hss] at hi
      cases hi
    simpa [hss] using h.stopped hk hi

lemma Sound.step (h : Sound w) {move : Move} (hcalm : Calm w move) : Sound (w.step move) := by
  cases move with
  | start s => exact h.start hcalm
  | stop s => exact h.stop s
  | reaped k =>
    rw [World.step]
    split
    · next s i p hk =>
      split_ifs with hl
      · exact h
      · obtain ⟨hsound, hcall⟩ := h.cancel (h.stopped hk rfl) fun o c ch ho hc hch hlive => by
          obtain ⟨o', ho', -, hproc⟩ := h.stopping hk
          obtain rfl : o = o' := Option.some.inj (ho.symm.trans ho')
          obtain rfl : c = p := Option.some.inj ((h.proc ho hc).symm.trans hproc)
          exact absurd hlive (not_live hl hch)
        exact hsound.setStop hcall
    · exact h
  | graceOver k =>
    rw [World.step]
    split
    · next s i p hk =>
      obtain ⟨hsound, hcall⟩ := (h.signal p).cancel (h.stopped hk rfl)
        fun o c ch ho hc hch hlive => by
          obtain ⟨o', ho', -, hproc⟩ := h.stopping hk
          obtain rfl : o = o' := Option.some.inj (ho.symm.trans ho')
          obtain rfl : c = p := Option.some.inj ((h.proc ho hc).symm.trans hproc)
          exact signalled_signal hch
      exact hsound.setStop hcall
    · exact h
  | joined k =>
    rw [World.step]
    split
    · next s i hk =>
      split_ifs
      · exact h
      · exact h.setStop (callSound_returned s)
    · exact h
  | resume i spawns =>
    rw [World.step]
    split
    · next o ho => exact h.resume ho hcalm
    · exact h
  | exits c => exact h.exit c

lemma sound_run (h : Sound w) {moves : List Move} (hcalm : CalmRun w moves) :
    Sound (w.run moves) := by
  induction moves generalizing w with
  | nil => exact h
  | cons move moves ih => exact ih (h.step hcalm.1) hcalm.2

/-- No task makes way for another one here, an ended task stays ended, and a new child is that of a
task that runs. -/
structure Change (w w' : World) : Prop where
  object : ∀ {j : ℕ} {o' : State}, w'.objects[j]? = some o' → ∃ o, w.objects[j]? = some o ∧
    o'.subdomain = o.subdomain ∧ (o.task = .done → o'.task = .done)
  child : ∀ {c : ℕ} {ch : Child}, w'.children[c]? = some ch →
    (∃ ch', w.children[c]? = some ch' ∧ ch'.fund = ch.fund) ∨
      ∃ (i : ℕ) (o : State), w.objects[i]? = some o ∧ o.task ≠ .done ∧ ch.fund = o.subdomain

lemma Change.refl (w : World) : Change w w :=
  ⟨fun ho => ⟨_, ho, rfl, id⟩, fun hch => Or.inl ⟨_, hch, rfl⟩⟩

lemma Change.trans {w₁ w₂ w₃ : World} (h : Change w₁ w₂) (h' : Change w₂ w₃) : Change w₁ w₃ where
  object ho := by
    obtain ⟨o₂, ho₂, hsub₂, hdone₂⟩ := h'.object ho
    obtain ⟨o₁, ho₁, hsub₁, hdone₁⟩ := h.object ho₂
    exact ⟨o₁, ho₁, hsub₂.trans hsub₁, fun hd => hdone₂ (hdone₁ hd)⟩
  child hch := by
    rcases h'.child hch with ⟨ch₂, hch₂, hf₂⟩ | ⟨i, o₂, ho₂, hrun, hf₂⟩
    · rcases h.child hch₂ with ⟨ch₁, hch₁, hf₁⟩ | ⟨i, o₁, ho₁, hrun, hf₁⟩
      · exact Or.inl ⟨ch₁, hch₁, hf₁.trans hf₂⟩
      · exact Or.inr ⟨i, o₁, ho₁, hrun, hf₂.symm.trans hf₁⟩
    · obtain ⟨o₁, ho₁, hsub, hdone⟩ := h.object ho₂
      exact Or.inr ⟨i, o₁, ho₁, fun hd => hrun (hdone hd), hf₂.trans hsub⟩

lemma Change.addStop {w' : World} (h : Change w w') (call : StopCall) :
    Change w (w'.addStop call) := ⟨h.object, h.child⟩

lemma Change.setStop {w' : World} (h : Change w w') (k : ℕ) (call : StopCall) :
    Change w (w'.setStop k call) := ⟨h.object, h.child⟩

lemma change_setState (ho : w.objects[i]? = some o) {o' : State}
    (hsub : o'.subdomain = o.subdomain) (hdone : o.task = .done → o'.task = .done) :
    Change w (w.setState i o') where
  object hp := by
    rcases set_cases hp with ⟨rfl, rfl⟩ | ⟨-, hp⟩
    · exact ⟨o, ho, hsub, hdone⟩
    · exact ⟨_, hp, rfl, id⟩
  child hch := Or.inl ⟨_, hch, rfl⟩

lemma change_touch (c : ℕ) {f : Child → Child} (hfund : ∀ ch, (f ch).fund = ch.fund) :
    Change w { w with children := w.children.modify c f } where
  object ho := ⟨_, ho, rfl, id⟩
  child hch := by
    obtain ⟨ch', hch', ⟨-, rfl⟩ | ⟨-, rfl⟩⟩ := modify_cases hch
    · exact Or.inl ⟨ch', hch', (hfund ch').symm⟩
    · exact Or.inl ⟨_, hch', rfl⟩

lemma change_signal (c : ℕ) : Change w (w.signal c) := change_touch c fun _ => rfl

lemma change_spawn (ho : w.objects[i]? = some o) (hrun : o.task ≠ .done) :
    Change w (w.spawn i o) where
  object hp := by
    rcases set_cases hp with ⟨rfl, rfl⟩ | ⟨-, hp⟩
    · exact ⟨o, ho, rfl, fun hd => absurd hd hrun⟩
    · exact ⟨_, hp, rfl, id⟩
  child hch := by
    rcases concat_cases hch with ⟨-, rfl⟩ | hch
    · exact Or.inr ⟨i, o, ho, hrun, rfl⟩
    · exact Or.inl ⟨_, hch, rfl⟩

lemma change_resume (ho : w.objects[i]? = some o) (spawns : Bool) :
    Change w (w.resume i o spawns) := by
  have hloop : o.task ≠ .done → Change w (w.loop i o spawns) := by
    intro hrun
    rw [World.loop]
    split_ifs
    · exact change_setState ho rfl fun _ => rfl
    · exact change_spawn ho hrun
    · exact change_setState ho rfl fun hd => absurd hd hrun
  rw [World.resume]
  by_cases hcan : o.cancelled = true
  · rw [if_pos hcan, World.deliver]
    split
    · next c htask =>
      have hset : Change w (w.setState i { o with task := .closing c, cancelled := false }) :=
        change_setState ho rfl fun hd => nomatch htask.symm.trans hd
      exact hset.trans (change_signal c)
    · exact change_setState ho rfl fun _ => rfl
  rw [if_neg hcan]
  split
  · next htask => exact hloop fun hd => nomatch htask.symm.trans hd
  · next htask => exact change_setState ho rfl fun hd => nomatch htask.symm.trans hd
  · split_ifs
    · exact Change.refl w
    · exact change_setState ho rfl fun _ => rfl
  · next htask =>
    split_ifs
    · exact Change.refl w
    · exact change_setState ho rfl fun hd => nomatch htask.symm.trans hd
  · next htask => exact change_setState ho rfl fun hd => nomatch htask.symm.trans hd
  · next htask => exact hloop fun hd => nomatch htask.symm.trans hd
  · exact Change.refl w

lemma change_cancel (w : World) (i : ℕ) : Change w (w.cancel i).1 := by
  rw [World.cancel]
  cases ho : w.objects[i]? with
  | none => exact Change.refl w
  | some o =>
    dsimp only
    split_ifs
    · exact Change.refl w
    · exact change_setState ho rfl id

lemma change_stop (w : World) (s : String) : Change w (w.stop s) := by
  rw [World.stop]
  cases hcur : w.current s with
  | none => exact (Change.refl w).addStop _
  | some r =>
    obtain ⟨i, o⟩ := r
    have hset : Change w (w.setState i { o with stopRequested := true }) :=
      change_setState (current_eq_some.1 hcur).2 rfl id
    dsimp only
    split
    · exact (hset.trans (change_signal _)).addStop _
    · exact (hset.trans (change_cancel _ _)).addStop _

/-- All moves but a `start` that makes a new task. -/
lemma change_step {move : Move} (hmove : ∀ s, move ≠ .start s) : Change w (w.step move) := by
  cases move with
  | start s => exact absurd rfl (hmove s)
  | stop s => exact change_stop w s
  | reaped k =>
    rw [World.step]
    split
    · split_ifs
      · exact Change.refl w
      · exact (change_cancel w _).setStop _ _
    · exact Change.refl w
  | graceOver k =>
    rw [World.step]
    split
    · exact ((change_signal _).trans (change_cancel _ _)).setStop _ _
    · exact Change.refl w
  | joined k =>
    rw [World.step]
    split
    · split_ifs
      · exact Change.refl w
      · exact (Change.refl w).setStop _ _
    · exact Change.refl w
  | resume i spawns =>
    rw [World.step]
    split
    · next o ho => exact change_resume ho spawns
    · exact Change.refl w
  | exits c => exact change_touch c fun _ => rfl

/-- Every task of the fund has ended. -/
def Idle (w : World) (s : String) : Prop :=
  ∀ (i : ℕ) (o : State), w.objects[i]? = some o → o.subdomain = s → o.task = .done

lemma Idle.step {s : String} (h : Idle w s) {move : Move} (hmove : move ≠ .start s) :
    Idle (w.step move) s ∧ ∀ (c : ℕ) (ch : Child), (w.step move).children[c]? = some ch →
      ch.fund = s → ∃ ch', w.children[c]? = some ch' ∧ ch'.fund = s := by
  by_cases hstart : ∀ s', move ≠ .start s'
  · have hchange := @change_step w move hstart
    constructor
    · intro i o' ho' hs
      obtain ⟨o, ho, hsub, hdone⟩ := hchange.object ho'
      exact hdone (h i o ho (hsub.symm.trans hs))
    · intro c ch hch hs
      rcases hchange.child hch with ⟨ch', hch', hf⟩ | ⟨i, o, ho, hrun, hf⟩
      · exact ⟨ch', hch', hf.trans hs⟩
      · exact absurd (h i o ho (hf.symm.trans hs)) hrun
  · push Not at hstart
    obtain ⟨s', rfl⟩ := hstart
    have hne : s' ≠ s := fun heq => hmove (congrArg Move.start heq)
    rw [World.step, World.start]
    split_ifs
    · exact ⟨h, fun c ch hch hs => ⟨ch, hch, hs⟩⟩
    · refine ⟨fun i o ho hs => ?_, fun c ch hch hs => ⟨ch, hch, hs⟩⟩
      rcases concat_cases ho with ⟨-, rfl⟩ | ho
      · exact absurd hs hne
      · exact h i o ho hs

lemma Idle.run {s : String} (h : Idle w s) {moves : List Move} (hmoves : .start s ∉ moves) :
    Idle (w.run moves) s ∧ ∀ (c : ℕ) (ch : Child), (w.run moves).children[c]? = some ch →
      ch.fund = s → ∃ ch', w.children[c]? = some ch' ∧ ch'.fund = s := by
  induction moves generalizing w with
  | nil => exact ⟨h, fun c ch hch hs => ⟨ch, hch, hs⟩⟩
  | cons move moves ih =>
    rw [List.mem_cons, not_or] at hmoves
    obtain ⟨hidle, hold⟩ := h.step (Ne.symm hmoves.1)
    obtain ⟨hrun, hold'⟩ := ih hidle hmoves.2
    refine ⟨hrun, fun c ch hch hs => ?_⟩
    obtain ⟨ch', hch', hs'⟩ := hold' c ch hch hs
    exact hold c ch' hch' hs'

/-- Where its entry's task has ended, every task of the fund has. -/
lemma Sound.idle (h : Sound w) {s : String} (hdone : ∀ (i : ℕ) (o : State),
    w.states s = some i → w.objects[i]? = some o → o.task = .done) : Idle w s := by
  intro i o ho hs
  by_contra hrun
  exact hrun (hdone i o (hs ▸ h.running ho hrun) ho)

lemma cancel_returned (hr : (w.cancel i).2 = .returned) :
    (w.cancel i).1 = w ∧ ∀ o, w.objects[i]? = some o → o.task = .done := by
  rw [World.cancel] at hr ⊢
  cases ho : w.objects[i]? with
  | none => exact ⟨rfl, fun o hp => nomatch hp⟩
  | some o =>
    rw [ho] at hr
    dsimp only at hr ⊢
    split_ifs at hr ⊢ with hd
    refine ⟨rfl, fun p hp => ?_⟩
    obtain rfl := Option.some.inj hp
    exact hd

lemma stops_resume (w : World) (i : ℕ) (o : State) (spawns : Bool) :
    (w.resume i o spawns).stops = w.stops := by
  have hloop : (w.loop i o spawns).stops = w.stops := by
    rw [World.loop]
    split_ifs <;> rfl
  rw [World.resume]
  by_cases hcan : o.cancelled = true
  · rw [if_pos hcan, World.deliver]
    split <;> rfl
  rw [if_neg hcan]
  split
  · exact hloop
  · rfl
  · split_ifs <;> rfl
  · split_ifs <;> rfl
  · rfl
  · exact hloop
  · rfl

lemma states_cancel (w : World) (i : ℕ) :
    (w.cancel i).1.states = w.states ∧ (w.cancel i).1.stops = w.stops := by
  rw [World.cancel]
  cases w.objects[i]? with
  | none => exact ⟨rfl, rfl⟩
  | some o =>
    dsimp only
    split_ifs <;> exact ⟨rfl, rfl⟩

/-- A `stop` returns without a cancel only where the task has ended. -/
lemma Sound.idle_cancel (h : Sound w) {s : String} (hs : w.states s = some i)
    (hr : (w.cancel i).2 = .returned) : Idle (w.cancel i).1 s := by
  obtain ⟨hw, hdone⟩ := cancel_returned hr
  rw [hw]
  refine h.idle fun j o hj ho => ?_
  obtain rfl : i = j := Option.some.inj (hs.symm.trans hj)
  exact hdone o ho

/-- Where a `stop` of the fund returns, every task of the fund has ended. -/
lemma Sound.returns (h : Sound w) {move : Move} {s : String}
    (hret : Returns w (w.step move) s) : Idle (w.step move) s := by
  obtain ⟨k, hk, hold⟩ := hret
  cases move with
  | start s' =>
    rw [World.step, World.start] at hk
    split_ifs at hk <;> exact absurd hk hold
  | stop s' =>
    rw [World.step, World.stop] at hk ⊢
    cases hcur : w.current s' with
    | none =>
      rw [hcur] at hk
      rcases concat_cases hk with ⟨-, heq⟩ | hk
      · obtain rfl : s = s' := congrArg StopCall.subdomain heq
        refine h.idle fun i o hs ho => ?_
        cases hcur.symm.trans (current_eq_some.2 ⟨hs, ho⟩)
      · exact absurd hk hold
    | some r =>
      obtain ⟨i, o⟩ := r
      obtain ⟨hs, ho⟩ := current_eq_some.1 hcur
      rw [hcur] at hk
      dsimp only at hk ⊢
      split at hk
      · rcases concat_cases hk with ⟨-, heq⟩ | hk
        · cases congrArg StopCall.phase heq
        · exact absurd hk hold
      · next hproc =>
        rcases concat_cases hk with ⟨-, heq⟩ | hk
        · obtain rfl : s = s' := congrArg StopCall.subdomain heq
          exact (h.request ho).idle_cancel hs (congrArg StopCall.phase heq).symm
        · rw [(states_cancel _ _).2] at hk
          exact absurd hk hold
  | reaped k' =>
    rw [World.step] at hk ⊢
    split at hk
    · next s' i p hk' =>
      split_ifs at hk ⊢ with hl
      · exact absurd hk hold
      · rcases set_cases hk with ⟨-, heq⟩ | ⟨-, hk⟩
        · obtain rfl : s = s' := congrArg StopCall.subdomain heq
          exact h.idle_cancel (h.stopped hk' rfl) (congrArg StopCall.phase heq).symm
        · rw [(states_cancel _ _).2] at hk
          exact absurd hk hold
    · exact absurd hk hold
  | graceOver k' =>
    rw [World.step] at hk ⊢
    split at hk
    · next s' i p hk' =>
      rcases set_cases hk with ⟨-, heq⟩ | ⟨-, hk⟩
      · obtain rfl : s = s' := congrArg StopCall.subdomain heq
        exact (h.signal p).idle_cancel (h.stopped hk' rfl) (congrArg StopCall.phase heq).symm
      · rw [(states_cancel _ _).2] at hk
        exact absurd hk hold
    · exact absurd hk hold
  | joined k' =>
    rw [World.step] at hk ⊢
    split at hk
    · next s' i hk' =>
      split_ifs at hk ⊢ with hrun
      · exact absurd hk hold
      · rcases set_cases hk with ⟨-, heq⟩ | ⟨-, hk⟩
        · obtain rfl : s = s' := congrArg StopCall.subdomain heq
          refine h.idle fun j o hj ho => ?_
          obtain rfl : i = j := Option.some.inj ((h.stopped hk' rfl).symm.trans hj)
          simpa [ho] using hrun
        · exact absurd hk hold
    · exact absurd hk hold
  | resume i spawns =>
    rw [World.step] at hk
    split at hk
    · rw [stops_resume] at hk
      exact absurd hk hold
    · exact absurd hk hold
  | exits c => exact absurd hk hold

lemma calmRun_append {before after : List Move} (h : CalmRun w (before ++ after)) :
    CalmRun w before ∧ CalmRun (w.run before) after := by
  induction before generalizing w with
  | nil => exact ⟨trivial, h⟩
  | cons move moves ih =>
    obtain ⟨hmoves, hafter⟩ := ih h.2
    exact ⟨⟨h.1, hmoves⟩, hafter⟩

/-- In every run in which no spawn completes while a `stop` waits for an older process, and each
`start` of a new task comes behind the `stop` calls of the fund and the exit of the children that
they signalled, at most one child of a fund is live, and a fund that was stopped stays so up to the
next `start`. -/
theorem supervised_children {moves : List Move} (h : CalmRun {} moves) : Supervised moves := by
  constructor
  · rintro before after rfl
    exact (sound_run sound_empty (calmRun_append h).1).one
  · rintro before move after later s rfl hret hstart c ch hch hs
    have hall : before ++ move :: (after ++ later) = (before ++ move :: after) ++ later := by simp
    rw [hall] at h
    have hsound := sound_run sound_empty (calmRun_append h).1
    have hbefore := sound_run sound_empty (calmRun_append (calmRun_append h).1).1
    have hlast : World.run {} (before ++ [move]) = (World.run {} before).step move := by
      simp [World.run]
    have hwhole : World.run {} (before ++ move :: after) =
        (World.run {} (before ++ [move])).run after := by
      simp [World.run]
    have hidle : Idle (World.run {} (before ++ [move])) s := by
      rw [hlast] at hret ⊢
      exact hbefore.returns hret
    obtain ⟨hended, hold⟩ := hidle.run hstart
    rw [← hwhole] at hended hold
    obtain ⟨ch', hch', -⟩ := hold c ch hch hs
    refine ⟨?_, (List.getElem?_eq_some_iff.1 hch').1⟩
    by_contra hlive
    rw [not_or, Bool.not_eq_false] at hlive
    obtain ⟨i, o, hstate, ho, hheld⟩ := hsound.held hch hlive.1
    obtain ⟨p, hp, hsub⟩ := hsound.entry hstate
    obtain rfl : o = p := Option.some.inj (ho.symm.trans hp)
    have hdone := hended i o ho (hsub.trans hs)
    rcases hheld with hc | ⟨-, hsig⟩
    · simp [hdone, Phase.child?] at hc
    · exact hlive.2 hsig

/-- A stream is started and stopped while its child runs, and started again. -/
def stoppedAndStarted : List Move :=
  [.start "alpha", .resume 0 true, .resume 0 true, .stop "alpha", .exits 0, .reaped 0,
    .resume 0 true, .joined 0, .start "alpha", .resume 1 true]

theorem supervised_children_stoppedAndStarted : Supervised stoppedAndStarted :=
  supervised_children (by decide +kernel)

/-- The `stop` comes while the task spawns the child that replaces the one that exited, and the
spawn completes before the `stop` goes on. -/
def orphaned : List Move :=
  [.start "alpha", .resume 0 true, .resume 0 true, .exits 0, .resume 0 true, .resume 0 true,
    .resume 0 true, .stop "alpha", .resume 0 true, .reaped 0, .resume 0 true, .joined 0,
    .start "alpha", .resume 1 true]

theorem orphan_stays_live : ¬ Supervised orphaned := by
  intro h
  have hone := h.1 orphaned [] (List.append_nil _)
  have heq : (1 : ℕ) = 2 := hone 1 2 ⟨"alpha", true, false⟩ ⟨"alpha", true, false⟩
    (by decide +kernel) (by decide +kernel) rfl rfl rfl
  cases heq

/-- The child that was killed at the end of the grace time is still there when a `start` makes a
new one. -/
example : ¬ (World.run {} [.start "alpha", .resume 0 true, .resume 0 true, .stop "alpha",
    .graceOver 0, .resume 0 true, .joined 0, .start "alpha", .resume 1 true]).OneLive := by
  intro hone
  have heq : (0 : ℕ) = 1 := hone 0 1 ⟨"alpha", true, true⟩ ⟨"alpha", true, false⟩
    (by decide +kernel) (by decide +kernel) rfl rfl rfl
  cases heq

/-- The task ends by itself while the `stop` still waits, and a `start` comes before it goes on. -/
def overtaken : List Move :=
  [.start "alpha", .resume 0 true, .resume 0 true, .stop "alpha", .exits 0, .resume 0 true,
    .resume 0 true, .start "alpha", .resume 1 true]

example : ¬ Supervised (overtaken ++ [.reaped 0]) := by
  intro h
  have hreturns : Returns (World.run {} overtaken) (World.run {} (overtaken ++ [.reaped 0]))
      "alpha" := ⟨0, by decide +kernel, by decide +kernel⟩
  have hstopped := h.2 overtaken (.reaped 0) [] [] "alpha" rfl hreturns (by simp)
  have hchild := (hstopped 1 ⟨"alpha", true, false⟩ (by decide +kernel) rfl).1
  rcases hchild with hlive | hsig
  · cases hlive
  · cases hsig

end SherwoodMonitor.Supervisor
