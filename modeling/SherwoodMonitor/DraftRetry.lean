import SherwoodMonitor.DraftBridge
import SherwoodMonitor.PitchSafety

/-! Whether a pitch whose draft request failed gets another one. -/
namespace SherwoodMonitor.PitchFlow
open Models PitchText DraftBridge

variable {cfg : Config} {w : World} {i t : ℕ}

/-- The pitch without its flag. -/
def Pitch.undrafted (p : Pitch) : Pitch := { p with drafted := false }

/-- A fire or a "ship it" on the pitch that earns it a draft. -/
inductive Qualifies (cfg : Config) (w : World) (i : ℕ) : Move → Prop
  | reaction {t : ℕ} {now : Time} {c : ReactionChange} {user : ℤ} {p : Pitch}
      (htask : w.tasks[t]? = some ⟨.reaction c, user, .checking⟩)
      (hallow : cfg.allow c.chatId user = true) (hhad : c.had cfg = false) (hhas : c.has cfg = true)
      (hfound : (w.flow.pitchForTarget cfg now c.chatId c.messageId false).1 = some i)
      (hp : (w.flow.pitchForTarget cfg now c.chatId c.messageId false).2.pitches[i]? = some p)
      (hfires : cfg.fireThreshold ≤ ({ p with
        reactionFires := insert (c.messageId, user) p.reactionFires } : Pitch).fireUsers.card) :
      Qualifies cfg w i (.check t now)
  | reply {t : ℕ} {now : Time} {msg : Message} {user target : ℤ} {p : Pitch}
      (htask : w.tasks[t]? = some ⟨.message msg, user, .checking⟩)
      (hallow : cfg.allow msg.chatId user = true) (hfire : isFireReply cfg msg = true)
      (htarget : msg.replyTo = some target)
      (hfound : ((entered cfg w.flow msg now).pitchForTarget cfg now msg.chatId target
        msg.replyToIsBot).1 = some i)
      (hp : ((entered cfg w.flow msg now).pitchForTarget cfg now msg.chatId target
        msg.replyToIsBot).2.pitches[i]? = some p)
      (hfires : cfg.fireThreshold ≤ ({ p with
        replyFires := insert user p.replyFires } : Pitch).fireUsers.card) :
      Qualifies cfg w i (.check t now)
  | shipIt {t : ℕ} {now : Time} {msg : Message} {user : ℤ} {p : Pitch}
      (htask : w.tasks[t]? = some ⟨.message msg, user, .askingHost⟩)
      (hfound : (shipTarget cfg (w.flow.modify i Pitch.undrafted) msg now).1 = some i)
      (hp : (shipTarget cfg (w.flow.modify i Pitch.undrafted) msg now).2.pitches[i]? = some p) :
      Qualifies cfg w i (.host t (some user) now)

/-! ### The flag along a run -/

/-- At most one task holds a request for the pitch that has not failed. -/
lemma World.Once.task_eq (h : w.Once) {t t' : ℕ} {a b : Task} (ha : w.tasks[t]? = some a)
    (hb : w.tasks[t']? = some b) (hclaims : a.stage.claims i = true)
    (hclaims' : b.stage.claims i = true) : t = t' := by
  by_contra hne
  have hcount := countP_set_task ha ⟨a.job, a.user, .done⟩ (fun task => task.stage.claims i)
  have hother : 0 < (w.tasks.set t ⟨a.job, a.user, .done⟩).countP
      (fun task => task.stage.claims i) := by
    have hb' : (w.tasks.set t ⟨a.job, a.user, .done⟩)[t']? = some b := by
      rw [List.getElem?_set_ne hne]
      exact hb
    exact List.countP_pos_iff.2 ⟨b, List.mem_of_getElem? hb', hclaims'⟩
  have hbound := h i
  have hdone : Stage.done.claims i = false := rfl
  simp only [hclaims, if_true, hdone, Bool.false_eq_true, if_false] at hcount
  split_ifs at hbound <;> omega

lemma World.Once.isDrafted (h : w.Once) {task : Task} (htask : w.tasks[t]? = some task)
    (hclaims : task.stage.claims i = true) : w.flow.isDrafted i = true := by
  have hpos : 0 < w.tasks.countP (fun task => task.stage.claims i) :=
    List.countP_pos_iff.2 ⟨task, List.mem_of_getElem? htask, hclaims⟩
  have hbound := h i
  by_contra hclear
  rw [if_neg hclear] at hbound
  omega

/-- A request that ended stays as it ended. -/
lemma drafted_step {job : Job} {user : ℤ} {event : DraftRequested} {raised : Bool}
    (h : w.tasks[t]? = some ⟨job, user, .drafted i event raised⟩) (move : Move) :
    (w.step cfg move).tasks[t]? = some ⟨job, user, .drafted i event raised⟩ := by
  have hset : ∀ {t' : ℕ} {task task' : Task}, w.tasks[t']? = some task →
      (∀ j e r, task.stage ≠ .drafted j e r) →
      (w.tasks.set t' task')[t]? = some ⟨job, user, .drafted i event raised⟩ := by
    intro t' task task' htask hstage
    rw [List.getElem?_set_ne]
    · exact h
    · rintro rfl
      obtain rfl := Option.some.inj (htask.symm.trans h)
      exact hstage _ _ _ rfl
  cases move with
  | begin job' =>
    rw [World.step]
    split
    · rw [List.getElem?_append_left (List.getElem?_eq_some_iff.1 h).1]
      exact h
    · exact h
  | check t' now =>
    rw [World.step]
    split
    · next job' user' htask =>
      split_ifs
      · cases job' <;> exact hset htask fun _ _ _ => Stage.noConfusion
      · exact hset htask fun _ _ _ => Stage.noConfusion
    · exact h
  | host t' answer now =>
    rw [World.step]
    split
    · next htask => exact hset htask fun _ _ _ => Stage.noConfusion
    · exact h
  | ended t' raised' =>
    rw [World.step]
    split
    · next htask => exact hset htask fun _ _ _ => Stage.noConfusion
    · exact h
  | card chat message => exact h

lemma drafted_run {job : Job} {user : ℤ} {event : DraftRequested} {raised : Bool}
    (h : w.tasks[t]? = some ⟨job, user, .drafted i event raised⟩) (moves : List Move) :
    (w.run cfg moves).tasks[t]? = some ⟨job, user, .drafted i event raised⟩ := by
  induction moves generalizing w with
  | nil => exact h
  | cons move moves ih => exact ih (drafted_step h move)

/-- A pitch with a request that has not failed gets no other. -/
lemma not_issues_of_drafted (h : w.Once) {job : Job} {user : ℤ} {event event' : DraftRequested}
    (htask : w.tasks[t]? = some ⟨job, user, .drafted i event false⟩) (move : Move) :
    ¬ w.Issues cfg move i event' := by
  rintro ⟨t', task, htask', hstage, -⟩
  have hkeep := @drafted_step cfg w i t _ _ _ _ htask move
  have heq : t = t' :=
    @World.Once.task_eq _ i (h.step move) _ _ _ _ hkeep htask' (by simp) (by simp [hstage])
  subst heq
  obtain rfl := Option.some.inj (hkeep.symm.trans htask')
  cases hstage

lemma part_isDrafted {f : Flow} {why : Flow → ℕ → Pitch → Trigger → Prop} {user : ℤ} {now : Time}
    {r : Next × Flow} (hpart : Part f why user now r) (h : r.2.isDrafted i = true) :
    f.isDrafted i = true ∨ ∃ event, r.1.stage = .drafting i event := by
  cases hpart with
  | quiet hnext hflags => exact Or.inl (hflags ▸ h)
  | @issues g j p trigger hflags hp hclear hwhy =>
    rw [isDrafted_emit hp] at h
    split_ifs at h with hij
    · exact Or.inr ⟨_, by rw [Next.stage, hij]⟩
    · exact Or.inl (hflags ▸ h)

lemma issues_of_set {move : Move} {task : Task} {event : DraftRequested}
    (htask : w.tasks[t]? = some task) (hstage : ∀ event, task.stage ≠ .drafting i event)
    (hset : (w.step cfg move).tasks = w.tasks.set t { task with stage := .drafting i event }) :
    w.Issues cfg move i event := by
  refine ⟨t, { task with stage := .drafting i event }, ?_, rfl, ?_⟩
  · rw [hset, List.getElem?_set_self (List.getElem?_eq_some_iff.1 htask).1]
  · intro before hbefore
    rw [Option.some.inj (hbefore.symm.trans htask)]
    exact hstage event

/-- Only a request sets the flag of a pitch. -/
lemma isDrafted_step {move : Move} (h : (w.step cfg move).flow.isDrafted i = true) :
    w.flow.isDrafted i = true ∨ ∃ event, w.Issues cfg move i event := by
  cases move with
  | begin job =>
    rw [World.step] at h
    split at h <;> exact Or.inl h
  | check t now =>
    cases htask : w.tasks[t]? with
    | none =>
      simp only [World.step, htask] at h
      exact Or.inl h
    | some task =>
      obtain ⟨job, user, stage⟩ := task
      cases stage with
      | checking =>
        by_cases hallow : cfg.allow job.chatId user = true
        · cases job with
          | message msg =>
            simp only [World.step, htask, hallow, if_true] at h
            rcases part_isDrafted (part_onMessage msg) h with h | ⟨event, hnext⟩
            · exact Or.inl h
            · refine Or.inr ⟨event, issues_of_set htask (fun _ => Stage.noConfusion) ?_⟩
              simp only [World.step, htask, hallow, if_true, hnext]
          | reaction c =>
            simp only [World.step, htask, hallow, if_true] at h
            rcases part_isDrafted (part_onReaction c) h with h | ⟨event, hnext⟩
            · exact Or.inl h
            · refine Or.inr ⟨event, issues_of_set htask (fun _ => Stage.noConfusion) ?_⟩
              simp only [World.step, htask, hallow, if_true, hnext]
        · simp only [World.step, htask, hallow] at h
          exact Or.inl h
      | _ =>
        simp only [World.step, htask] at h
        exact Or.inl h
  | host t answer now =>
    cases htask : w.tasks[t]? with
    | none =>
      simp only [World.step, htask] at h
      exact Or.inl h
    | some task =>
      obtain ⟨job, user, stage⟩ := task
      rw [World.step] at h
      split at h
      · next msg user' heq =>
        rcases part_isDrafted (part_onHost msg answer) h with h | ⟨event, hnext⟩
        · exact Or.inl h
        · refine Or.inr ⟨event, issues_of_set heq (fun _ => Stage.noConfusion) ?_⟩
          rw [World.step, heq]
          simp only [hnext]
      · exact Or.inl h
  | ended t raised =>
    rw [World.step] at h
    split at h
    · cases raised with
      | false => exact Or.inl h
      | true =>
        simp only [draftEnded, if_true, isDrafted_modify] at h
        split_ifs at h with hij
        · simp at h
        · exact Or.inl h
    · exact Or.inl h
  | card chat message => exact Or.inl h

/-- No move of the run requests a draft of the pitch. -/
def QuietOn (cfg : Config) (i : ℕ) : World → List Move → Prop
  | _, [] => True
  | w, move :: moves =>
      (∀ event, ¬ w.Issues cfg move i event) ∧ QuietOn cfg i (w.step cfg move) moves

lemma isDrafted_run_of_quiet {moves : List Move} (hquiet : QuietOn cfg i w moves)
    (h : w.flow.isDrafted i = false) : (w.run cfg moves).flow.isDrafted i = false := by
  induction moves generalizing w with
  | nil => exact h
  | cons move moves ih =>
    refine ih hquiet.2 ?_
    by_contra hset
    rw [Bool.not_eq_false] at hset
    rcases isDrafted_step hset with hbefore | ⟨event, hissues⟩
    · rw [h] at hbefore
      cases hbefore
    · exact hquiet.1 event hissues

/-! ### A fire or a "ship it" after a failure -/

lemma drafted_of_isDrafted {f : Flow} {p : Pitch} (hp : f.pitches[i]? = some p)
    (h : f.isDrafted i = false) : p.drafted = false := by
  simpa [Flow.isDrafted, hp] using h

lemma maybeTrigger_drafts {f : Flow} {p : Pitch} {user : ℤ} {now : Time}
    (hp : f.pitches[i]? = some p) (hclear : p.drafted = false)
    (hfires : cfg.fireThreshold ≤ (p.fireUsers.card : ℤ)) :
    ∃ event, (maybeTrigger cfg f i user now).1 = .draft i event := by
  have hgo : ¬ (p.drafted = true ∨ (p.fireUsers.card : ℤ) < cfg.fireThreshold) := by
    simp [hclear, hfires]
  simp only [maybeTrigger, hp, if_neg hgo]
  exact ⟨_, rfl⟩

/-- A flag that is clear need not be cleared. -/
lemma modify_undrafted {f : Flow} (h : f.isDrafted i = false) : f.modify i Pitch.undrafted = f := by
  have hpitches : f.pitches.modify i Pitch.undrafted = f.pitches := by
    refine List.ext_getElem? fun j => ?_
    rw [List.getElem?_modify]
    split_ifs with hij
    · subst hij
      cases hp : f.pitches[i]? with
      | none => rfl
      | some p =>
        have hclear := drafted_of_isDrafted hp h
        obtain ⟨chatId, messageId, authorId, authorName, text, createdAt, riffIds, reactionFires,
          replyFires, drafted⟩ := p
        obtain rfl : drafted = false := hclear
        rfl
    · simp
  rw [Flow.modify, hpitches]

/-- A fire or a "ship it" on a pitch without a request gets it one. -/
lemma issues_of_qualifies {move : Move} (hclear : w.flow.isDrafted i = false)
    (hmove : Qualifies cfg w i move) : ∃ event, w.Issues cfg move i event := by
  cases hmove with
  | @reaction t now c user p htask hallow hhad hhas hfound hp hfires =>
    have hflags := congrFun (@isDrafted_pitchForTarget cfg w.flow now c.chatId c.messageId false) i
    have hpclear : p.drafted = false := drafted_of_isDrafted hp (hflags.trans hclear)
    have hget := getElem?_modify_of (i := i) (g := fun p : Pitch =>
      { p with reactionFires := insert (c.messageId, user) p.reactionFires }) hp
    rw [if_pos rfl] at hget
    obtain ⟨event, hevent⟩ := @maybeTrigger_drafts cfg i _ _ user now hget hpclear hfires
    have hnext : (onReaction cfg w.flow c user now).1 = .draft i event := by
      simp only [onReaction, hhad, hhas, hfound, Bool.false_eq_true, if_false, if_true, hget,
        Option.any_some, hpclear]
      exact hevent
    have hallow' : cfg.allow (Job.reaction c).chatId user = true := hallow
    refine ⟨event, issues_of_set htask (fun _ => Stage.noConfusion) ?_⟩
    simp only [World.step, htask, hallow', if_true, hnext]
    rfl
  | @reply t now msg user target p htask hallow hfire htarget hfound hp hfires =>
    have hflags := congrFun ((@isDrafted_pitchForTarget cfg (entered cfg w.flow msg now) now
      msg.chatId target msg.replyToIsBot).trans (isDrafted_entered msg now)) i
    have hpclear : p.drafted = false := drafted_of_isDrafted hp (hflags.trans hclear)
    have hget := getElem?_modify_of (i := i) (g := fun p : Pitch =>
      { p with replyFires := insert user p.replyFires }) hp
    rw [if_pos rfl] at hget
    obtain ⟨event, hevent⟩ := @maybeTrigger_drafts cfg i _ _ user now hget hpclear hfires
    have hnext : (onMessage cfg w.flow msg user now).1 = .draft i event := by
      simp only [onMessage, hfire, if_true, fireReply, htarget, hfound, hp, Option.any_some,
        hpclear, Bool.false_eq_true, if_false]
      exact hevent
    have hallow' : cfg.allow (Job.message msg).chatId user = true := hallow
    refine ⟨event, issues_of_set htask (fun _ => Stage.noConfusion) ?_⟩
    simp only [World.step, htask, hallow', if_true, hnext]
    rfl
  | @shipIt t now msg user p htask hfound hp =>
    rw [modify_undrafted hclear] at hfound hp
    have hflags := congrFun (@isDrafted_shipTarget cfg w.flow msg now) i
    have hpclear : p.drafted = false := drafted_of_isDrafted hp (hflags.trans hclear)
    have hnext : ∃ event, (onHost cfg w.flow msg user (some user) now).1 = .draft i event := by
      simp only [onHost, ne_eq, not_true_eq_false, if_false, hfound, hp, hpclear,
        Bool.false_eq_true]
      exact ⟨_, rfl⟩
    obtain ⟨event, hnext⟩ := hnext
    refine ⟨event, issues_of_set htask (fun _ => Stage.noConfusion) ?_⟩
    rw [World.step, htask]
    simp only [hnext]
    rfl

/-- Three fires earn Alice's pitch a draft, and a fourth one waits for the sender check. -/
def fourFires : List Move := threeFires ++ [.begin (.reaction (addsFire 100 6))]

def earnedDraft : DraftRequested :=
  { ideaBy := 1, text := "long ETH", sourceMessageId := 100, chatId := 1, trigger := .fire,
    triggeredBy := 5, fireCount := 3, ideaByName := "", createdAt := 0 }

lemma fourFires_drafting : (World.run openChat {} fourFires).tasks[3]? =
    some ⟨.reaction (addsFire 100 5), 5, .drafting 0 earnedDraft⟩ := by
  with_unfolding_all rfl

/-- The pitch's draft request ends as the store makes it end. -/
def afterFailure (raised : Bool) : World :=
  (World.run openChat {} fourFires).step openChat (.ended 3 raised)

lemma afterFailure_qualifies (raised : Bool) :
    Qualifies openChat (afterFailure raised) 0 (.check 4 0) := by
  have hany : (((afterFailure raised).flow.pitchForTarget openChat 0 1 100 false).2.pitches[0]?).any
      (fun p => 3 ≤ (({ p with reactionFires := insert (100, 6) p.reactionFires } :
        Pitch).fireUsers.card : ℤ)) = true := by
    cases raised <;> decide +kernel
  obtain ⟨p, hp, hfires⟩ := (Option.any_eq_true _ _).1 hany
  refine @Qualifies.reaction _ _ _ 4 0 (addsFire 100 6) 6 p ?_ rfl ?_ ?_ ?_ hp (of_decide_eq_true hfires)
  · cases raised <;> with_unfolding_all rfl
  · decide +kernel
  · decide +kernel
  · cases raised <;> decide +kernel

/-- A fund of the chat; its update fails. -/
def failingStore (x : Failure) : Store where
  names := some ["alpha"]
  load := fun name => .ok { fund := { name, telegramChatId := "1" } }
  update := .error x
  write := .ok ()

end SherwoodMonitor.PitchFlow
