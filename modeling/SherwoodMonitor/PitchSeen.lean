import SherwoodMonitor.PitchSafety

/-! What the flow knows of the members' messages. A reaction on a message that the flow has noted,
and that stands for no pitch, changes nothing. -/
namespace SherwoodMonitor.PitchFlow
open Models PitchText

variable {cfg : Config} {f : Flow} {c m : ℤ} {k : ℕ}

/-- The message is among the last that the flow has noted in the chat, with at most `k` behind it,
and it stands for no pitch. -/
structure Noted (f : Flow) (c m : ℤ) (k : ℕ) : Prop where
  recent : ∃ older newer, f.seenHuman c = older ++ m :: newer ∧ m ∉ older ∧ newer.length ≤ k
  short : (f.seenHuman c).length ≤ 1000
  known : m ∈ f.seenHumanSet c
  unlinked : f.byMsg (c, m) = none

lemma Noted.of_tables {g : Flow} (h : Noted f c m k) (hseen : g.seenHuman = f.seenHuman)
    (hset : g.seenHumanSet = f.seenHumanSet) (hby : g.byMsg (c, m) = none) : Noted g c m k where
  recent := hseen ▸ h.recent
  short := hseen ▸ h.short
  known := hset ▸ h.known
  unlinked := hby

lemma byMsg_prune_of_none {now : Time} {chat : ℤ} {key : ℤ × ℤ} (h : f.byMsg key = none) :
    (f.prune cfg now chat).byMsg key = none := by
  rw [Option.eq_none_iff_forall_ne_some]
  intro i hi
  rw [byMsg_prune hi] at h
  cases h

lemma Noted.prune (h : Noted f c m k) (now : Time) (chat : ℤ) :
    Noted (f.prune cfg now chat) c m k :=
  h.of_tables rfl rfl (byMsg_prune_of_none h.unlinked)

lemma Noted.modify (h : Noted f c m k) (i : ℕ) (g : Pitch → Pitch) : Noted (f.modify i g) c m k :=
  h.of_tables rfl rfl h.unlinked

/-- The lookup of the message itself finds no pitch and changes nothing. -/
lemma Noted.pitchForTarget_self (h : Noted f c m k) (now : Time) :
    f.pitchForTarget cfg now c m false = (none, f) := by
  rw [Flow.pitchForTarget, h.unlinked]
  simp [h.known]

lemma seen_pitchForTarget (now : Time) (chat target : ℤ) (bot : Bool) :
    (f.pitchForTarget cfg now chat target bot).2.seenHuman = f.seenHuman ∧
      (f.pitchForTarget cfg now chat target bot).2.seenHumanSet = f.seenHumanSet := by
  rw [Flow.pitchForTarget]
  split
  · exact ⟨rfl, rfl⟩
  · split_ifs
    · exact ⟨rfl, rfl⟩
    · exact ⟨rfl, rfl⟩
    · dsimp only
      split <;> exact ⟨rfl, rfl⟩

lemma Noted.pitchForTarget (h : Noted f c m k) {now : Time} {chat target : ℤ} {bot : Bool}
    (hbot : chat = c → target = m → bot = false) :
    Noted (f.pitchForTarget cfg now chat target bot).2 c m k := by
  by_cases hself : (c, m) = (chat, target)
  · obtain ⟨rfl, rfl⟩ := Prod.mk.inj hself
    rw [hbot rfl rfl, h.pitchForTarget_self]
    exact h
  · have hnone := @byMsg_pitchForTarget_of_ne cfg f now chat target bot _ hself h.unlinked
    have hseen := @seen_pitchForTarget cfg f now chat target bot
    exact h.of_tables hseen.1 hseen.2 hnone

/-- A message of the chat is noted behind the others; the oldest may have to go. -/
lemma Noted.seen (h : Noted f c m k) (hk : k + 1 < 1000) (m' : ℤ) :
    Noted (f.seen c m') c m (k + 1) := by
  obtain ⟨older, newer, hsplit, hfresh, hlen⟩ := h.recent
  have hshort := h.short
  by_cases hfull : (f.seenHuman c).length = 1000
  · cases older with
    | nil =>
      simp only [hsplit, List.nil_append, List.length_cons] at hfull
      omega
    | cons oldest older =>
      obtain ⟨hne, hfresh⟩ : m ≠ oldest ∧ m ∉ older := by simpa [not_or] using hfresh
      have hsplit' : f.seenHuman c = oldest :: (older ++ m :: newer) := hsplit
      refine ⟨⟨older, newer ++ [m'], ?_, hfresh, by simpa using hlen⟩, ?_, ?_, h.unlinked⟩
      · simp only [Flow.seen, hfull, if_true, Function.update_self]
        simp [hsplit']
      · simp only [Flow.seen, hfull, if_true, Function.update_self, List.length_append,
          List.length_tail, List.length_singleton]
        omega
      · simp only [Flow.seen, hfull, if_true, Function.update_self, Finset.mem_insert]
        simp only [hsplit']
        exact Or.inr (Finset.mem_erase.2 ⟨hne, h.known⟩)
  · refine ⟨⟨older, newer ++ [m'], ?_, hfresh, by simpa using hlen⟩, ?_, ?_, h.unlinked⟩
    · simp only [Flow.seen, hfull, if_false, Function.update_self]
      simp [hsplit]
    · simp only [Flow.seen, hfull, if_false, Function.update_self, List.length_append,
        List.length_singleton]
      omega
    · simp only [Flow.seen, hfull, if_false, Function.update_self, Finset.mem_insert]
      right
      split <;> exact h.known

lemma seenHuman_seen_of_ne {chat : ℤ} (hne : c ≠ chat) (m' : ℤ) :
    (f.seen chat m').seenHuman c = f.seenHuman c := Function.update_of_ne hne _ _

lemma seenHumanSet_seen_of_ne {chat : ℤ} (hne : c ≠ chat) (m' : ℤ) :
    (f.seen chat m').seenHumanSet c = f.seenHumanSet c := Function.update_of_ne hne _ _

lemma Noted.seen_other (h : Noted f c m k) {chat : ℤ} (hne : c ≠ chat) (m' : ℤ) :
    Noted (f.seen chat m') c m k where
  recent := by
    rw [seenHuman_seen_of_ne hne]
    exact h.recent
  short := by
    rw [seenHuman_seen_of_ne hne]
    exact h.short
  known := by
    rw [seenHumanSet_seen_of_ne hne]
    exact h.known
  unlinked := h.unlinked

/-- A message is noted when it is handled first. -/
lemma noted_first {now : Time} (hfirst : m ∉ f.seenHuman c) (hshort : (f.seenHuman c).length ≤ 1000)
    (hunlinked : (f.prune cfg now c).byMsg (c, m) = none) :
    Noted ((f.seen c m).prune cfg now c) c m 0 where
  recent := by
    by_cases hfull : (f.seenHuman c).length = 1000
    · refine ⟨(f.seenHuman c).tail, [], ?_, fun h => hfirst (List.mem_of_mem_tail h), le_refl 0⟩
      simp [Flow.prune, Flow.seen, hfull]
    · exact ⟨f.seenHuman c, [], by simp [Flow.prune, Flow.seen, hfull], hfirst, le_refl 0⟩
  short := by
    by_cases hfull : (f.seenHuman c).length = 1000
    · simp [Flow.prune, Flow.seen, hfull]
    · simp only [Flow.prune, Flow.seen, hfull, if_false, Function.update_self, List.length_append,
        List.length_singleton]
      omega
  known := by simp [Flow.prune, Flow.seen]
  unlinked := hunlinked

/-! ### The handlers -/

variable {msg : Message} {user : ℤ} {now : Time}

/-- An answer to the message is not taken for one to the bot. -/
def NotBots (c m : ℤ) (msg : Message) : Prop :=
  msg.chatId = c → msg.replyTo = some m → msg.replyToIsBot = false

lemma Noted.maybeTrigger (h : Noted f c m k) (i : ℕ) :
    Noted (maybeTrigger cfg f i user now).2 c m k := by
  rw [PitchFlow.maybeTrigger]
  split
  · exact h
  · split_ifs
    · exact h
    · exact h.modify i _

lemma Noted.fireReply (h : Noted f c m k) (hbot : NotBots c m msg) :
    Noted (fireReply cfg f msg user now).2 c m k := by
  rw [PitchFlow.fireReply]
  split
  · exact h
  · next target htarget =>
    have hlook : Noted (f.pitchForTarget cfg now msg.chatId target msg.replyToIsBot).2 c m k :=
      h.pitchForTarget fun hc ht => hbot hc (ht ▸ htarget)
    dsimp only
    split
    · exact hlook
    · next i hi =>
      split_ifs
      · exact hlook
      · exact (hlook.modify i _).maybeTrigger i

/-- What follows once the flow has noted a message of its own. -/
lemma Noted.entered (h : Noted ((f.seen msg.chatId msg.messageId).prune cfg now msg.chatId) c m k)
    (hbot : NotBots c m msg) : Noted (entered cfg f msg now) c m k := by
  rw [PitchFlow.entered]
  split
  · next target htarget =>
    split_ifs with hisBot
    · refine h.pitchForTarget fun hc ht => ?_
      rw [← hisBot]
      exact hbot hc (ht ▸ htarget)
    · exact h
  · exact h

lemma Noted.register (h : Noted f c m k) (hne : (c, m) ≠ (msg.chatId, msg.messageId)) :
    Noted (f.register cfg now msg user) c m k :=
  h.of_tables rfl rfl
    (byMsg_prune_of_none ((Function.update_of_ne hne _ _).trans h.unlinked))

lemma Noted.onMessage (h : Noted (PitchFlow.entered cfg f msg now) c m k) (hbot : NotBots c m msg)
    (hne : registers cfg msg = true → (c, m) ≠ (msg.chatId, msg.messageId)) :
    Noted (onMessage cfg f msg user now).2 c m k := by
  rw [PitchFlow.onMessage]
  split_ifs with hfire hship hpitch
  · exact h.fireReply hbot
  · exact h
  · exact h.register (hne (by simp [registers, hfire, hship, hpitch]))
  · exact h

lemma Noted.onHost (h : Noted f c m k) (hbot : NotBots c m msg) (host : Option ℤ) :
    Noted (onHost cfg f msg user host now).2 c m k := by
  have htarget : Noted (shipTarget cfg f msg now).2 c m k := by
    unfold shipTarget
    cases hreply : msg.replyTo with
    | none =>
      dsimp only
      split <;> exact h.prune now _
    | some target =>
      have hlook : Noted (f.pitchForTarget cfg now msg.chatId target msg.replyToIsBot).2 c m k :=
        h.pitchForTarget fun hc ht => hbot hc (ht ▸ hreply)
      dsimp only
      split
      · exact hlook
      · split <;> exact hlook.prune now _
  simp only [PitchFlow.onHost]
  split_ifs
  · exact h
  · split
    · exact htarget
    · split
      · exact htarget
      · split_ifs
        · exact htarget
        · exact htarget.modify _ _

lemma Noted.onReaction (h : Noted f c m k) (change : ReactionChange) :
    Noted (onReaction cfg f change user now).2 c m k := by
  have hlook : Noted (f.pitchForTarget cfg now change.chatId change.messageId false).2 c m k :=
    h.pitchForTarget fun _ _ => rfl
  simp only [PitchFlow.onReaction]
  split_ifs
  · exact h
  · split
    · exact hlook
    · split_ifs
      · exact hlook.modify _ _
      · exact (hlook.modify _ _).maybeTrigger _
  · split
    · exact hlook
    · exact hlook.modify _ _

/-- A reaction on the message itself changes nothing. -/
lemma Noted.onReaction_self {change : ReactionChange} (h : Noted f change.chatId change.messageId k) :
    PitchFlow.onReaction cfg f change user now = (.done, f) := by
  simp only [PitchFlow.onReaction, h.pitchForTarget_self, ite_self]

/-! ### What the flow has noted -/

lemma seenHuman_maybeTrigger (i : ℕ) :
    (maybeTrigger cfg f i user now).2.seenHuman = f.seenHuman := by
  rw [maybeTrigger]
  split
  · rfl
  · split_ifs <;> rfl

lemma seenHuman_entered : (entered cfg f msg now).seenHuman =
    (f.seen msg.chatId msg.messageId).seenHuman := by
  rw [entered]
  split
  · split_ifs
    · exact (seen_pitchForTarget _ _ _ _).1
    · rfl
  · rfl

lemma seenHuman_fireReply : (fireReply cfg f msg user now).2.seenHuman = f.seenHuman := by
  rw [fireReply]
  split
  · rfl
  · next target htarget =>
    have hlook := (@seen_pitchForTarget cfg f now msg.chatId target msg.replyToIsBot).1
    dsimp only
    split
    · exact hlook
    · split_ifs
      · exact hlook
      · exact (seenHuman_maybeTrigger _).trans hlook

/-- A message that is handled is noted, and nothing else is. -/
lemma seenHuman_onMessage : (onMessage cfg f msg user now).2.seenHuman =
    (f.seen msg.chatId msg.messageId).seenHuman := by
  rw [onMessage]
  split_ifs
  · exact seenHuman_fireReply.trans seenHuman_entered
  · exact seenHuman_entered
  · exact (show _ = (entered cfg f msg now).seenHuman from rfl).trans seenHuman_entered
  · exact seenHuman_entered

lemma seenHuman_onHost (host : Option ℤ) :
    (onHost cfg f msg user host now).2.seenHuman = f.seenHuman := by
  have htarget : (shipTarget cfg f msg now).2.seenHuman = f.seenHuman := by
    unfold shipTarget
    cases msg.replyTo with
    | none =>
      dsimp only
      split <;> rfl
    | some target =>
      have hlook := (@seen_pitchForTarget cfg f now msg.chatId target msg.replyToIsBot).1
      dsimp only
      split
      · exact hlook
      · split <;> exact hlook
  simp only [onHost]
  split_ifs
  · rfl
  · split
    · exact htarget
    · split
      · exact htarget
      · split_ifs <;> exact htarget

lemma seenHuman_onReaction (change : ReactionChange) :
    (onReaction cfg f change user now).2.seenHuman = f.seenHuman := by
  have hlook := (@seen_pitchForTarget cfg f now change.chatId change.messageId false).1
  simp only [onReaction]
  split_ifs
  · rfl
  · split
    · exact hlook
    · split_ifs
      · exact hlook
      · exact (seenHuman_maybeTrigger _).trans hlook
  · split <;> exact hlook

/-! ### Runs -/

/-- The chat and the id of a message. -/
def Job.key : Job → Option (ℤ × ℤ)
  | .message msg => some (msg.chatId, msg.messageId)
  | .reaction _ => none

def World.jobs (w : World) : List Job := w.tasks.map (·.job)

/-- No two messages of the run have one id in a chat. -/
def World.DistinctIds (w : World) : Prop := (w.jobs.filterMap Job.key).Nodup

lemma stage_ne_checking (next : Next) : next.stage ≠ .checking := by
  cases next <;> exact Stage.noConfusion

/-- A step adds a task, or a task of the list goes on, or the tasks are as they were. -/
lemma tasks_step (w : World) (move : Move) :
    (∃ job user, (w.step cfg move).tasks = w.tasks ++ [⟨job, user, .checking⟩]) ∨
    (∃ t job user stage stage', w.tasks[t]? = some ⟨job, user, stage⟩ ∧ stage' ≠ .checking ∧
      (w.step cfg move).tasks = w.tasks.set t ⟨job, user, stage'⟩) ∨
    (w.step cfg move).tasks = w.tasks := by
  cases move with
  | begin job =>
    rw [World.step]
    split
    · next user _ => exact Or.inl ⟨job, user, rfl⟩
    · exact Or.inr (Or.inr rfl)
  | check t now =>
    rw [World.step]
    split
    · next job user htask =>
      split_ifs
      · cases job with
        | message msg =>
          exact Or.inr (Or.inl ⟨t, _, user, _, _, htask, stage_ne_checking _, rfl⟩)
        | reaction change =>
          exact Or.inr (Or.inl ⟨t, _, user, _, _, htask, stage_ne_checking _, rfl⟩)
      · exact Or.inr (Or.inl ⟨t, job, user, _, _, htask, Stage.noConfusion, rfl⟩)
    · exact Or.inr (Or.inr rfl)
  | host t answer now =>
    rw [World.step]
    split
    · next msg user htask =>
      exact Or.inr (Or.inl ⟨t, _, user, _, _, htask, stage_ne_checking _, rfl⟩)
    · exact Or.inr (Or.inr rfl)
  | ended t raised =>
    rw [World.step]
    split
    · next job user i event htask =>
      exact Or.inr (Or.inl ⟨t, job, user, _, _, htask, Stage.noConfusion, rfl⟩)
    · exact Or.inr (Or.inr rfl)
  | card chat message => exact Or.inr (Or.inr rfl)

lemma jobs_set {w : World} {t : ℕ} {job : Job} {user : ℤ} {stage stage' : Stage}
    (h : w.tasks[t]? = some ⟨job, user, stage⟩) :
    (w.tasks.set t ⟨job, user, stage'⟩).map (·.job) = w.jobs := by
  obtain ⟨ht, hget⟩ := List.getElem?_eq_some_iff.1 h
  have hlen : t < w.jobs.length := by simpa [World.jobs] using ht
  have hjob : w.jobs[t] = job := by simp [World.jobs, hget]
  rw [List.map_set, ← hjob]
  exact List.set_getElem_self hlen

lemma jobs_prefix_step (w : World) (move : Move) : w.jobs <+: (w.step cfg move).jobs := by
  rcases @tasks_step cfg w move with ⟨job, user, htasks⟩ | ⟨t, job, user, stage, stage', h, -, htasks⟩ |
    htasks
  · simp [World.jobs, htasks]
  · rw [World.jobs.eq_def (w.step cfg move), htasks, jobs_set h]
  · simp [World.jobs, htasks]

lemma jobs_prefix_run (w : World) (moves : List Move) : w.jobs <+: (w.run cfg moves).jobs := by
  induction moves generalizing w with
  | nil => exact List.prefix_rfl
  | cons move moves ih => exact (jobs_prefix_step w move).trans (ih _)

lemma World.DistinctIds.of_prefix {w w' : World} (h : w'.DistinctIds) (hjobs : w.jobs <+: w'.jobs) :
    w.DistinctIds :=
  h.sublist (hjobs.filterMap Job.key).sublist

/-- A message has one task. -/
lemma World.DistinctIds.task_eq {w : World} (h : w.DistinctIds) {t t' : ℕ} {task task' : Task}
    {key : ℤ × ℤ} (ht : w.tasks[t]? = some task) (ht' : w.tasks[t']? = some task')
    (hkey : task.job.key = some key) (hkey' : task'.job.key = some key) : t = t' := by
  have hpair : w.tasks.Pairwise fun a b => ∀ k, a.job.key = some k → b.job.key ≠ some k := by
    have hkeys := List.pairwise_map.1 (List.pairwise_filterMap.1 h)
    exact hkeys.imp fun hab k ha hb => hab k ha k hb rfl
  obtain ⟨hlt, rfl⟩ := List.getElem?_eq_some_iff.1 ht
  obtain ⟨hlt', rfl⟩ := List.getElem?_eq_some_iff.1 ht'
  rw [List.pairwise_iff_getElem] at hpair
  rcases lt_trichotomy t t' with h | h | h
  · exact absurd hkey' (hpair t t' hlt hlt' h key hkey)
  · exact h
  · exact absurd hkey (hpair t' t hlt' hlt h key hkey')

/-- The task is past its check. -/
def World.Handled (w : World) (t : ℕ) (key : ℤ × ℤ) : Prop :=
  ∃ task : Task, w.tasks[t]? = some task ∧ task.stage ≠ .checking ∧ task.job.key = some key

lemma World.Handled.step {w : World} {t : ℕ} {key : ℤ × ℤ} (h : w.Handled t key) (move : Move) :
    (w.step cfg move).Handled t key := by
  obtain ⟨task, htask, hstage, hkey⟩ := h
  rcases @tasks_step cfg w move with ⟨job, user, htasks⟩ |
    ⟨t', job, user, stage, stage', hbefore, hstage', htasks⟩ | htasks
  · refine ⟨task, ?_, hstage, hkey⟩
    rw [htasks, List.getElem?_append_left (List.getElem?_eq_some_iff.1 htask).1]
    exact htask
  · by_cases heq : t' = t
    · subst heq
      obtain rfl := Option.some.inj (htask.symm.trans hbefore)
      refine ⟨⟨job, user, stage'⟩, ?_, hstage', hkey⟩
      rw [htasks, List.getElem?_set_self (List.getElem?_eq_some_iff.1 htask).1]
    · refine ⟨task, ?_, hstage, hkey⟩
      rw [htasks, List.getElem?_set_ne heq]
      exact htask
  · exact ⟨task, htasks ▸ htask, hstage, hkey⟩

/-- Every message that the flow has noted belongs to a task that is past its check. -/
def World.SeenByTasks (w : World) : Prop :=
  ∀ c, (w.flow.seenHuman c).length ≤ 1000 ∧ ∀ m ∈ w.flow.seenHuman c, ∃ t, w.Handled t (c, m)

lemma length_seen (h : (f.seenHuman c).length ≤ 1000) (chat m' : ℤ) :
    ((f.seen chat m').seenHuman c).length ≤ 1000 := by
  by_cases hc : c = chat
  · subst hc
    simp only [Flow.seen, Function.update_self]
    split_ifs with hfull <;> simp <;> omega
  · rwa [seenHuman_seen_of_ne hc]

lemma mem_seen {chat m' : ℤ} (h : m ∈ (f.seen chat m').seenHuman c) :
    m ∈ f.seenHuman c ∨ (c, m) = (chat, m') := by
  by_cases hc : c = chat
  · subst hc
    simp only [Flow.seen, Function.update_self, List.mem_append, List.mem_singleton] at h
    rcases h with h | rfl
    · split_ifs at h
      · exact Or.inl (List.mem_of_mem_tail h)
      · exact Or.inl h
    · exact Or.inr rfl
  · rw [seenHuman_seen_of_ne hc] at h
    exact Or.inl h

lemma World.SeenByTasks.step {w : World} (h : w.SeenByTasks) (move : Move) :
    (w.step cfg move).SeenByTasks := by
  have hkeep : (w.step cfg move).flow.seenHuman = w.flow.seenHuman →
      (w.step cfg move).SeenByTasks := by
    intro hseen c
    rw [hseen]
    refine ⟨(h c).1, fun m hm => ?_⟩
    obtain ⟨t, ht⟩ := (h c).2 m hm
    exact ⟨t, ht.step move⟩
  cases move with
  | begin job =>
    refine hkeep ?_
    rw [World.step]
    split <;> rfl
  | check t now =>
    cases htask : w.tasks[t]? with
    | none => exact hkeep (by simp only [World.step, htask])
    | some task =>
      obtain ⟨job, user, stage⟩ := task
      cases stage with
      | checking =>
        by_cases hallow : cfg.allow job.chatId user = true
        · cases job with
          | message msg =>
            have hseen : (w.step cfg (.check t now)).flow.seenHuman =
                (w.flow.seen msg.chatId msg.messageId).seenHuman := by
              simp only [World.step, htask, hallow, if_true]
              exact seenHuman_onMessage
            intro c
            rw [hseen]
            refine ⟨length_seen (h c).1 _ _, fun m hm => ?_⟩
            rcases mem_seen hm with hm | heq
            · obtain ⟨t', ht'⟩ := (h c).2 m hm
              exact ⟨t', ht'.step _⟩
            · refine ⟨t, ?_⟩
              simp only [World.Handled, World.step, htask, hallow, if_true]
              refine ⟨_, List.getElem?_set_self (List.getElem?_eq_some_iff.1 htask).1,
                stage_ne_checking _, ?_⟩
              rw [heq]
              rfl
          | reaction change =>
            refine hkeep ?_
            simp only [World.step, htask, hallow, if_true]
            exact seenHuman_onReaction change
        · exact hkeep (by simp only [World.step, htask, hallow]; rfl)
      | _ => exact hkeep (by simp only [World.step, htask])
  | host t answer now =>
    refine hkeep ?_
    rw [World.step]
    split
    · exact seenHuman_onHost answer
    · rfl
  | ended t raised =>
    refine hkeep ?_
    rw [World.step]
    split
    · cases raised <;> rfl
    · rfl
  | card chat message => exact hkeep rfl

lemma seenByTasks_run {w : World} (h : w.SeenByTasks) (moves : List Move) :
    (w.run cfg moves).SeenByTasks := by
  induction moves generalizing w with
  | nil => exact h
  | cons move moves ih => exact ih (h.step move)

/-- The move handles a message of the chat, whose sender is allowed. -/
def World.notes (cfg : Config) (w : World) (c : ℤ) : Move → Bool
  | .check t _ =>
      match w.tasks[t]? with
      | some ⟨.message msg, user, .checking⟩ => msg.chatId = c && cfg.allow c user
      | _ => false
  | _ => false

/-- How many messages of the chat a run handles. -/
def notedIn (cfg : Config) (c : ℤ) : World → List Move → ℕ
  | _, [] => 0
  | w, move :: moves => (w.notes cfg c move).toNat + notedIn cfg c (w.step cfg move) moves

/-- A step leaves the message noted, with the one more behind it that the step may handle. -/
lemma Noted.step {w : World} (h : Noted w.flow c m k) {t : ℕ} (hhandled : w.Handled t (c, m))
    (hids : w.DistinctIds) (hbot : ∀ msg, Job.message msg ∈ w.jobs → NotBots c m msg) {move : Move}
    (hk : k + (w.notes cfg c move).toNat < 1000) :
    Noted (w.step cfg move).flow c m (k + (w.notes cfg c move).toNat) := by
  have hmem : ∀ {t' : ℕ} {msg : Message} {user : ℤ} {stage : Stage},
      w.tasks[t']? = some (⟨.message msg, user, stage⟩ : Task) → NotBots c m msg := by
    intro t' msg user stage htask
    exact hbot msg (List.mem_map.2 ⟨_, List.mem_of_getElem? htask, rfl⟩)
  cases move with
  | begin job =>
    rw [World.step]
    split <;> exact h
  | check t' now =>
    cases htask : w.tasks[t']? with
    | none =>
      simp only [World.step, htask, World.notes]
      exact h
    | some task =>
      obtain ⟨job, user, stage⟩ := task
      cases stage with
      | checking =>
        by_cases hallow : cfg.allow job.chatId user = true
        · cases job with
          | message msg =>
            have hother : (c, m) ≠ (msg.chatId, msg.messageId) := by
              rintro heq
              obtain ⟨task, ht, hstage, hkey⟩ := hhandled
              obtain rfl := hids.task_eq ht htask hkey (congrArg some heq.symm)
              obtain rfl := Option.some.inj (ht.symm.trans htask)
              exact hstage rfl
            simp only [World.step, htask, hallow, if_true]
            refine Noted.onMessage (Noted.entered ?_ (hmem htask)) (hmem htask) fun _ => hother
            refine Noted.prune ?_ now _
            by_cases hc : msg.chatId = c
            · subst hc
              have hone : w.notes cfg msg.chatId (.check t' now) = true := by
                simp only [World.notes, htask, decide_true, Bool.true_and]
                exact hallow
              rw [hone] at hk ⊢
              exact h.seen hk _
            · have hzero : w.notes cfg c (.check t' now) = false := by
                simp [World.notes, htask, hc]
              rw [hzero]
              exact h.seen_other (Ne.symm hc) _
          | reaction change =>
            simp only [World.step, htask, hallow, if_true, World.notes]
            exact h.onReaction change
        · have hzero : w.notes cfg c (.check t' now) = false := by
            cases job with
            | message msg =>
              simp only [World.notes, htask, Bool.and_eq_false_iff, decide_eq_false_iff_not]
              by_cases hc : msg.chatId = c
              · exact Or.inr (by simpa [hc, Job.chatId] using hallow)
              · exact Or.inl hc
            | reaction change => simp only [World.notes, htask]
          rw [hzero]
          simp only [World.step, htask, hallow]
          exact h
      | _ =>
        simp only [World.step, htask, World.notes]
        exact h
  | host t' answer now =>
    rw [World.step]
    split
    · next msg user htask => exact h.onHost (hmem htask) answer
    · exact h
  | ended t' raised =>
    rw [World.step]
    split
    · cases raised with
      | false => exact h
      | true => exact h.modify _ _
    · exact h
  | card chat message => exact h.of_tables rfl rfl h.unlinked

lemma noted_run {w : World} (h : Noted w.flow c m k) {t : ℕ} (hhandled : w.Handled t (c, m))
    {moves : List Move} (hids : (w.run cfg moves).DistinctIds)
    (hbot : ∀ msg, Job.message msg ∈ (w.run cfg moves).jobs → NotBots c m msg)
    (hk : k + notedIn cfg c w moves < 1000) :
    Noted (w.run cfg moves).flow c m (k + notedIn cfg c w moves) := by
  induction moves generalizing w k with
  | nil => exact h
  | cons move moves ih =>
    have hpre : w.jobs <+: ((w.step cfg move).run cfg moves).jobs :=
      jobs_prefix_run w (move :: moves)
    rw [notedIn, ← add_assoc] at hk ⊢
    refine ih (h.step hhandled (hids.of_prefix hpre) ?_ (by omega)) (hhandled.step move) hids hbot
      hk
    exact fun msg hmsg => hbot msg (hpre.mem hmsg)

lemma seenByTasks_empty : World.SeenByTasks {} := fun _ => ⟨Nat.zero_le _, fun _ h => nomatch h⟩

/-- A message of an allowed sender that is no pitch, and that no pitch has when the flow handles it:
a later reaction on it leaves the flow as it is, as long as fewer than a thousand messages of the
chat have been handled in between. -/
theorem reaction_on_message_ignored {before between : List Move} {t t' : ℕ} {now now' : Time}
    {msg : Message} {user user' : ℤ} {change : ReactionChange}
    (htask : (World.run cfg {} before).tasks[t]? = some ⟨.message msg, user, .checking⟩)
    (hallow : cfg.allow msg.chatId user = true) (hpitch : registers cfg msg = false)
    (hunlinked : ((World.run cfg {} before).flow.prune cfg now msg.chatId).byMsg
      (msg.chatId, msg.messageId) = none)
    (hids : (World.run cfg {} (before ++ .check t now :: between)).DistinctIds)
    (hbot : ∀ other, Job.message other ∈
      (World.run cfg {} (before ++ .check t now :: between)).jobs →
        NotBots msg.chatId msg.messageId other)
    (hrecent : notedIn cfg msg.chatId (World.run cfg {} (before ++ [.check t now])) between < 1000)
    (hreaction : (World.run cfg {} (before ++ .check t now :: between)).tasks[t']? =
      some ⟨.reaction change, user', .checking⟩)
    (hchange : change.chatId = msg.chatId ∧ change.messageId = msg.messageId) :
    ((World.run cfg {} (before ++ .check t now :: between)).step cfg (.check t' now')).flow =
      (World.run cfg {} (before ++ .check t now :: between)).flow := by
  set w := World.run cfg {} before with hw
  have hrun : World.run cfg {} (before ++ .check t now :: between) =
      (w.step cfg (.check t now)).run cfg between := by
    rw [hw, World.run, List.foldl_append]
    rfl
  have hfirst : World.run cfg {} (before ++ [.check t now]) = w.step cfg (.check t now) := by
    rw [hw, World.run, List.foldl_append]
    rfl
  rw [hfirst] at hrecent
  rw [hrun] at hids hbot hreaction ⊢
  have hjobs : w.jobs <+: ((w.step cfg (.check t now)).run cfg between).jobs :=
    jobs_prefix_run w (.check t now :: between)
  have hmine : NotBots msg.chatId msg.messageId msg :=
    hbot msg (hjobs.mem (List.mem_map.2 ⟨_, List.mem_of_getElem? htask, rfl⟩))
  obtain ⟨hshort, hseen⟩ := @seenByTasks_run cfg _ seenByTasks_empty before msg.chatId
  have hnew : msg.messageId ∉ w.flow.seenHuman msg.chatId := by
    intro hm
    obtain ⟨t₀, task, ht, hstage, hkey⟩ := hseen _ hm
    obtain rfl := (hids.of_prefix hjobs).task_eq ht htask hkey rfl
    obtain rfl := Option.some.inj (ht.symm.trans htask)
    exact hstage rfl
  have hallow' : cfg.allow (Job.message msg).chatId user = true := hallow
  have hnoted : Noted (w.step cfg (.check t now)).flow msg.chatId msg.messageId 0 := by
    simp only [World.step, htask, hallow', if_true]
    exact ((noted_first hnew hshort hunlinked).entered hmine).onMessage hmine
      fun h => absurd h (by simp [hpitch])
  have hhandled : (w.step cfg (.check t now)).Handled t (msg.chatId, msg.messageId) := by
    simp only [World.Handled, World.step, htask, hallow', if_true]
    exact ⟨_, List.getElem?_set_self (List.getElem?_eq_some_iff.1 htask).1, stage_ne_checking _, rfl⟩
  have hlast := noted_run hnoted hhandled hids hbot (by omega)
  rw [← hchange.1, ← hchange.2] at hlast
  by_cases hallowed : cfg.allow (Job.reaction change).chatId user' = true
  · rw [World.step, hreaction]
    simp only [hallowed, if_true, hlast.onReaction_self]
  · rw [World.step, hreaction]
    simp only [hallowed]
    rfl

def talk (id user : ℤ) : Message :=
  { chatId := 1, messageId := id, userId := some user, text := "gm" }

def pitchThenTalk : List Move :=
  inTurn 0 [.message (pitchMessage 100 1)] ++ [.begin (.message (talk 101 2))]

theorem reaction_on_message_ignored_talk :
    ((World.run openChat {}
      (pitchThenTalk ++ .check 1 0 :: [.begin (.reaction (addsFire 101 3))])).step openChat
        (.check 2 0)).flow =
      (World.run openChat {}
        (pitchThenTalk ++ .check 1 0 :: [.begin (.reaction (addsFire 101 3))])).flow := by
  have hjobs : (World.run openChat {}
      (pitchThenTalk ++ .check 1 0 :: [.begin (.reaction (addsFire 101 3))])).jobs =
      [.message (pitchMessage 100 1), .message (talk 101 2), .reaction (addsFire 101 3)] := rfl
  refine @reaction_on_message_ignored openChat pitchThenTalk [.begin (.reaction (addsFire 101 3))]
    1 2 0 0 (talk 101 2) 2 3 (addsFire 101 3) rfl rfl ?_ ?_ ?_ ?_ ?_ rfl ⟨rfl, rfl⟩
  · decide +kernel
  · decide +kernel
  · rw [World.DistinctIds, hjobs]
    decide
  · rw [hjobs]
    intro other hother _ hreply
    simp only [List.mem_cons, Job.message.injEq, reduceCtorEq, List.not_mem_nil, or_false] at hother
    rcases hother with rfl | rfl <;> cases hreply
  · decide +kernel

/-- The flow of a chat where user 9 is not allowed. -/
def guardedChat : Config := { openChat with allow := fun _ user => user ≠ 9 }

/-- User 9's message 101 is handled before Carol's fire on it, and is taken for a riff on Alice's
pitch 100. -/
def fireOnDropped : List Move :=
  inTurn 0 [.message (pitchMessage 100 1), .message (talk 101 9), .reaction (addsFire 101 3)]

theorem dropped_message_adopted :
    registers guardedChat (talk 101 9) = false ∧
    ∃ p, (World.run guardedChat {} fireOnDropped).flow.pitches[0]? = some p ∧
      101 ∈ p.riffIds ∧ (101, 3) ∈ p.reactionFires := by
  have hadopted : ((World.run guardedChat {} fireOnDropped).flow.pitches[0]?).any
      (fun p => 101 ∈ p.riffIds ∧ (101, 3) ∈ p.reactionFires) = true := by
    decide +kernel
  obtain ⟨p, hp, hboth⟩ := (Option.any_eq_true _ _).1 hadopted
  exact ⟨by decide +kernel, p, hp, of_decide_eq_true hboth⟩

end SherwoodMonitor.PitchFlow
