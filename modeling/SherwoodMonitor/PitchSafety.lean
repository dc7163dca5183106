import SherwoodMonitor.PitchRuns

/-! What a draft request of the pitch flow says of the chat: who stands behind it, and that a pitch
gets one at most. -/
namespace SherwoodMonitor.PitchFlow
open Models PitchText

/-- Whether the flag of a pitch is set. -/
def Flow.isDrafted (f : Flow) (i : ℕ) : Bool := (f.pitches[i]?).any (·.drafted)

variable {cfg : Config} {f : Flow}

@[simp] lemma isDrafted_prune (now : Time) (chat : ℤ) :
    (f.prune cfg now chat).isDrafted = f.isDrafted := rfl

@[simp] lemma isDrafted_seen (chat message : ℤ) :
    (f.seen chat message).isDrafted = f.isDrafted := rfl

lemma isDrafted_modify (i j : ℕ) (g : Pitch → Pitch) :
    (f.modify i g).isDrafted j = if i = j then (f.pitches[j]?).any (fun p => (g p).drafted)
      else f.isDrafted j := by
  simp only [Flow.isDrafted, Flow.modify, List.getElem?_modify]
  split_ifs <;> cases f.pitches[j]? <;> rfl

/-- Only the flag itself is read. -/
lemma isDrafted_modify_of {i : ℕ} {g : Pitch → Pitch} (hg : ∀ p, (g p).drafted = p.drafted) :
    (f.modify i g).isDrafted = f.isDrafted := by
  funext j
  rw [isDrafted_modify]
  split_ifs
  · simp only [hg]
    rfl
  · rfl

@[simp] lemma isDrafted_linkRiff (chat target : ℤ) (i : ℕ) :
    (f.linkRiff chat i target).isDrafted = f.isDrafted :=
  isDrafted_modify_of fun _ => rfl

@[simp] lemma isDrafted_pitchForTarget (now : Time) (chat target : ℤ) (bot : Bool) :
    (f.pitchForTarget cfg now chat target bot).2.isDrafted = f.isDrafted := by
  rw [Flow.pitchForTarget]
  split
  · rfl
  · split_ifs
    · rfl
    · rfl
    · dsimp only
      split
      · exact isDrafted_linkRiff _ _ _
      · rfl

@[simp] lemma isDrafted_register (now : Time) (msg : Message) (author : ℤ) :
    (f.register cfg now msg author).isDrafted = f.isDrafted := by
  funext j
  rw [Flow.register, isDrafted_prune]
  simp only [Flow.isDrafted]
  rcases lt_trichotomy j f.pitches.length with hlt | rfl | hgt
  · rw [List.getElem?_append_left hlt]
  · simp
  · rw [List.getElem?_eq_none (by simp; omega), List.getElem?_eq_none (by omega)]

@[simp] lemma isDrafted_entered (msg : Message) (now : Time) :
    (entered cfg f msg now).isDrafted = f.isDrafted := by
  rw [entered]
  split
  · split_ifs
    · exact isDrafted_pitchForTarget _ _ _ _
    · rfl
  · rfl

@[simp] lemma isDrafted_shipTarget (msg : Message) (now : Time) :
    (shipTarget cfg f msg now).2.isDrafted = f.isDrafted := by
  unfold shipTarget
  cases msg.replyTo with
  | none =>
    dsimp only
    split <;> rfl
  | some target =>
    have hlook := @isDrafted_pitchForTarget cfg f now msg.chatId target msg.replyToIsBot
    dsimp only
    split
    · exact hlook
    · split <;> exact hlook

/-- How one part of a handler ends: it leaves every flag, or it sets the flag of one pitch, which
was not set, and issues the request for it. `why` is what it says of the flow then. -/
inductive Part (f : Flow) (why : Flow → ℕ → Pitch → Trigger → Prop) (user : ℤ) (now : Time) :
    Next × Flow → Prop
  | quiet {next : Next} {g : Flow} (hnext : ∀ i event, next ≠ .draft i event)
      (hflags : g.isDrafted = f.isDrafted) : Part f why user now (next, g)
  | issues {g : Flow} {i : ℕ} {p : Pitch} {trigger : Trigger}
      (hflags : g.isDrafted = f.isDrafted) (hp : g.pitches[i]? = some p)
      (hclear : p.drafted = false) (hwhy : why g i p trigger) :
      Part f why user now
        (.draft i (g.emit i p trigger user now).1, (g.emit i p trigger user now).2)

/-- The fires of a pitch that a message of the chat stands for reach the threshold. -/
def FireWhy (cfg : Config) (chat : ℤ) (g : Flow) (i : ℕ) (p : Pitch) (trigger : Trigger) : Prop :=
  trigger = .fire ∧ cfg.fireThreshold ≤ (p.fireUsers.card : ℤ) ∧
    ∃ target, g.byMsg (chat, target) = some i

/-- The host's message answers a message that stands for the pitch, or names no other. -/
def ShipWhy (cfg : Config) (msg : Message) (g : Flow) (i : ℕ) (_ : Pitch) (trigger : Trigger) :
    Prop :=
  trigger = .shipIt ∧ ((∃ target, msg.replyTo = some target ∧
    g.byMsg (msg.chatId, target) = some i) ∨ namedPitches cfg g msg.chatId msg.text = [i])

variable {chat user : ℤ} {now : Time}

/-- A fire is noted on a pitch before its fires are counted. -/
lemma part_maybeTrigger {g : Flow} {i : ℕ} {target : ℤ} {change : Pitch → Pitch}
    (hflags : g.isDrafted = f.isDrafted) (hchange : ∀ p, (change p).drafted = p.drafted)
    (hby : g.byMsg (chat, target) = some i) :
    Part f (FireWhy cfg chat) user now (maybeTrigger cfg (g.modify i change) i user now) := by
  have hmodify := (isDrafted_modify_of (i := i) hchange).trans hflags
  rw [maybeTrigger]
  split
  · exact .quiet (fun _ _ => Next.noConfusion) hmodify
  · next p hp =>
    split_ifs with hstop
    · exact .quiet (fun _ _ => Next.noConfusion) hmodify
    · simp only [not_or, not_lt, Bool.not_eq_true] at hstop
      exact .issues hmodify hp hstop.1 ⟨rfl, hstop.2, target, hby⟩

lemma part_onMessage (msg : Message) :
    Part f (FireWhy cfg msg.chatId) user now (onMessage cfg f msg user now) := by
  have hent := @isDrafted_entered cfg f msg now
  simp only [onMessage]
  split_ifs
  · rw [fireReply]
    split
    · exact .quiet (fun _ _ => Next.noConfusion) hent
    · next target htarget =>
      have hlook := (@isDrafted_pitchForTarget cfg (entered cfg f msg now) now msg.chatId target
        msg.replyToIsBot).trans hent
      have hby := byMsg_pitchForTarget cfg (entered cfg f msg now) now msg.chatId target
        msg.replyToIsBot
      dsimp only
      split
      · exact .quiet (fun _ _ => Next.noConfusion) hlook
      · next i hi =>
        split_ifs
        · exact .quiet (fun _ _ => Next.noConfusion) hlook
        · exact part_maybeTrigger hlook (fun _ => rfl) (hby.trans hi)
  · exact .quiet (fun _ _ => Next.noConfusion) hent
  · exact .quiet (fun _ _ => Next.noConfusion) ((isDrafted_register _ _ _).trans hent)
  · exact .quiet (fun _ _ => Next.noConfusion) hent

lemma part_onReaction (c : ReactionChange) :
    Part f (FireWhy cfg c.chatId) user now (onReaction cfg f c user now) := by
  have hlook := @isDrafted_pitchForTarget cfg f now c.chatId c.messageId false
  have hby := byMsg_pitchForTarget cfg f now c.chatId c.messageId false
  simp only [onReaction]
  split_ifs with hsame hhas
  · exact .quiet (fun _ _ => Next.noConfusion) rfl
  · split
    · exact .quiet (fun _ _ => Next.noConfusion) hlook
    · next i hi =>
      split_ifs
      · refine .quiet (fun _ _ => Next.noConfusion) (Eq.trans (isDrafted_modify_of ?_) hlook)
        exact fun _ => rfl
      · exact part_maybeTrigger hlook (fun _ => rfl) (hby.trans hi)
  · split
    · exact .quiet (fun _ _ => Next.noConfusion) hlook
    · refine .quiet (fun _ _ => Next.noConfusion) (Eq.trans (isDrafted_modify_of ?_) hlook)
      exact fun _ => rfl

/-- The pitch of a "ship it" is the one its answer leads to, or the only one it names. -/
lemma shipTarget_found {msg : Message} {i : ℕ} (h : (shipTarget cfg f msg now).1 = some i) :
    (∃ target, msg.replyTo = some target ∧
      (shipTarget cfg f msg now).2.byMsg (msg.chatId, target) = some i) ∨
    namedPitches cfg (shipTarget cfg f msg now).2 msg.chatId msg.text = [i] := by
  cases htarget : msg.replyTo with
  | some target =>
    have hby := byMsg_pitchForTarget cfg f now msg.chatId target msg.replyToIsBot
    simp only [shipTarget, htarget] at h ⊢
    cases hfound : (f.pitchForTarget cfg now msg.chatId target msg.replyToIsBot).1 with
    | some j =>
      simp only [hfound] at h ⊢
      obtain rfl := Option.some.inj h
      exact Or.inl ⟨target, rfl, hby.trans hfound⟩
    | none =>
      simp only [hfound] at h ⊢
      split at h
      · next j hj =>
        obtain rfl := Option.some.inj h
        exact Or.inr hj
      · cases h
  | none =>
    simp only [shipTarget, htarget] at h ⊢
    split at h
    · next j hj =>
      obtain rfl := Option.some.inj h
      exact Or.inr hj
    · cases h

lemma part_onHost (msg : Message) (host : Option ℤ) :
    Part f (fun g i p trigger => host = some user ∧ ShipWhy cfg msg g i p trigger) user now
      (onHost cfg f msg user host now) := by
  have hflags := @isDrafted_shipTarget cfg f msg now
  simp only [onHost]
  split_ifs with hhost
  · exact .quiet (fun _ _ => Next.noConfusion) rfl
  · split
    · exact .quiet (fun _ _ => Next.noConfusion) hflags
    · next i hi =>
      split
      · exact .quiet (fun _ _ => Next.noConfusion) hflags
      · next p hp =>
        split_ifs with hdrafted
        · exact .quiet (fun _ _ => Next.noConfusion) hflags
        · exact .issues hflags hp (by simpa using hdrafted)
            ⟨not_not.1 hhost, rfl, shipTarget_found hi⟩

/-! ### Runs -/

/-- The task has requested a draft of the pitch and the request has not failed. -/
def Stage.claims (i : ℕ) : Stage → Bool
  | .drafting j _ => j = i
  | .drafted j _ raised => j = i && !raised
  | _ => false

/-- The task's request of a draft of the pitch succeeded. -/
def Stage.succeeded (i : ℕ) : Stage → Bool
  | .drafted j _ raised => j = i && !raised
  | _ => false

lemma Stage.claims_of_succeeded {i : ℕ} {stage : Stage} (h : stage.succeeded i = true) :
    stage.claims i = true := by
  cases stage <;> first | exact h | cases h

@[simp] lemma claims_drafting (i j : ℕ) (event : DraftRequested) :
    (Stage.drafting j event).claims i = decide (j = i) := rfl

@[simp] lemma claims_drafted (i j : ℕ) (event : DraftRequested) (raised : Bool) :
    (Stage.drafted j event raised).claims i = (decide (j = i) && !raised) := rfl

@[simp] lemma claims_stage {next : Next} (hnext : ∀ i event, next ≠ .draft i event) (i : ℕ) :
    next.stage.claims i = false := by
  cases next with
  | draft j event => exact absurd rfl (hnext j event)
  | _ => rfl

/-- As many tasks hold a request for a pitch as its flag says, at most. -/
def World.Once (w : World) : Prop :=
  ∀ i, w.tasks.countP (fun task => task.stage.claims i) ≤ if w.flow.isDrafted i then 1 else 0

lemma countP_set_task {tasks : List Task} {t : ℕ} {task : Task} (h : tasks[t]? = some task)
    (task' : Task) (q : Task → Bool) :
    (tasks.set t task').countP q + (if q task then 1 else 0) =
      tasks.countP q + if q task' then 1 else 0 := by
  obtain ⟨ht, rfl⟩ := List.getElem?_eq_some_iff.1 h
  have hpos : (if q tasks[t] = true then 1 else 0) ≤ tasks.countP q := by
    split_ifs with hq
    · exact List.countP_pos_iff.2 ⟨_, List.getElem_mem ht, hq⟩
    · exact Nat.zero_le _
  rw [List.countP_set ht]
  omega

section
variable {w : World} {t : ℕ} {task : Task} {job : Job} {user : ℤ} {now : Time}
  {why : Flow → ℕ → Pitch → Trigger → Prop}

lemma isDrafted_emit {g : Flow} {i : ℕ} {p : Pitch} {trigger : Trigger} {by_ : ℤ}
    (hp : g.pitches[i]? = some p) (j : ℕ) :
    (g.emit i p trigger by_ now).2.isDrafted j = if i = j then true else g.isDrafted j := by
  simp only [Flow.emit, isDrafted_modify]
  split_ifs with hij
  · simp [← hij, hp]
  · rfl

lemma World.Once.part (h : w.Once) (htask : w.tasks[t]? = some task)
    (hstage : ∀ i, task.stage.claims i = false) {r : Next × Flow}
    (hpart : Part w.flow why user now r) (live replies : Finset Fire) :
    World.Once ⟨r.2, w.tasks.set t ⟨job, user, r.1.stage⟩, live, replies⟩ := by
  intro j
  have hcount := countP_set_task htask ⟨job, user, r.1.stage⟩ (fun task => task.stage.claims j)
  have hbefore := h j
  cases hpart with
  | quiet hnext hflags =>
    simp only [hstage, claims_stage hnext, Bool.false_eq_true, if_false] at hcount
    simp only [hflags]
    omega
  | @issues g i p trigger hflags hp hclear hwhy =>
    simp only [hstage, Next.stage, claims_drafting, decide_eq_true_eq, Bool.false_eq_true,
      if_false, add_zero] at hcount
    simp only [Next.stage, isDrafted_emit hp]
    rw [hcount]
    by_cases hij : i = j
    · subst hij
      have hflag : w.flow.isDrafted i = false := by
        rw [← hflags]
        simp [Flow.isDrafted, hp, hclear]
      simp only [hflag, Bool.false_eq_true, if_false] at hbefore
      simpa using hbefore
    · simpa [hij, hflags] using hbefore

lemma World.Once.quietTask (h : w.Once) (htask : w.tasks[t]? = some task) {stage : Stage}
    (hstage : ∀ i, stage.claims i = false) :
    World.Once { w with tasks := w.tasks.set t ⟨job, user, stage⟩ } := by
  intro j
  have hcount := countP_set_task htask ⟨job, user, stage⟩ (fun task => task.stage.claims j)
  have hbefore := h j
  simp only [hstage, Bool.false_eq_true, if_false] at hcount
  dsimp only
  omega

/-- A request that failed is given back, and with it the flag. -/
lemma World.Once.ended (h : w.Once) {i : ℕ} {event : DraftRequested}
    (htask : w.tasks[t]? = some ⟨job, user, .drafting i event⟩) (raised : Bool) :
    World.Once { w with
      flow := draftEnded w.flow i raised
      tasks := w.tasks.set t ⟨job, user, .drafted i event raised⟩ } := by
  intro j
  have hcount := countP_set_task htask ⟨job, user, .drafted i event raised⟩
    (fun task => task.stage.claims j)
  have hbefore := h j
  cases raised with
  | false =>
    have hsame : (Stage.drafted i event false).claims j = (Stage.drafting i event).claims j := by
      simp
    simp only [hsame] at hcount
    simp only [draftEnded, Bool.false_eq_true, if_false]
    omega
  | true =>
    simp only [claims_drafting, claims_drafted, Bool.not_true, Bool.and_false,
      Bool.false_eq_true, if_false, decide_eq_true_eq, add_zero] at hcount
    simp only [draftEnded, if_true, isDrafted_modify]
    by_cases hij : i = j
    · rw [if_pos hij] at hcount ⊢
      have hle : (if w.flow.isDrafted j = true then 1 else 0) ≤ 1 := by split_ifs <;> omega
      omega
    · rw [if_neg hij] at hcount ⊢
      omega

lemma World.Once.step (h : w.Once) (move : Move) : (w.step cfg move).Once := by
  cases move with
  | begin job =>
    rw [World.step]
    split
    · intro i
      simpa [Stage.claims] using h i
    · exact h
  | check t now =>
    rw [World.step]
    split
    · next job user htask =>
      split_ifs
      · cases job with
        | message msg => exact h.part htask (fun _ => rfl) (part_onMessage msg) _ _
        | reaction c => exact h.part htask (fun _ => rfl) (part_onReaction c) _ _
      · exact h.quietTask htask fun _ => rfl
    · exact h
  | host t answer now =>
    rw [World.step]
    split
    · next msg user htask => exact h.part htask (fun _ => rfl) (part_onHost msg answer) _ _
    · exact h
  | ended t raised =>
    rw [World.step]
    split
    · next job user i event htask => exact h.ended htask raised
    · exact h
  | card chat message => exact h

end

/-- A message that becomes a pitch with this move is fresh. -/
def FreshMove (cfg : Config) (w : World) : Move → Prop
  | .check t now => ∀ msg user, w.tasks[t]? = some ⟨.message msg, user, .checking⟩ →
      cfg.allow msg.chatId user = true → Fresh cfg w.flow msg now
  | _ => True

/-- Every move of the run from here is fresh. -/
def FreshRun (cfg : Config) : World → List Move → Prop
  | _, [] => True
  | w, move :: moves => FreshMove cfg w move ∧ FreshRun cfg (w.step cfg move) moves

def World.IsSound (cfg : Config) (w : World) : Prop :=
  Sound cfg w.flow w.liveFires w.fireReplies

lemma World.IsSound.step {w : World} (h : w.IsSound cfg) {move : Move}
    (hfresh : FreshMove cfg w move) : (w.step cfg move).IsSound cfg := by
  cases move with
  | begin job =>
    rw [World.step]
    split <;> exact h
  | check t now =>
    rw [World.step]
    split
    · next job user htask =>
      split_ifs with hallow
      · cases job with
        | message msg => exact Sound.onMessage h hallow (hfresh msg user htask hallow)
        | reaction c => exact Sound.onReaction h hallow
      · exact h
    · exact h
  | host t answer now =>
    rw [World.step]
    split
    · next msg user htask => exact Sound.onHost h msg user answer now
    · exact h
  | ended t raised =>
    rw [World.step]
    split
    · next job user i event htask =>
      cases raised with
      | false => exact h
      | true => exact sound_draftedFlag h i false
    · exact h
  | card chat message => exact ⟨h.known, h.opened, h.own, h.replied, h.reacted⟩

lemma isSound_run {w : World} (h : w.IsSound cfg) {moves : List Move}
    (hfresh : FreshRun cfg w moves) : (w.run cfg moves).IsSound cfg := by
  induction moves generalizing w with
  | nil => exact h
  | cons move moves ih => exact ih (h.step hfresh.1) hfresh.2

lemma once_run {w : World} (h : w.Once) (moves : List Move) : (w.run cfg moves).Once := by
  induction moves generalizing w with
  | nil => exact h
  | cons move moves ih => exact ih (h.step move)

lemma freshRun_append {w : World} {before after : List Move} :
    FreshRun cfg w (before ++ after) ↔
      FreshRun cfg w before ∧ FreshRun cfg (w.run cfg before) after := by
  induction before generalizing w with
  | nil => simp [FreshRun, World.run]
  | cons move moves ih => simp [FreshRun, ih, World.run, and_assoc]

/-- A move after which a task holds a request that it did not hold before. -/
def World.Issues (cfg : Config) (w : World) (move : Move) (i : ℕ) (event : DraftRequested) : Prop :=
  ∃ (t : ℕ) (task : Task), (w.step cfg move).tasks[t]? = some task ∧
    task.stage = .drafting i event ∧
    ∀ before : Task, w.tasks[t]? = some before → before.stage ≠ .drafting i event

/-- No other open pitch without a draft is named by the text. -/
def OnlyNamed (cfg : Config) (f : Flow) (chat : ℤ) (text : String) (i : ℕ) (p : Pitch) : Prop :=
  i ∈ f.opened chat ∧ namesPitch cfg.isWord text p.text p.authorName = true ∧
    ∀ j ∈ f.opened chat, j ≠ i → ∀ q, f.pitches[j]? = some q → q.drafted = false →
      namesPitch cfg.isWord text q.text q.authorName = false

/-- Why a request may be made. For a fire, enough members stand behind the pitch then; for a
"ship it", its sender is the host of the chat and its message leads to the pitch. -/
def World.Justified (cfg : Config) (w : World) (move : Move) (i : ℕ) (event : DraftRequested) :
    Prop :=
  let w' := w.step cfg move
  ∃ p : Pitch, w'.flow.pitches[i]? = some p ∧ event.sourceMessageId = p.messageId ∧
    event.chatId = p.chatId ∧ event.ideaBy = p.authorId ∧
    match event.trigger with
    | .fire => cfg.fireThreshold ≤ ((w'.backers cfg p).card : ℤ)
    | .shipIt => ∃ t msg now, move = .host t (some event.triggeredBy) now ∧
        w.tasks[t]? = some ⟨.message msg, event.triggeredBy, .askingHost⟩ ∧
        p.chatId = msg.chatId ∧ ((∃ target ∈ p.messages, msg.replyTo = some target) ∨
          OnlyNamed cfg w'.flow msg.chatId msg.text i p)

/-- The users that a pitch counts stand behind it. -/
lemma fireUsers_subset_backers {w : World} (h : w.IsSound cfg) {c : ℤ} {i : ℕ} {p : Pitch}
    (hi : i ∈ w.flow.opened c) (hp : w.flow.pitches[i]? = some p) :
    p.fireUsers ⊆ w.backers cfg p := by
  intro u hu
  obtain ⟨q, hq, hc⟩ := h.opened hi
  obtain rfl : p = q := Option.some.inj (hp.symm.trans hq)
  rw [Pitch.fireUsers, Finset.mem_erase, Finset.mem_union, Finset.mem_image] at hu
  obtain ⟨hne, hreply | ⟨⟨m, u⟩, hmu, rfl⟩⟩ := hu
  · obtain ⟨hallow, m, hm, hrep⟩ := h.replied hi hp hreply
    refine Finset.mem_erase.2 ⟨hne, Finset.mem_image.2 ⟨(c, m, u), ?_, rfl⟩⟩
    simp [hrep, hm, hc, hallow]
  · obtain ⟨hallow, hm, hlive⟩ := h.reacted hi hp hmu
    refine Finset.mem_erase.2 ⟨hne, Finset.mem_image.2 ⟨(c, m, u), ?_, rfl⟩⟩
    simp [hlive, hm, hc, hallow]

/-- Every request of a step is issued by the part of a handler that ran. -/
lemma issues_part {f : Flow} {why : Flow → ℕ → Pitch → Trigger → Prop} {user : ℤ} {now : Time}
    {r : Next × Flow} (hpart : Part f why user now r) {i : ℕ} {event : DraftRequested}
    (hnext : r.1.stage = .drafting i event) :
    ∃ g p trigger, g.pitches[i]? = some p ∧ p.drafted = false ∧ why g i p trigger ∧
      r.2 = (g.emit i p trigger user now).2 ∧ event = (g.emit i p trigger user now).1 := by
  cases hpart with
  | @quiet next g hquiet hflags =>
    cases next with
    | draft j e => exact absurd rfl (hquiet j e)
    | _ => cases hnext
  | @issues g j p trigger hflags hp hclear hwhy =>
    simp only [Next.stage, Stage.drafting.injEq] at hnext
    obtain ⟨rfl, rfl⟩ := hnext
    exact ⟨g, p, trigger, hp, hclear, hwhy, rfl, rfl⟩

lemma stage_of_set {tasks : List Task} {t t' : ℕ} {new task : Task} {i : ℕ}
    {event : DraftRequested} (h : (tasks.set t new)[t']? = some task)
    (hstage : task.stage = .drafting i event)
    (hbefore : ∀ before : Task, tasks[t']? = some before → before.stage ≠ .drafting i event) :
    new.stage = .drafting i event := by
  rw [List.getElem?_set] at h
  split_ifs at h with heq
  · exact Option.some.inj h ▸ hstage
  · exact absurd hstage (hbefore task h)

lemma getElem?_emit {g : Flow} {i : ℕ} {p : Pitch} {trigger : Trigger} {user : ℤ} {now : Time}
    (hp : g.pitches[i]? = some p) :
    (g.emit i p trigger user now).2.pitches[i]? = some { p with drafted := true } := by
  rw [Flow.emit, getElem?_modify_of hp, if_pos rfl]

lemma justified_of_fire {w : World} {move : Move} (h : (w.step cfg move).IsSound cfg)
    {chat user : ℤ} {now : Time} {r : Next × Flow} (hflow : (w.step cfg move).flow = r.2)
    (hpart : Part w.flow (FireWhy cfg chat) user now r) {i : ℕ} {event : DraftRequested}
    (hnext : r.1.stage = .drafting i event) : w.Justified cfg move i event := by
  obtain ⟨g, p, trigger, hp, -, ⟨rfl, hthreshold, target, hby⟩, hr, rfl⟩ := issues_part hpart hnext
  have hget : (w.step cfg move).flow.pitches[i]? = some { p with drafted := true } := by
    rw [hflow, hr]
    exact getElem?_emit hp
  have hopen : i ∈ (w.step cfg move).flow.opened chat := by
    refine (h.known (m := target) ?_).1
    rw [hflow, hr]
    exact hby
  refine ⟨_, hget, rfl, rfl, rfl, hthreshold.trans ?_⟩
  exact_mod_cast Finset.card_le_card (fireUsers_subset_backers h hopen hget)

lemma onlyNamed_of_namedPitches {g : Flow} {msg : Message} {i : ℕ} {p : Pitch} {trigger : Trigger}
    {user : ℤ} {now : Time} (hp : g.pitches[i]? = some p)
    (h : namedPitches cfg g msg.chatId msg.text = [i]) :
    OnlyNamed cfg (g.emit i p trigger user now).2 msg.chatId msg.text i
      { p with drafted := true } := by
  have hmem : ∀ j, j ∈ namedPitches cfg g msg.chatId msg.text ↔ j = i := by simp [h]
  obtain ⟨hopen, hnamed⟩ := List.mem_filter.1 ((hmem i).2 rfl)
  have hboth : p.drafted = false ∧ namesPitch cfg.isWord msg.text p.text p.authorName = true := by
    simpa [hp] using hnamed
  refine ⟨hopen, hboth.2, ?_⟩
  intro j hj hne q hq hclear
  by_contra hnames
  refine hne ((hmem j).1 (List.mem_filter.2 ⟨hj, ?_⟩))
  obtain ⟨q', hq', rfl⟩ := getElem?_modify_cases hq
  rw [if_neg (Ne.symm hne)] at hclear hnames
  rw [Bool.not_eq_false] at hnames
  simp [hq', hclear, hnames]

lemma justified_of_ship {w : World} {t : ℕ} {msg : Message} {user : ℤ} {answer : Option ℤ}
    {now : Time} (h : (w.step cfg (.host t answer now)).IsSound cfg)
    (htask : w.tasks[t]? = some ⟨.message msg, user, .askingHost⟩) {i : ℕ} {event : DraftRequested}
    (hnext : (onHost cfg w.flow msg user answer now).1.stage = .drafting i event) :
    w.Justified cfg (.host t answer now) i event := by
  have hflow : (w.step cfg (.host t answer now)).flow =
      (onHost cfg w.flow msg user answer now).2 := by
    rw [World.step, htask]
  obtain ⟨g, p, trigger, hp, -, ⟨rfl, rfl, hwhy⟩, hr, rfl⟩ := issues_part (part_onHost msg answer)
    hnext
  have hget : (w.step cfg (.host t (some user) now)).flow.pitches[i]? =
      some { p with drafted := true } := by
    rw [hflow, hr]
    exact getElem?_emit hp
  have hchat : ∀ {c : ℤ}, i ∈ (w.step cfg (.host t (some user) now)).flow.opened c →
      p.chatId = c := by
    intro c hopen
    obtain ⟨q, hq, hc⟩ := h.opened hopen
    obtain rfl := Option.some.inj (hget.symm.trans hq)
    exact hc
  refine ⟨_, hget, rfl, rfl, rfl, t, msg, now, rfl, htask, ?_⟩
  rcases hwhy with ⟨target, htarget, hby⟩ | hnamed
  · have hby' : (w.step cfg (.host t (some user) now)).flow.byMsg (msg.chatId, target) =
        some i := by
      rw [hflow, hr]
      exact hby
    obtain ⟨hopen, q, hq, hm⟩ := h.known hby'
    obtain rfl := Option.some.inj (hget.symm.trans hq)
    exact ⟨hchat hopen, Or.inl ⟨target, hm, htarget⟩⟩
  · have honly : OnlyNamed cfg (g.emit i p .shipIt user now).2 msg.chatId msg.text i _ :=
      onlyNamed_of_namedPitches hp hnamed
    rw [← hr, ← hflow] at honly
    exact ⟨hchat honly.1, Or.inr honly⟩

lemma World.justified_of_issues {w : World} {move : Move} (h : (w.step cfg move).IsSound cfg)
    {i : ℕ} {event : DraftRequested} (hissues : w.Issues cfg move i event) :
    w.Justified cfg move i event := by
  obtain ⟨t', task, htask', hstage, hbefore⟩ := hissues
  have hsame : ∀ tasks : List Task, tasks = w.tasks → tasks[t']? ≠ some task := by
    rintro tasks rfl hget
    exact hbefore task hget hstage
  cases move with
  | begin job =>
    rw [World.step] at htask'
    split at htask'
    · rw [List.getElem?_append] at htask'
      split_ifs at htask' with hlt
      · exact absurd htask' (hsame _ rfl)
      · obtain ⟨hlen, rfl⟩ := List.getElem?_eq_some_iff.1 htask'
        simp at hstage
    · exact absurd htask' (hsame _ rfl)
  | check t now =>
    cases htask : w.tasks[t]? with
    | none =>
      simp only [World.step, htask] at htask'
      exact absurd htask' (hsame _ rfl)
    | some before =>
      obtain ⟨job, user, stage⟩ := before
      cases stage with
      | checking =>
        by_cases hallow : cfg.allow job.chatId user = true
        · cases job with
          | message msg =>
            have hflow : (w.step cfg (.check t now)).flow = (onMessage cfg w.flow msg user now).2 := by
              simp only [World.step, htask, hallow, if_true]
            simp only [World.step, htask, hallow, if_true] at htask'
            exact justified_of_fire h hflow (part_onMessage msg) (stage_of_set htask' hstage hbefore)
          | reaction c =>
            have hflow : (w.step cfg (.check t now)).flow = (onReaction cfg w.flow c user now).2 := by
              simp only [World.step, htask, hallow, if_true]
            simp only [World.step, htask, hallow, if_true] at htask'
            exact justified_of_fire h hflow (part_onReaction c) (stage_of_set htask' hstage hbefore)
        · simp only [World.step, htask, hallow] at htask'
          cases stage_of_set htask' hstage hbefore
      | _ =>
        simp only [World.step, htask] at htask'
        exact absurd htask' (hsame _ rfl)
  | host t answer now =>
    rw [World.step] at htask'
    split at htask'
    · next msg user htask =>
      exact justified_of_ship h htask (stage_of_set htask' hstage hbefore)
    · exact absurd htask' (hsame _ rfl)
  | ended t raised =>
    rw [World.step] at htask'
    split at htask'
    · cases stage_of_set htask' hstage hbefore
    · exact absurd htask' (hsame _ rfl)
  | card chat message => exact absurd htask' (hsame _ rfl)

lemma isSound_empty : World.IsSound cfg {} := sound_empty

lemma once_empty : World.Once {} := fun _ => Nat.zero_le _

/-- In every run in which each message that becomes a pitch is fresh, a pitch gets one successful
draft request at most, and every request is justified when it is made. -/
theorem pitch_flow_safe {moves : List Move} (hfresh : FreshRun cfg {} moves) :
    (∀ i, ((World.run cfg {} moves).tasks.countP fun task => task.stage.succeeded i) ≤ 1) ∧
      ∀ before move after, moves = before ++ move :: after → ∀ i event,
        (World.run cfg {} before).Issues cfg move i event →
          (World.run cfg {} before).Justified cfg move i event := by
  constructor
  · intro i
    have hle := @once_run cfg _ once_empty moves i
    have hmono := List.countP_mono_left (l := (World.run cfg {} moves).tasks)
      (p := fun task => task.stage.succeeded i) (q := fun task => task.stage.claims i)
      fun _ _ => Stage.claims_of_succeeded
    split_ifs at hle <;> omega
  · rintro before move after rfl i event hissues
    obtain ⟨hbefore, hmove, -⟩ := freshRun_append.1 hfresh
    exact World.justified_of_issues ((isSound_run isSound_empty hbefore).step hmove) hissues

/-- A chat whose every member is allowed. -/
def openChat : Config :=
  { isWord := fun c => isLetterOrDigit c || c = '_', allow := fun _ _ => true }

def pitchMessage (id user : ℤ) : Message :=
  { chatId := 1, messageId := id, userId := some user, text := "long ETH", mentionsBot := true }

def addsFire (message user : ℤ) : ReactionChange :=
  { chatId := 1, messageId := message, userId := some user, new := ["🔥"] }

def dropsFire (message user : ℤ) : ReactionChange :=
  { chatId := 1, messageId := message, userId := some user, old := ["🔥"] }

/-- The handlers of these jobs one after the other, each up to its first suspension. -/
def inTurn : ℕ → List Job → List Move
  | _, [] => []
  | t, job :: jobs => .begin job :: .check t 0 :: inTurn (t + 1) jobs

def threeFires : List Move :=
  inTurn 0 [.message (pitchMessage 100 1), .reaction (addsFire 100 3), .reaction (addsFire 100 4),
    .reaction (addsFire 100 5)]

lemma freshMove_reaction {w : World} {t : ℕ} {now : Time}
    (h : (w.tasks[t]?).all (fun task => match task.job with
      | .message _ => false
      | .reaction _ => true) = true) : FreshMove cfg w (.check t now) := by
  intro msg user htask
  simp [htask] at h

lemma threeFires_fresh : FreshRun openChat {} threeFires := by
  refine ⟨trivial, ?_, trivial, freshMove_reaction ?_, trivial, freshMove_reaction ?_, trivial,
    freshMove_reaction ?_, trivial⟩
  · intro msg user htask _ _
    obtain ⟨rfl, -⟩ : pitchMessage 100 1 = msg ∧ 1 = user := by
      simpa [World.step, Job.sender, pitchMessage] using htask
    exact ⟨(nomatch ·), fun i hi => (nomatch hi)⟩
  · decide +kernel
  · decide +kernel
  · decide +kernel

theorem pitch_flow_safe_threeFires :
    ((World.run openChat {} threeFires).tasks.countP fun task => task.stage.succeeded 0) ≤ 1 :=
  (pitch_flow_safe threeFires_fresh).1 0

/-- Bob's pitch 101 waits for the sender check while Carol's fire on it is handled, so that it is
taken for a riff on Alice's pitch 100; when she withdraws it, Alice's pitch goes on counting it. -/
def fireBeforePitch : List Move :=
  inTurn 0 [.message (pitchMessage 100 1)] ++
    [.begin (.message (pitchMessage 101 2)), .begin (.reaction (addsFire 101 3)), .check 2 0,
      .check 1 0] ++
    inTurn 3 [.reaction (dropsFire 101 3), .reaction (addsFire 100 4), .reaction (addsFire 100 5)]

/-- The fire event that a stage requests a draft with. -/
def Stage.fireEvent : Stage → Option DraftRequested
  | .drafting 0 event => if event.trigger = .fire then some event else none
  | _ => none

theorem fire_request_without_backers :
    (∃ event, event.trigger = .fire ∧
      (World.run openChat {} fireBeforePitch.dropLast).Issues openChat (.check 5 0) 0 event) ∧
    ∃ p, (World.run openChat {} fireBeforePitch).flow.pitches[0]? = some p ∧
      ((World.run openChat {} fireBeforePitch).backers openChat p).card < 3 := by
  constructor
  · have hafter : (((World.run openChat {} fireBeforePitch.dropLast).step openChat
        (.check 5 0)).tasks[5]?).any (fun task => task.stage.fireEvent.isSome) = true := by
      decide +kernel
    have hbefore : ((World.run openChat {} fireBeforePitch.dropLast).tasks[5]?).all
        (fun task => task.stage.fireEvent.isNone) = true := by
      decide +kernel
    obtain ⟨task, htask, hsome⟩ := (Option.any_eq_true _ _).1 hafter
    obtain ⟨event, hevent⟩ := Option.isSome_iff_exists.1 hsome
    have hstage : task.stage = .drafting 0 event ∧ event.trigger = .fire := by
      revert hevent
      rw [Stage.fireEvent.eq_def]
      split
      · next event' hstage =>
        split_ifs with hfire
        · rintro heq
          obtain rfl := Option.some.inj heq
          exact ⟨hstage, hfire⟩
        · exact fun heq => nomatch heq
      · exact fun heq => nomatch heq
    refine ⟨event, hstage.2, 5, task, htask, hstage.1, fun before hget heq => ?_⟩
    simp [hget, heq, Stage.fireEvent, hstage.2] at hbefore
  · have hfew : ((World.run openChat {} fireBeforePitch).flow.pitches[0]?).any (fun p =>
        ((World.run openChat {} fireBeforePitch).backers openChat p).card < 3) = true := by
      decide +kernel
    obtain ⟨p, hp, hcard⟩ := (Option.any_eq_true _ _).1 hfew
    exact ⟨p, hp, of_decide_eq_true hcard⟩

end SherwoodMonitor.PitchFlow
