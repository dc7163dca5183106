import SherwoodMonitor.PitchFlow

/-! The handlers of the pitch flow under interleaving. Each handler is a task; it is suspended while
it asks whether its sender is allowed, who the host of the chat is, and while `on_draft_requested`
runs, and any other task may run in between. -/
namespace SherwoodMonitor.PitchFlow
open Models PitchText

inductive Job
  | message (msg : Message)
  | reaction (c : ReactionChange)

def Job.chatId : Job → ℤ
  | .message msg => msg.chatId
  | .reaction c => c.chatId

/-- The sender, where the update is a person's. -/
def Job.sender : Job → Option ℤ
  | .message msg => if msg.isBot then none else msg.userId
  | .reaction c => if c.userIsBot then none else c.userId

inductive Stage
  | checking
  | askingHost
  | drafting (i : ℕ) (event : DraftRequested)
  | drafted (i : ℕ) (event : DraftRequested) (raised : Bool)
  | done

structure Task where
  job : Job
  user : ℤ
  stage : Stage

/-- A fire of a user on a message of a chat. -/
abbrev Fire := ℤ × ℤ × ℤ

/-- The flow with its handlers. Beside them stands what the members did, as far as it was handled:
the fire reactions that are not withdrawn and the fire replies. -/
structure World where
  flow : Flow := {}
  tasks : List Task := []
  liveFires : Finset Fire := ∅
  fireReplies : Finset Fire := ∅

/-- A handler begins, or a suspended one goes on. `host` has the answer of `host_for_chat`, `ended`
whether `on_draft_requested` raised. -/
inductive Move
  | begin (job : Job)
  | check (t : ℕ) (now : Time)
  | host (t : ℕ) (answer : Option ℤ) (now : Time)
  | ended (t : ℕ) (raised : Bool)
  | card (chat message : ℤ)

variable (cfg : Config)

def Next.stage : Next → Stage
  | .done => .done
  | .askHost => .askingHost
  | .draft i event => .drafting i event

/-- The fire replies after a message, and the fire reactions after a change. -/
def repliesAfter (replies : Finset Fire) (msg : Message) (user : ℤ) : Finset Fire :=
  match msg.replyTo with
  | some target =>
      if isFireReply cfg msg then insert (msg.chatId, target, user) replies else replies
  | none => replies

def liveAfter (live : Finset Fire) (c : ReactionChange) (user : ℤ) : Finset Fire :=
  if c.had cfg = c.has cfg then live
  else if c.has cfg then insert (c.chatId, c.messageId, user) live
  else live.erase (c.chatId, c.messageId, user)

namespace World

def step (w : World) : Move → World
  | .begin job =>
      match job.sender with
      | some user => { w with tasks := w.tasks ++ [⟨job, user, .checking⟩] }
      | none => w
  | .check t now =>
      match w.tasks[t]? with
      | some ⟨job, user, .checking⟩ =>
          if cfg.allow job.chatId user then
            match job with
            | .message msg =>
                let (next, flow) := onMessage cfg w.flow msg user now
                { w with
                  flow
                  tasks := w.tasks.set t ⟨job, user, next.stage⟩
                  fireReplies := repliesAfter cfg w.fireReplies msg user }
            | .reaction c =>
                let (next, flow) := onReaction cfg w.flow c user now
                { w with
                  flow
                  tasks := w.tasks.set t ⟨job, user, next.stage⟩
                  liveFires := liveAfter cfg w.liveFires c user }
          else { w with tasks := w.tasks.set t ⟨job, user, .done⟩ }
      | _ => w
  | .host t answer now =>
      match w.tasks[t]? with
      | some ⟨.message msg, user, .askingHost⟩ =>
          let (next, flow) := onHost cfg w.flow msg user answer now
          { w with flow, tasks := w.tasks.set t ⟨.message msg, user, next.stage⟩ }
      | _ => w
  | .ended t raised =>
      match w.tasks[t]? with
      | some ⟨job, user, .drafting i event⟩ =>
          { w with
            flow := draftEnded w.flow i raised
            tasks := w.tasks.set t ⟨job, user, .drafted i event raised⟩ }
      | _ => w
  | .card chat message => { w with flow := w.flow.noteBotCard chat message }

def run (w : World) (moves : List Move) : World := moves.foldl (step cfg) w

/-- The users whose fire stands on a message of the pitch: an allowed user other than its author,
with a fire reply or a fire reaction that is not withdrawn. -/
def backers (w : World) (p : Pitch) : Finset ℤ :=
  (((w.liveFires ∪ w.fireReplies).filter fun k =>
    k.1 = p.chatId ∧ k.2.1 ∈ p.messages ∧ cfg.allow k.1 k.2.2 = true).image fun k => k.2.2).erase
      p.authorId

end World

/-- What holds of the tables. No message stands for two open pitches, so the fires that a pitch
counts are those that the table `byMsg` leads to. -/
structure Sound (f : Flow) (live replies : Finset Fire) : Prop where
  known : ∀ {c m i}, f.byMsg (c, m) = some i → i ∈ f.opened c ∧
    ∃ p, f.pitches[i]? = some p ∧ m ∈ p.messages
  opened : ∀ {c i}, i ∈ f.opened c → ∃ p, f.pitches[i]? = some p ∧ p.chatId = c
  own : ∀ {c m i p}, i ∈ f.opened c → f.pitches[i]? = some p → m ∈ p.messages →
    f.byMsg (c, m) = some i
  replied : ∀ {c i u p}, i ∈ f.opened c → f.pitches[i]? = some p → u ∈ p.replyFires →
    cfg.allow c u = true ∧ ∃ m ∈ p.messages, (c, m, u) ∈ replies
  reacted : ∀ {c i m u p}, i ∈ f.opened c → f.pitches[i]? = some p → (m, u) ∈ p.reactionFires →
    cfg.allow c u = true ∧ m ∈ p.messages ∧ (c, m, u) ∈ live

variable {cfg} {f : Flow} {live replies : Finset Fire}

lemma sound_empty : Sound cfg {} ∅ ∅ where
  known h := by cases h
  opened h := by cases h
  own h := by cases h
  replied h := by cases h
  reacted h := by cases h

/-- A pitch is open in one chat at most. -/
lemma Sound.chat_eq (h : Sound cfg f live replies) {c c' : ℤ} {i : ℕ} (hi : i ∈ f.opened c)
    (hi' : i ∈ f.opened c') : c = c' := by
  obtain ⟨p, hp, hc⟩ := h.opened hi
  obtain ⟨p', hp', hc'⟩ := h.opened hi'
  rw [← hc, ← hc', Option.some.inj (hp.symm.trans hp')]

lemma kept_subset {now : Time} {chat : ℤ} : f.kept cfg now chat ⊆ f.opened chat := by
  intro i hi
  have hi' : i ∈ (f.opened chat).filter fun i =>
      (f.pitches[i]?).any fun p => now - p.createdAt ≤ cfg.pitchTtl := by
    rw [Flow.kept, Flow.lastOnes] at hi
    split_ifs at hi <;> exact List.mem_of_mem_drop hi
  exact List.mem_of_mem_filter hi'

lemma opened_prune {now : Time} {chat c : ℤ} {i : ℕ} (h : i ∈ (f.prune cfg now chat).opened c) :
    i ∈ f.opened c := by
  simp only [Flow.prune, Function.update_apply] at h
  split_ifs at h with hc
  · exact hc ▸ kept_subset h
  · exact h

lemma byMsg_prune {now : Time} {chat : ℤ} {key : ℤ × ℤ} {i : ℕ}
    (h : (f.prune cfg now chat).byMsg key = some i) : f.byMsg key = some i := by
  simp only [Flow.prune] at h
  split_ifs at h
  exact h

lemma Sound.prune (h : Sound cfg f live replies) (now : Time) (chat : ℤ) :
    Sound cfg (f.prune cfg now chat) live replies where
  known {c m i} hm := by
    obtain ⟨hi, p, hp, hmem⟩ := h.known (byMsg_prune hm)
    refine ⟨?_, p, hp, hmem⟩
    simp only [Flow.prune, Function.update_apply]
    split_ifs with hc
    · subst hc
      by_contra hkeep
      have hstands : f.standsFor ((f.opened c).filter (· ∉ f.kept cfg now c)) m = true :=
        List.any_eq_true.2 ⟨i, by simp [hi, hkeep], by simp [hp, hmem]⟩
      simp only [Flow.prune] at hm
      rw [if_pos ⟨trivial, hstands⟩] at hm
      cases hm
    · exact hi
  opened hi := h.opened (opened_prune hi)
  own {c m i p} hi hp hm := by
    have hbefore := h.own (opened_prune hi) hp hm
    simp only [Flow.prune]
    rw [if_neg]
    · exact hbefore
    · rintro ⟨rfl, hstands⟩
      obtain ⟨j, hj, hany⟩ := List.any_eq_true.1 hstands
      obtain ⟨q, hq, hmq⟩ : ∃ q, f.pitches[j]? = some q ∧ m ∈ q.messages := by
        simpa [Option.any_eq_true] using hany
      rw [List.mem_filter] at hj
      obtain rfl : i = j := Option.some.inj (hbefore.symm.trans (h.own hj.1 hq hmq))
      simp only [Flow.prune, Function.update_self] at hi
      simp [hi] at hj
  replied hi := h.replied (opened_prune hi)
  reacted hi := h.reacted (opened_prune hi)

lemma Sound.seen (h : Sound cfg f live replies) (chat message : ℤ) :
    Sound cfg (f.seen chat message) live replies :=
  ⟨h.known, h.opened, h.own, h.replied, h.reacted⟩

lemma getElem?_modify_cases {i j : ℕ} {g : Pitch → Pitch} {p : Pitch}
    (h : (f.modify i g).pitches[j]? = some p) :
    ∃ q, f.pitches[j]? = some q ∧ p = if i = j then g q else q := by
  simp only [Flow.modify, List.getElem?_modify] at h
  cases hq : f.pitches[j]? with
  | none => simp [hq] at h
  | some q =>
    refine ⟨q, rfl, ?_⟩
    split_ifs with hij <;> simp [hq, hij] at h <;> exact h.symm

lemma getElem?_modify_of {i j : ℕ} {g : Pitch → Pitch} {q : Pitch} (h : f.pitches[j]? = some q) :
    (f.modify i g).pitches[j]? = some (if i = j then g q else q) := by
  simp only [Flow.modify, List.getElem?_modify, h]
  split_ifs <;> rfl

/-- A change of a pitch that keeps what it is and whose new fires are accounted for. -/
lemma Sound.modify (h : Sound cfg f live replies) {i : ℕ} {g : Pitch → Pitch}
    {live' replies' : Finset Fire} (hchat : ∀ p, (g p).chatId = p.chatId)
    (hmessages : ∀ p, (g p).messages = p.messages) (hreplies : replies ⊆ replies')
    (hreply : ∀ {c u p}, i ∈ f.opened c → f.pitches[i]? = some p → u ∈ (g p).replyFires →
      u ∈ p.replyFires ∨ cfg.allow c u = true ∧ ∃ m ∈ p.messages, (c, m, u) ∈ replies')
    (hreact : ∀ {c m u p}, i ∈ f.opened c → f.pitches[i]? = some p →
      (m, u) ∈ (g p).reactionFires →
      cfg.allow c u = true ∧ m ∈ p.messages ∧ (c, m, u) ∈ live')
    (hlive : ∀ {c j m u p}, j ≠ i → j ∈ f.opened c → f.pitches[j]? = some p →
      (m, u) ∈ p.reactionFires → (c, m, u) ∈ live') :
    Sound cfg (f.modify i g) live' replies' where
  known hm := by
    obtain ⟨hi, p, hp, hmem⟩ := h.known hm
    refine ⟨hi, _, getElem?_modify_of hp, ?_⟩
    split_ifs
    · rwa [hmessages]
    · exact hmem
  opened hi := by
    obtain ⟨p, hp, hc⟩ := h.opened hi
    refine ⟨_, getElem?_modify_of hp, ?_⟩
    split_ifs
    · rwa [hchat]
    · exact hc
  own hi hp hm := by
    obtain ⟨q, hq, rfl⟩ := getElem?_modify_cases hp
    refine h.own hi hq ?_
    split_ifs at hm
    · rwa [hmessages] at hm
    · exact hm
  replied {c j u p} hj hp hu := by
    obtain ⟨q, hq, rfl⟩ := getElem?_modify_cases hp
    have hold : u ∈ q.replyFires →
        cfg.allow c u = true ∧ ∃ m ∈ q.messages, (c, m, u) ∈ replies' := by
      intro hu
      obtain ⟨hallow, m, hm, hrep⟩ := h.replied hj hq hu
      exact ⟨hallow, m, hm, hreplies hrep⟩
    split_ifs at hu ⊢ with hij
    · subst hij
      rw [hmessages]
      exact (hreply hj hq hu).elim hold id
    · exact hold hu
  reacted {c j m u p} hj hp hmu := by
    obtain ⟨q, hq, rfl⟩ := getElem?_modify_cases hp
    split_ifs at hmu ⊢ with hij
    · subst hij
      rw [hmessages]
      exact hreact hj hq hmu
    · obtain ⟨hallow, hm, -⟩ := h.reacted hj hq hmu
      exact ⟨hallow, hm, hlive (Ne.symm hij) hj hq hmu⟩

lemma messages_insert (p : Pitch) (target : ℤ) :
    ({ p with riffIds := insert target p.riffIds } : Pitch).messages = insert target p.messages := by
  simp only [Pitch.messages, Finset.insert_comm]

lemma Sound.linkRiff (h : Sound cfg f live replies) {c target : ℤ} {i : ℕ} (hi : i ∈ f.opened c)
    (hnone : f.byMsg (c, target) = none) : Sound cfg (f.linkRiff c i target) live replies where
  known {c' m j} hm := by
    simp only [Flow.linkRiff, Function.update_apply, Prod.mk.injEq] at hm
    split_ifs at hm with hkey
    · obtain ⟨rfl, rfl⟩ := hkey
      obtain rfl := Option.some.inj hm
      obtain ⟨p, hp, -⟩ := h.opened hi
      refine ⟨hi, _, getElem?_modify_of hp, ?_⟩
      simp [messages_insert]
    · obtain ⟨hj, p, hp, hmem⟩ := h.known hm
      refine ⟨hj, _, getElem?_modify_of hp, ?_⟩
      split_ifs
      · rw [messages_insert]
        exact Finset.mem_insert_of_mem hmem
      · exact hmem
  opened hj := by
    obtain ⟨p, hp, hc⟩ := h.opened hj
    refine ⟨_, getElem?_modify_of hp, ?_⟩
    split_ifs <;> exact hc
  own {c' m j p} hj hp hm := by
    obtain ⟨q, hq, rfl⟩ := getElem?_modify_cases hp
    have hold : m ∈ q.messages → (f.linkRiff c i target).byMsg (c', m) = some j := by
      intro hm
      have hbefore := h.own hj hq hm
      simp only [Flow.linkRiff]
      rw [Function.update_of_ne]
      · exact hbefore
      · rintro heq
        rw [heq, hnone] at hbefore
        cases hbefore
    split_ifs at hm with hij
    · rw [messages_insert, Finset.mem_insert] at hm
      rcases hm with rfl | hm
      · obtain rfl : c' = c := h.chat_eq hj (hij ▸ hi)
        simp [Flow.linkRiff, hij]
      · exact hold hm
    · exact hold hm
  replied {c' j u p} hj hp hu := by
    obtain ⟨q, hq, rfl⟩ := getElem?_modify_cases hp
    split_ifs at hu ⊢
    · obtain ⟨hallow, m, hm, hrep⟩ := h.replied hj hq hu
      exact ⟨hallow, m, by rw [messages_insert]; exact Finset.mem_insert_of_mem hm, hrep⟩
    · exact h.replied hj hq hu
  reacted {c' j m u p} hj hp hmu := by
    obtain ⟨q, hq, rfl⟩ := getElem?_modify_cases hp
    split_ifs at hmu ⊢
    · obtain ⟨hallow, hm, hlive⟩ := h.reacted hj hq hmu
      exact ⟨hallow, by rw [messages_insert]; exact Finset.mem_insert_of_mem hm, hlive⟩
    · exact h.reacted hj hq hmu

/-- The lookup leaves the table leading to what it found. -/
lemma byMsg_pitchForTarget (cfg : Config) (f : Flow) (now : Time) (c target : ℤ) (bot : Bool) :
    (f.pitchForTarget cfg now c target bot).2.byMsg (c, target) =
      (f.pitchForTarget cfg now c target bot).1 := by
  rw [Flow.pitchForTarget]
  cases hm : f.byMsg (c, target) with
  | some i => exact hm
  | none =>
    simp only
    split_ifs
    · exact hm
    · exact hm
    · cases hfind : (f.prune cfg now c).pitchBefore cfg c target with
      | some i => simp [Flow.linkRiff]
      | none =>
        rw [Option.eq_none_iff_forall_ne_some]
        intro i hi
        rw [byMsg_prune hi] at hm
        cases hm

lemma Sound.pitchForTarget (h : Sound cfg f live replies) (now : Time) (c target : ℤ)
    (bot : Bool) : Sound cfg (f.pitchForTarget cfg now c target bot).2 live replies := by
  rw [Flow.pitchForTarget]
  cases hm : f.byMsg (c, target) with
  | some i => exact h
  | none =>
    simp only
    split_ifs
    · exact h
    · exact h
    · cases hfind : (f.prune cfg now c).pitchBefore cfg c target with
      | some i =>
        have hi : i ∈ (f.prune cfg now c).opened c := by
          simpa using List.mem_of_find?_eq_some hfind
        refine (h.prune now c).linkRiff hi ?_
        rw [Option.eq_none_iff_forall_ne_some]
        intro j hj
        rw [byMsg_prune hj] at hm
        cases hm
      | none => exact h.prune now c

lemma Sound.register (h : Sound cfg f live replies) {now : Time} {msg : Message} {author : ℤ}
    (hfresh : f.byMsg (msg.chatId, msg.messageId) = none) :
    Sound cfg (f.register cfg now msg author) live replies := by
  rw [Flow.register]
  refine Sound.prune ?_ now msg.chatId
  have hlt : ∀ {c i}, i ∈ f.opened c → i < f.pitches.length := by
    intro c i hi
    obtain ⟨p, hp, -⟩ := h.opened hi
    exact (List.getElem?_eq_some_iff.1 hp).1
  have hcases : ∀ {c i}, i ∈ Function.update f.opened msg.chatId
      (f.opened msg.chatId ++ [f.pitches.length]) c →
      i ∈ f.opened c ∨ i = f.pitches.length ∧ c = msg.chatId := by
    intro c i hi
    rw [Function.update_apply] at hi
    split_ifs at hi with hc
    · subst hc
      simpa using hi
    · exact Or.inl hi
  have hget : ∀ {i p q}, i < f.pitches.length → (f.pitches ++ [q])[i]? = some p →
      f.pitches[i]? = some p := fun hi hp => by rwa [List.getElem?_append_left hi] at hp
  have hmem : ∀ {c i}, i ∈ f.opened c → i ∈ Function.update f.opened msg.chatId
      (f.opened msg.chatId ++ [f.pitches.length]) c := by
    intro c i hi
    rw [Function.update_apply]
    split_ifs with hc
    · subst hc
      simp [hi]
    · exact hi
  refine ⟨?_, ?_, ?_, ?_, ?_⟩ <;> dsimp only
  · intro c m i hm
    rw [Function.update_apply] at hm
    split_ifs at hm with hkey
    · obtain rfl := Option.some.inj hm
      obtain ⟨rfl, rfl⟩ := Prod.mk.inj hkey
      exact ⟨by simp, _, List.getElem?_concat_length, by simp [Pitch.messages]⟩
    · obtain ⟨hi, p, hp, hmp⟩ := h.known hm
      exact ⟨hmem hi, p, by rw [List.getElem?_append_left (hlt hi)]; exact hp, hmp⟩
  · intro c i hi
    rcases hcases hi with hi | ⟨rfl, rfl⟩
    · obtain ⟨p, hp, hc⟩ := h.opened hi
      exact ⟨p, by rw [List.getElem?_append_left (hlt hi)]; exact hp, hc⟩
    · exact ⟨_, List.getElem?_concat_length, rfl⟩
  · intro c m i p hi hp hm
    rcases hcases hi with hi | ⟨rfl, rfl⟩
    · have hbefore := h.own hi (hget (hlt hi) hp) hm
      rw [Function.update_of_ne]
      · exact hbefore
      · intro heq
        rw [heq, hfresh] at hbefore
        cases hbefore
    · rw [List.getElem?_concat_length] at hp
      obtain rfl := Option.some.inj hp
      simp only [Pitch.messages, Finset.mem_insert, Finset.notMem_empty, or_false] at hm
      rw [hm]
      simp
  · intro c i u p hi hp hu
    rcases hcases hi with hi | ⟨rfl, rfl⟩
    · exact h.replied hi (hget (hlt hi) hp) hu
    · rw [List.getElem?_concat_length] at hp
      obtain rfl := Option.some.inj hp
      simp at hu
  · intro c i m u p hi hp hmu
    rcases hcases hi with hi | ⟨rfl, rfl⟩
    · exact h.reacted hi (hget (hlt hi) hp) hmu
    · rw [List.getElem?_concat_length] at hp
      obtain rfl := Option.some.inj hp
      simp at hmu

/-! ### One part of a handler -/

lemma sound_draftedFlag (h : Sound cfg f live replies) (i : ℕ) (b : Bool) :
    Sound cfg (f.modify i fun p => { p with drafted := b }) live replies :=
  h.modify (fun _ => rfl) (fun _ => rfl) (Finset.Subset.refl _) (fun _ _ hu => Or.inl hu)
    (fun hi hp hmu => h.reacted hi hp hmu) (fun _ hj hq hmu => (h.reacted hj hq hmu).2.2)

lemma Sound.maybeTrigger (h : Sound cfg f live replies) (i : ℕ) (user : ℤ) (now : Time) :
    Sound cfg (maybeTrigger cfg f i user now).2 live replies := by
  rw [PitchFlow.maybeTrigger]
  split
  · exact h
  · next p hp =>
    split_ifs
    · exact h
    · exact sound_draftedFlag h i true

lemma Sound.entered (h : Sound cfg f live replies) (msg : Message) (now : Time) :
    Sound cfg (entered cfg f msg now) live replies := by
  have hpruned := (h.seen msg.chatId msg.messageId).prune now msg.chatId
  rw [PitchFlow.entered]
  split
  · split_ifs
    · exact hpruned.pitchForTarget now _ _ _
    · exact hpruned
  · exact hpruned

lemma Sound.mono (h : Sound cfg f live replies) {replies' : Finset Fire}
    (hsub : replies ⊆ replies') : Sound cfg f live replies' where
  known := h.known
  opened := h.opened
  own := h.own
  replied hi hp hu := by
    obtain ⟨hallow, m, hm, hrep⟩ := h.replied hi hp hu
    exact ⟨hallow, m, hm, hsub hrep⟩
  reacted := h.reacted

/-- A fire reply counts for the pitch that the table leads to. -/
lemma Sound.addReply (h : Sound cfg f live replies) {c target user : ℤ} {i : ℕ}
    (hfound : f.byMsg (c, target) = some i) (hallow : cfg.allow c user = true) :
    Sound cfg (f.modify i fun p => { p with replyFires := insert user p.replyFires }) live
      (insert (c, target, user) replies) := by
  obtain ⟨hopen, p, hp, hmem⟩ := h.known hfound
  refine h.modify (fun _ => rfl) (fun _ => rfl) (Finset.subset_insert _ _) ?_
    (fun hi hq hmu => h.reacted hi hq hmu) (fun _ hj hq hmu => (h.reacted hj hq hmu).2.2)
  intro c' u q hi hq hu
  obtain rfl : p = q := Option.some.inj (hp.symm.trans hq)
  rcases Finset.mem_insert.1 hu with rfl | hu
  · obtain rfl : c' = c := h.chat_eq hi hopen
    exact Or.inr ⟨hallow, target, hmem, Finset.mem_insert_self _ _⟩
  · exact Or.inl hu

lemma Sound.fireReply (h : Sound cfg f live replies) {msg : Message} {user : ℤ} {now : Time}
    (hfire : isFireReply cfg msg = true) (hallow : cfg.allow msg.chatId user = true) :
    Sound cfg (fireReply cfg f msg user now).2 live (repliesAfter cfg replies msg user) := by
  cases htarget : msg.replyTo with
  | none => simp [isFireReply, htarget] at hfire
  | some target =>
    have hrep : repliesAfter cfg replies msg user = insert (msg.chatId, target, user) replies := by
      simp [repliesAfter, htarget, hfire]
    have hsub : replies ⊆ insert (msg.chatId, target, user) replies := Finset.subset_insert _ _
    have hlook := h.pitchForTarget now msg.chatId target msg.replyToIsBot
    have hby := byMsg_pitchForTarget cfg f now msg.chatId target msg.replyToIsBot
    simp only [PitchFlow.fireReply, htarget, hrep]
    cases hfound : (f.pitchForTarget cfg now msg.chatId target msg.replyToIsBot).1 with
    | none => exact hlook.mono hsub
    | some i =>
      simp only
      split_ifs
      · exact hlook.mono hsub
      · exact (hlook.addReply (hby.trans hfound) hallow).maybeTrigger i user now

/-- The message becomes a pitch. -/
def registers (cfg : Config) (msg : Message) : Bool :=
  !isFireReply cfg msg && !isShipIt cfg.isWord msg.text && isPitch cfg msg

/-- A message that becomes a pitch stands for no pitch that is still kept, and is no answer to
itself. -/
def Fresh (cfg : Config) (f : Flow) (msg : Message) (now : Time) : Prop :=
  registers cfg msg = true → msg.replyTo ≠ some msg.messageId ∧
    ∀ i ∈ f.kept cfg now msg.chatId, ∀ p, f.pitches[i]? = some p → msg.messageId ∉ p.messages

lemma byMsg_pitchForTarget_of_ne {now : Time} {c target : ℤ} {bot : Bool} {key : ℤ × ℤ}
    (hne : key ≠ (c, target)) (hnone : f.byMsg key = none) :
    (f.pitchForTarget cfg now c target bot).2.byMsg key = none := by
  have hpruned : (f.prune cfg now c).byMsg key = none := by
    rw [Option.eq_none_iff_forall_ne_some]
    intro i hi
    rw [byMsg_prune hi] at hnone
    cases hnone
  rw [Flow.pitchForTarget]
  split
  · exact hnone
  · split_ifs
    · exact hnone
    · exact hnone
    · dsimp only
      split
      · exact (Function.update_of_ne hne _ _).trans hpruned
      · exact hpruned

lemma Sound.byMsg_of_fresh (h : Sound cfg f live replies) {msg : Message} {now : Time}
    (hfresh : Fresh cfg f msg now) (hreg : registers cfg msg = true) :
    (PitchFlow.entered cfg f msg now).byMsg (msg.chatId, msg.messageId) = none := by
  obtain ⟨hself, hkept⟩ := hfresh hreg
  have hpruned : ((f.seen msg.chatId msg.messageId).prune cfg now msg.chatId).byMsg
      (msg.chatId, msg.messageId) = none := by
    rw [Option.eq_none_iff_forall_ne_some]
    intro i hi
    obtain ⟨hopen, p, hp, hm⟩ := ((h.seen _ _).prune now msg.chatId).known hi
    simp only [Flow.prune, Function.update_self] at hopen
    exact hkept i hopen p hp hm
  rw [PitchFlow.entered]
  split
  · next target htarget =>
    split_ifs
    · refine byMsg_pitchForTarget_of_ne ?_ hpruned
      rintro heq
      exact hself (htarget.trans (congrArg some (Prod.mk.inj heq).2.symm))
    · exact hpruned
  · exact hpruned

lemma Sound.onMessage (h : Sound cfg f live replies) {msg : Message} {user : ℤ} {now : Time}
    (hallow : cfg.allow msg.chatId user = true) (hfresh : Fresh cfg f msg now) :
    Sound cfg (onMessage cfg f msg user now).2 live (repliesAfter cfg replies msg user) := by
  have hent := h.entered msg now
  rw [PitchFlow.onMessage]
  cases hfire : isFireReply cfg msg with
  | true => exact hent.fireReply hfire hallow
  | false =>
    have hrep : repliesAfter cfg replies msg user = replies := by
      rw [repliesAfter]
      split <;> simp [hfire]
    simp only [hrep, Bool.false_eq_true, if_false]
    split_ifs with hship hpitch
    · exact hent
    · exact hent.register (h.byMsg_of_fresh hfresh (by simp [registers, hfire, hship, hpitch]))
    · exact hent

lemma Sound.shipTarget (h : Sound cfg f live replies) (msg : Message) (now : Time) :
    Sound cfg (shipTarget cfg f msg now).2 live replies := by
  have hlook : Sound cfg (match msg.replyTo with
      | some target => f.pitchForTarget cfg now msg.chatId target msg.replyToIsBot
      | none => (none, f) : Option ℕ × Flow).2 live replies := by
    split
    · exact h.pitchForTarget now _ _ _
    · exact h
  simp only [PitchFlow.shipTarget]
  split
  · exact hlook
  · split <;> exact hlook.prune now _

lemma Sound.onHost (h : Sound cfg f live replies) (msg : Message) (user : ℤ) (host : Option ℤ)
    (now : Time) : Sound cfg (onHost cfg f msg user host now).2 live replies := by
  have hlook := h.shipTarget msg now
  simp only [PitchFlow.onHost]
  split_ifs
  · exact h
  · split
    · exact hlook
    · split
      · exact hlook
      · split_ifs
        · exact hlook
        · exact sound_draftedFlag hlook _ true

lemma Sound.addFire (h : Sound cfg f live replies) {c m user : ℤ} {i : ℕ}
    (hfound : f.byMsg (c, m) = some i) (hallow : cfg.allow c user = true) :
    Sound cfg (f.modify i fun p => { p with reactionFires := insert (m, user) p.reactionFires })
      (insert (c, m, user) live) replies := by
  obtain ⟨hopen, p, hp, hmem⟩ := h.known hfound
  refine h.modify (fun _ => rfl) (fun _ => rfl) (Finset.Subset.refl _) (fun _ _ hu => Or.inl hu) ?_
    (fun _ hj hq hmu => Finset.mem_insert_of_mem (h.reacted hj hq hmu).2.2)
  intro c' m' u q hi hq hmu
  obtain rfl : p = q := Option.some.inj (hp.symm.trans hq)
  rcases Finset.mem_insert.1 hmu with heq | hmu
  · obtain ⟨rfl, rfl⟩ := Prod.mk.inj heq
    obtain rfl : c' = c := h.chat_eq hi hopen
    exact ⟨hallow, hmem, Finset.mem_insert_self _ _⟩
  · obtain ⟨hallow, hm, hlive⟩ := h.reacted hi hq hmu
    exact ⟨hallow, hm, Finset.mem_insert_of_mem hlive⟩

/-- A withdrawn fire is taken from the one pitch that can count it. -/
lemma Sound.eraseFire (h : Sound cfg f live replies) {c m user : ℤ} {i : ℕ}
    (hfound : f.byMsg (c, m) = some i) :
    Sound cfg (f.modify i fun p => { p with reactionFires := p.reactionFires.erase (m, user) })
      (live.erase (c, m, user)) replies := by
  refine h.modify (fun _ => rfl) (fun _ => rfl) (Finset.Subset.refl _) (fun _ _ hu => Or.inl hu)
    ?_ ?_
  · intro c' m' u q hi hq hmu
    obtain ⟨hne, hmu⟩ := Finset.mem_erase.1 hmu
    obtain ⟨hallow, hm, hlive⟩ := h.reacted hi hq hmu
    refine ⟨hallow, hm, Finset.mem_erase.2 ⟨fun heq => hne ?_, hlive⟩⟩
    exact (Prod.mk.inj heq).2
  · intro c' j m' u q hne hj hq hmu
    obtain ⟨-, hm, hlive⟩ := h.reacted hj hq hmu
    refine Finset.mem_erase.2 ⟨fun heq => hne ?_, hlive⟩
    obtain ⟨rfl, hrest⟩ := Prod.mk.inj heq
    obtain ⟨rfl, -⟩ := Prod.mk.inj hrest
    exact Option.some.inj ((h.own hj hq hm).symm.trans hfound)

lemma Sound.eraseUnknown (h : Sound cfg f live replies) {c m user : ℤ}
    (hnone : f.byMsg (c, m) = none) : Sound cfg f (live.erase (c, m, user)) replies where
  known := h.known
  opened := h.opened
  own := h.own
  replied := h.replied
  reacted {c' j m' u q} hj hq hmu := by
    obtain ⟨hallow, hm, hlive⟩ := h.reacted hj hq hmu
    refine ⟨hallow, hm, Finset.mem_erase.2 ⟨fun heq => ?_, hlive⟩⟩
    obtain ⟨rfl, hrest⟩ := Prod.mk.inj heq
    obtain ⟨rfl, -⟩ := Prod.mk.inj hrest
    rw [h.own hj hq hm] at hnone
    cases hnone

lemma Sound.addUnknown (h : Sound cfg f live replies) (k : Fire) :
    Sound cfg f (insert k live) replies where
  known := h.known
  opened := h.opened
  own := h.own
  replied := h.replied
  reacted hj hq hmu := by
    obtain ⟨hallow, hm, hlive⟩ := h.reacted hj hq hmu
    exact ⟨hallow, hm, Finset.mem_insert_of_mem hlive⟩

lemma Sound.onReaction (h : Sound cfg f live replies) {c : ReactionChange} {user : ℤ} {now : Time}
    (hallow : cfg.allow c.chatId user = true) :
    Sound cfg (onReaction cfg f c user now).2 (liveAfter cfg live c user) replies := by
  rw [PitchFlow.onReaction, liveAfter]
  split_ifs with hsame hhas
  · exact h
  · have hlook := h.pitchForTarget now c.chatId c.messageId false
    have hby := byMsg_pitchForTarget cfg f now c.chatId c.messageId false
    dsimp only
    cases hfound : (f.pitchForTarget cfg now c.chatId c.messageId false).1 with
    | none => exact hlook.addUnknown _
    | some i =>
      have hadd := hlook.addFire (hby.trans hfound) hallow
      dsimp only
      split_ifs
      · exact hadd
      · exact hadd.maybeTrigger i user now
  · have hlook := h.pitchForTarget now c.chatId c.messageId false
    have hby := byMsg_pitchForTarget cfg f now c.chatId c.messageId false
    dsimp only
    cases hfound : (f.pitchForTarget cfg now c.chatId c.messageId false).1 with
    | none => exact hlook.eraseUnknown (hby.trans hfound)
    | some i =>
      exact hlook.eraseFire (hby.trans hfound)

end SherwoodMonitor.PitchFlow
