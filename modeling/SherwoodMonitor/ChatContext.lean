import SherwoodMonitor.Authz
import SherwoodMonitor.Library.Mailbox
import SherwoodMonitor.PitchText

/-! Context queued for the agent's next turn in a chat: the pitch flow's queue
(`telegram/flow.py`) and the bridge's (`fund/telegram.py`). An entry is held with its number, which
nothing reads. -/
namespace SherwoodMonitor.ChatContext
open PyUnicode PyText Models Authz PitchText

/-- `_Context`. -/
structure Context where
  createdAt : Time
  key : String
  text : String
  chatId : ℤ
  senderId : Option ℤ
  deriving DecidableEq

/-- An entry of `_chat_context`; no senders: anyone in the chat. -/
structure ChatEntry where
  createdAt : Time
  chat : String
  senders : List String
  text : String
  deriving DecidableEq

/-- The `maxlen` of both queues. -/
def maxEntries : ℕ := 50

def flowTtl : Time := 600
def bridgeTtl : Time := 900

/-- How long a lone entry is given out for a message that was reworded. -/
def loneWindow : Time := 120

variable (isWord : Char → Bool)

/-- `_norm`. -/
def norm (text : String) : String :=
  let said := lower (String.ofList (dropMentions isWord false text.toList))
  " ".intercalate (((said.toList.splitOnP isSpace).filter (· ≠ [])).map String.ofList)

/-- What `_queue_context` appends. -/
def newContext (now : Time) (sourceText : String) (chat : ℤ) (sender : Option ℤ) (text : String) :
    Context :=
  { createdAt := now, key := take (norm isWord sourceText) 80, text, chatId := chat,
    senderId := sender }

/-- `int(str(id)) if id not in (None, "") else None`; `none` where that raises. -/
def idOf : Option String → Option (Option ℤ)
  | none => some none
  | some s => if s = "" then some none else (int? s).map some

/-- `deque.remove`: the first entry that equals this one. -/
def remove (held : List (Context × ℕ)) (entry : Context) :
    Option (Context × ℕ) × List (Context × ℕ) :=
  (held.find? fun e => e.1 = entry, held.eraseP fun e => e.1 = entry)

/-- `take_context`. -/
def takeContext (held : List (Context × ℕ)) (now : Time) (userMessage : String)
    (chat sender : Option String) : Option (Context × ℕ) × List (Context × ℕ) :=
  let held := held.dropWhile fun e => now - e.1.createdAt > flowTtl
  match idOf chat, idOf sender with
  | some (some chat), some sender =>
      let mine := held.filter fun e =>
        e.1.chatId = chat && (e.1.senderId.isNone || e.1.senderId = sender)
      let haystack := norm isWord userMessage
      match mine.reverse.find? fun e => e.1.key ≠ "" && e.1.key.toList <:+: haystack.toList with
      | some e => remove held e.1
      | none =>
          match mine with
          | [e] => if now - e.1.createdAt ≤ loneWindow then remove held e.1 else (none, held)
          | _ => (none, held)
  | _, _ => (none, held)

/-- What `queue_chat_context` appends, where the chat has an id. -/
def newChatEntry (now : Time) (chat : String) (senders : List String) (text : String) :
    Option ChatEntry :=
  if chat = "" then none
  else some { createdAt := now, chat, senders := senders.filter (· ≠ ""), text }

/-- The entry has not expired, and it is for this sender in this chat. -/
def ChatEntry.fresh (now : Time) (e : ChatEntry) : Bool := now - e.createdAt ≤ bridgeTtl
def ChatEntry.isFor (chat sender : String) (e : ChatEntry) : Bool :=
  e.chat = chat && (e.senders.isEmpty || e.senders.contains sender)

/-- `take_chat_context`: the entries given, and the queue behind it. -/
def takeChatContext (held : List (ChatEntry × ℕ)) (now : Time) (chat sender : String) :
    List (ChatEntry × ℕ) × List (ChatEntry × ℕ) :=
  (held.filter fun e => e.1.fresh now && e.1.isFor chat sender,
    held.filter fun e => e.1.fresh now && !e.1.isFor chat sender)

/-- The turn of the agent that asks for its context, and when it asks. -/
structure Turn where
  caller : Caller
  userMessage : String
  now : Time

structure Queues where
  pitches : Mailbox Context Turn := {}
  chats : Mailbox ChatEntry Turn := {}

/-- The hook of `make_pre_llm_call_hook`. -/
def pitchHook (q : Queues) (turn : Turn) : Queues :=
  if turn.caller.platform ≠ "telegram" ∨ turn.caller.chatId = "" then q
  else
    let sender := if turn.caller.userId = "" then none else some turn.caller.userId
    let (entry, held) := takeContext isWord q.pitches.held turn.now turn.userMessage
      (some turn.caller.chatId) sender
    { q with pitches := q.pitches.give turn entry.toList held }

/-- `take_chat_context` for the turn. -/
def takeChats (q : Queues) (turn : Turn) : Queues :=
  let (out, held) := takeChatContext q.chats.held turn.now turn.caller.chatId turn.caller.userId
  { q with chats := q.chats.give turn out held }

/-- `pre_llm_context`, with the reading of the clock for the second queue. The flow's hook is there
where a Telegram runtime is. -/
def preLlmContext (attached : Bool) (q : Queues) (turn : Turn) (later : Time) : Queues :=
  if turn.caller.platform ≠ "telegram" ∨ turn.caller.chatId = "" then q
  else
    let q := if attached then pitchHook isWord q turn else q
    takeChats q { turn with now := later }

/-- One operation on the queues. -/
inductive Op
  | queue (now : Time) (sourceText : String) (chat : ℤ) (sender : Option ℤ) (text : String)
  | queueChat (now : Time) (chat : String) (senders : List String) (text : String)
  | hook (turn : Turn)
  | preLlm (attached : Bool) (turn : Turn) (later : Time)

def Op.times : Op → List Time
  | .queue now .. => [now]
  | .queueChat now .. => [now]
  | .hook turn => [turn.now]
  | .preLlm _ turn later => [turn.now, later]

def step (q : Queues) : Op → Queues
  | .queue now sourceText chat sender text =>
      { q with pitches :=
          q.pitches.post maxEntries (newContext isWord now sourceText chat sender text) }
  | .queueChat now chat senders text =>
      match newChatEntry now chat senders text with
      | some entry => { q with chats := q.chats.post maxEntries entry }
      | none => q
  | .hook turn => pitchHook isWord q turn
  | .preLlm attached turn later => preLlmContext isWord attached q turn later

def run (q : Queues) (ops : List Op) : Queues := ops.foldl (step isWord) q

/-! ### One take -/

variable {isWord} {held : List (Context × ℕ)} {now : Time}

def Context.fresh (now : Time) (e : Context) : Bool := now - e.createdAt ≤ flowTtl

/-- Who may be given an entry of the flow's queue. -/
def PitchAllowed (turn : Turn) (e : Context) : Prop :=
  turn.caller.platform = "telegram" ∧ int? turn.caller.chatId = some e.chatId ∧
    (e.senderId = none ∨ ∃ sender, e.senderId = some sender ∧
      int? turn.caller.userId = some sender) ∧ turn.now - e.createdAt ≤ flowTtl

/-- Who may be given an entry of the bridge's queue. -/
def ChatAllowed (turn : Turn) (e : ChatEntry) : Prop :=
  turn.caller.platform = "telegram" ∧ turn.caller.chatId = e.chat ∧
    (e.senders = [] ∨ turn.caller.userId ∈ e.senders) ∧ turn.now - e.createdAt ≤ bridgeTtl

/-- Behind the expired entries at the front no other one has expired. -/
lemma dropWhile_expired (hsorted : held.Pairwise fun e e' => e.1.createdAt ≤ e'.1.createdAt) :
    held.dropWhile (fun e => now - e.1.createdAt > flowTtl) =
      held.filter fun e => e.1.fresh now := by
  induction held with
  | nil => rfl
  | cons e held ih =>
    obtain ⟨hfirst, hrest⟩ := List.pairwise_cons.1 hsorted
    by_cases hexpired : now - e.1.createdAt > flowTtl
    · have hstale : ¬ e.1.fresh now = true := by
        rw [Context.fresh, decide_eq_true_eq, not_le]
        exact hexpired
      rw [List.dropWhile_cons, if_pos (decide_eq_true hexpired), ih hrest,
        List.filter_cons, if_neg hstale]
    · rw [List.dropWhile_cons, if_neg (by rwa [decide_eq_true_eq])]
      refine (List.filter_eq_self.2 fun e' he' => ?_).symm
      have hle : e.1.createdAt ≤ e'.1.createdAt := by
        rcases List.mem_cons.1 he' with rfl | he'
        · exact le_refl _
        · exact hfirst e' he'
      simp only [Context.fresh, decide_eq_true_eq]
      linarith

lemma eraseP_eq_filter {α : Type} [DecidableEq α] {l : List α} {p : α → Bool} {a : α}
    (hnodup : l.Nodup) (hfind : l.find? p = some a) : l.eraseP p = l.filter (· ≠ a) := by
  induction l with
  | nil => cases hfind
  | cons b l ih =>
    obtain ⟨hb, hnodup⟩ := List.nodup_cons.1 hnodup
    by_cases hp : p b = true
    · rw [List.find?_cons_of_pos hp] at hfind
      obtain rfl := Option.some.inj hfind
      rw [List.eraseP_cons_of_pos hp, List.filter_cons_of_neg (by simp)]
      refine (List.filter_eq_self.2 fun c hc => ?_).symm
      simpa using fun heq : c = b => hb (heq ▸ hc)
    · rw [List.find?_cons_of_neg hp] at hfind
      have hne : b ≠ a := by
        rintro rfl
        exact hb (List.mem_of_find?_eq_some hfind)
      rw [List.eraseP_cons_of_neg hp, List.filter_cons_of_pos (by simpa using hne),
        ih hnodup hfind]

open Mailbox

/-- Nothing is given: at most the expired entries at the front go. -/
lemma takes_none (now : Time) (held : List (Context × ℕ)) :
    Takes (Context.fresh now) held [] (held.filter fun e => e.1.fresh now) := by
  constructor <;> simp

lemma takes_remove (hnodup : held.Nodup) {e : Context × ℕ}
    (he : e ∈ held.filter fun e => e.1.fresh now) :
    ∃ x, remove (held.filter fun e => e.1.fresh now) e.1 =
        (some x, (held.filter fun e => e.1.fresh now).filter (· ≠ x)) ∧ x.1 = e.1 ∧
      Takes (Context.fresh now) held [x]
        ((held.filter fun e => e.1.fresh now).filter (· ≠ x)) := by
  obtain ⟨x, hx⟩ : ∃ x, (held.filter fun e => e.1.fresh now).find? (fun e' => e'.1 = e.1) =
      some x :=
    Option.isSome_iff_exists.1 (List.find?_isSome.2 ⟨e, he, by simp⟩)
  have hmem := List.mem_of_find?_eq_some hx
  refine ⟨x, ?_, by simpa using List.find?_some hx, ?_⟩
  · rw [remove, hx, eraseP_eq_filter (hnodup.filter _) hx]
  · constructor
    · exact List.singleton_sublist.2 (List.mem_filter.1 hmem).1
    · exact List.filter_sublist.trans List.filter_sublist
    · simp
    · rw [List.filter_filter, List.filter_filter]
      refine List.filter_congr fun e' _ => ?_
      cases e'.1.fresh now <;> simp

/-- What a take gives is in the queue, has not expired and is for the caller. -/
lemma takeContext_takes {userMessage : String} {chat sender : Option String} (hnodup : held.Nodup)
    (hsorted : held.Pairwise fun e e' => e.1.createdAt ≤ e'.1.createdAt) :
    Takes (Context.fresh now) held
      (takeContext isWord held now userMessage chat sender).1.toList
      (takeContext isWord held now userMessage chat sender).2 ∧
    ∀ e ∈ (takeContext isWord held now userMessage chat sender).1,
      e.1.fresh now = true ∧ idOf chat = some (some e.1.chatId) ∧
        (e.1.senderId = none ∨ idOf sender = some e.1.senderId) := by
  simp only [takeContext, dropWhile_expired hsorted]
  have hnone : Takes (Context.fresh now) held (Option.none : Option (Context × ℕ)).toList
      (held.filter fun e => e.1.fresh now) := takes_none now held
  cases hchat : idOf chat with
  | none => exact ⟨hnone, fun e he => nomatch he⟩
  | some chatId =>
    cases chatId with
    | none => exact ⟨hnone, fun e he => nomatch he⟩
    | some chatId =>
      cases hsender : idOf sender with
      | none => exact ⟨hnone, fun e he => nomatch he⟩
      | some senderId =>
        simp only
        set mine := (held.filter fun e => e.1.fresh now).filter fun e =>
          e.1.chatId = chatId && (e.1.senderId.isNone || e.1.senderId = senderId) with hmine
        have hgive : ∀ e ∈ mine,
            Takes (Context.fresh now) held
              (remove (held.filter fun e => e.1.fresh now) e.1).1.toList
              (remove (held.filter fun e => e.1.fresh now) e.1).2 ∧
            ∀ e' ∈ (remove (held.filter fun e => e.1.fresh now) e.1).1, e'.1.fresh now = true ∧
              some (some chatId) = some (some e'.1.chatId) ∧
              (e'.1.senderId = none ∨ some senderId = some e'.1.senderId) := by
          intro e he
          rw [hmine, List.mem_filter] at he
          obtain ⟨x, hremove, hx, htakes⟩ := takes_remove hnodup he.1
          rw [hremove]
          refine ⟨htakes, fun e' he' => ?_⟩
          obtain rfl := Option.some.inj he'
          rw [hx]
          have hboth : e.1.chatId = chatId ∧ (e.1.senderId = none ∨ e.1.senderId = senderId) := by
            simpa using he.2
          exact ⟨(List.mem_filter.1 he.1).2, by rw [hboth.1], hboth.2.imp id (by rintro rfl; rfl)⟩
        clear_value mine
        split
        · next e he =>
          exact hgive e (List.mem_reverse.1 (List.mem_of_find?_eq_some he))
        · split
          · next e _ =>
            split_ifs
            · exact hgive e (List.mem_singleton_self e)
            · exact ⟨hnone, fun e he => nomatch he⟩
          · exact ⟨hnone, fun e he => nomatch he⟩

lemma takeChatContext_takes {held : List (ChatEntry × ℕ)} {chat sender : String} :
    Takes (ChatEntry.fresh now) held (takeChatContext held now chat sender).1
      (takeChatContext held now chat sender).2 where
  given := List.filter_sublist
  kept := List.filter_sublist
  gone e he hkept := by
    have hboth := (List.mem_filter.1 he).2
    have hother := (List.mem_filter.1 hkept).2
    simp only [Bool.and_eq_true, Bool.not_eq_true'] at hboth hother
    rw [hboth.2] at hother
    cases hother.2
  others := by
    rw [takeChatContext, List.filter_filter]
    refine List.filter_congr fun e he => ?_
    cases hfresh : e.1.fresh now with
    | false => simp
    | true => cases hfor : e.1.isFor chat sender <;> simp [he, hfresh, hfor]

/-! ### Runs -/

/-- Both queues are sound, and their entries were posted in the order of the clock. -/
structure Ordered (q : Queues) (last : Time) : Prop where
  pitches : q.pitches.Sound PitchAllowed
  chats : q.chats.Sound ChatAllowed
  sorted : q.pitches.posted.Pairwise fun e e' => e.createdAt ≤ e'.createdAt
  before : ∀ e ∈ q.pitches.posted, e.createdAt ≤ last

variable {q : Queues} {last : Time}

lemma ordered_empty : Ordered {} last := by
  refine ⟨sound_empty, sound_empty, List.Pairwise.nil, ?_⟩
  simp

lemma Ordered.later (h : Ordered q last) {now : Time} (hnow : last ≤ now) : Ordered q now :=
  ⟨h.pitches, h.chats, h.sorted, fun e he => (h.before e he).trans hnow⟩

/-- The turn is a Telegram turn in a chat. -/
def Turn.inChat (turn : Turn) : Prop :=
  turn.caller.platform = "telegram" ∧ turn.caller.chatId ≠ ""

lemma pitchHook_takes (h : Ordered q last) {turn : Turn} (hturn : turn.inChat) :
    ∃ out rest, pitchHook isWord q turn = { q with pitches := q.pitches.give turn out rest } ∧
      Takes (Context.fresh turn.now) q.pitches.held out rest ∧
      ∀ e ∈ out, PitchAllowed turn e.1 := by
  have hgo : ¬ (turn.caller.platform ≠ "telegram" ∨ turn.caller.chatId = "") := by
    rw [not_or, not_not]
    exact hturn
  have htakes := @takeContext_takes isWord q.pitches.held turn.now turn.userMessage
    (some turn.caller.chatId) (if turn.caller.userId = "" then none else some turn.caller.userId)
    h.pitches.held_nodup (h.pitches.held_pairwise h.sorted)
  rw [pitchHook, if_neg hgo]
  refine ⟨_, _, rfl, htakes.1, fun e he => ?_⟩
  obtain ⟨hfresh, hchat, hsender⟩ := htakes.2 e (Option.mem_toList.1 he)
  refine ⟨hturn.1, ?_, ?_, of_decide_eq_true hfresh⟩
  · simpa [idOf, hturn.2] using hchat
  · rcases hsender with hnone | hsender
    · exact Or.inl hnone
    · split_ifs at hsender with huser
      · exact Or.inl (Option.some.inj hsender).symm
      · simp only [idOf, if_neg huser, Option.map_eq_some_iff] at hsender
        obtain ⟨n, hn, hsame⟩ := hsender
        exact Or.inr ⟨n, hsame.symm, hn⟩

lemma Ordered.pitchHook (h : Ordered q last) (turn : Turn) :
    Ordered (pitchHook isWord q turn) last := by
  by_cases hturn : turn.inChat
  · obtain ⟨out, rest, heq, htakes, hallowed⟩ := @pitchHook_takes isWord q last h turn hturn
    rw [heq]
    exact ⟨h.pitches.give htakes hallowed, h.chats, h.sorted, h.before⟩
  · rw [ChatContext.pitchHook, if_pos]
    · exact h
    · rwa [Turn.inChat, not_and_or, not_not] at hturn

lemma Ordered.takeChats (h : Ordered q last) {turn : Turn} (hturn : turn.inChat) :
    Ordered (takeChats q turn) last := by
  refine ⟨h.pitches, h.chats.give takeChatContext_takes fun e he => ?_, h.sorted, h.before⟩
  have hboth := (List.mem_filter.1 he).2
  simp only [ChatEntry.fresh, ChatEntry.isFor, Bool.and_eq_true, Bool.or_eq_true,
    decide_eq_true_eq, List.isEmpty_iff, List.contains_iff_mem] at hboth
  exact ⟨hturn.1, hboth.2.1.symm, hboth.2.2, hboth.1⟩

/-- The last reading of the clock in an operation. -/
def Op.lastTime : Op → Time
  | .queue now .. => now
  | .queueChat now .. => now
  | .hook turn => turn.now
  | .preLlm _ _ later => later

lemma Op.lastTime_mem (op : Op) : op.lastTime ∈ op.times := by
  cases op <;> simp [Op.lastTime, Op.times]

lemma Ordered.step (h : Ordered q last) {op : Op} (hop : ∀ t ∈ op.times, last ≤ t) :
    Ordered (step isWord q op) op.lastTime := by
  have hlast := h.later (hop _ op.lastTime_mem)
  cases op with
  | queue now sourceText chat sender text =>
    refine ⟨h.pitches.post maxEntries _, h.chats, ?_, ?_⟩
    · refine List.pairwise_append.2 ⟨h.sorted, List.pairwise_singleton _ _, ?_⟩
      intro e he e' he'
      obtain rfl := List.mem_singleton.1 he'
      exact hlast.before e he
    · intro e he
      rcases List.mem_append.1 he with he | he
      · exact hlast.before e he
      · obtain rfl := List.mem_singleton.1 he
        exact le_refl _
  | queueChat now chat senders text =>
    rw [ChatContext.step]
    split
    · exact ⟨h.pitches, h.chats.post maxEntries _, h.sorted, hlast.before⟩
    · exact hlast
  | hook turn => exact hlast.pitchHook turn
  | preLlm attached turn later =>
    by_cases hturn : turn.inChat
    · have hgo : ¬ (turn.caller.platform ≠ "telegram" ∨ turn.caller.chatId = "") := by
        rw [not_or, not_not]
        exact hturn
      rw [ChatContext.step, preLlmContext, if_neg hgo]
      cases attached with
      | false => exact hlast.takeChats hturn
      | true => exact (hlast.pitchHook turn).takeChats hturn
    · rw [ChatContext.step, preLlmContext, if_pos]
      · exact hlast
      · rwa [Turn.inChat, not_and_or, not_not] at hturn

lemma ordered_run (h : Ordered q last) {ops : List Op} (hfrom : ∀ t ∈ ops.flatMap Op.times, last ≤ t)
    (hclock : (ops.flatMap Op.times).Pairwise (· ≤ ·)) : ∃ last', Ordered (run isWord q ops) last' := by
  induction ops generalizing q last with
  | nil => exact ⟨last, h⟩
  | cons op ops ih =>
    rw [List.flatMap_cons, List.pairwise_append] at hclock
    have hop : ∀ t ∈ op.times, last ≤ t := fun t ht =>
      hfrom t (by rw [List.flatMap_cons]; exact List.mem_append_left _ ht)
    exact ih (h.step hop) (hclock.2.2 _ op.lastTime_mem) hclock.2.1

/-- The turn takes from the queue what is for it, or leaves it alone. -/
def TakesFrom {α : Type} [DecidableEq α] (fresh : Time → α → Bool) (turn : Turn)
    (b b' : Mailbox α Turn) : Prop :=
  b' = b ∨ ∃ out rest, b' = b.give turn out rest ∧ Takes (fresh turn.now) b.held out rest

/-- How an operation takes: the hook from the flow's queue, `pre_llm_context` from both. -/
def Op.Leaves (q q' : Queues) : Op → Prop
  | .hook turn => TakesFrom Context.fresh turn q.pitches q'.pitches ∧ q'.chats = q.chats
  | .preLlm _ turn later => TakesFrom Context.fresh turn q.pitches q'.pitches ∧
      TakesFrom ChatEntry.fresh { turn with now := later } q.chats q'.chats
  | _ => q'.pitches.given = q.pitches.given ∧ q'.chats.given = q.chats.given

lemma pitchHook_takesFrom (h : Ordered q last) (turn : Turn) :
    TakesFrom Context.fresh turn q.pitches (pitchHook isWord q turn).pitches ∧
      (pitchHook isWord q turn).chats = q.chats := by
  by_cases hturn : turn.inChat
  · obtain ⟨out, rest, heq, htakes, -⟩ := @pitchHook_takes isWord q last h turn hturn
    rw [heq]
    exact ⟨Or.inr ⟨out, rest, rfl, htakes⟩, rfl⟩
  · rw [pitchHook, if_pos]
    · exact ⟨Or.inl rfl, rfl⟩
    · rwa [Turn.inChat, not_and_or, not_not] at hturn

lemma Ordered.leaves (h : Ordered q last) (op : Op) : op.Leaves q (ChatContext.step isWord q op) := by
  cases op with
  | queue now sourceText chat sender text => exact ⟨rfl, rfl⟩
  | queueChat now chat senders text =>
    rw [ChatContext.step]
    split <;> exact ⟨rfl, rfl⟩
  | hook turn => exact pitchHook_takesFrom h turn
  | preLlm attached turn later =>
    rw [ChatContext.step, preLlmContext]
    split_ifs with hskip hattached
    · exact ⟨Or.inl rfl, Or.inl rfl⟩
    · obtain ⟨hpitches, hchats⟩ := @pitchHook_takesFrom isWord q last h turn
      refine ⟨hpitches, Or.inr ⟨_, _, ?_,
        @takeChatContext_takes later q.chats.held turn.caller.chatId turn.caller.userId⟩⟩
      simp only [ChatContext.takeChats, hchats]
    · exact ⟨Or.inl rfl, Or.inr ⟨_, _, rfl,
        @takeChatContext_takes later q.chats.held turn.caller.chatId turn.caller.userId⟩⟩

/-- In every run with a clock that does not go back, an entry of either queue is given once at most,
to a Telegram turn in its chat from a sender it is for, before it expires; and a take leaves every
other entry that has not expired in its order. -/
theorem contexts_delivered {ops : List Op} (hclock : (ops.flatMap Op.times).Pairwise (· ≤ ·)) :
    (run isWord {} ops).pitches.Sound PitchAllowed ∧
      (run isWord {} ops).chats.Sound ChatAllowed ∧
      ∀ before op after, ops = before ++ op :: after →
        op.Leaves (run isWord {} before) (run isWord {} (before ++ [op])) := by
  have hordered : ∀ {ops : List Op}, (ops.flatMap Op.times).Pairwise (· ≤ ·) →
      ∃ last, Ordered (run isWord {} ops) last := by
    intro ops hclock
    cases hops : ops.flatMap Op.times with
    | nil => exact ordered_run (@ordered_empty 0) (by simp [hops]) hclock
    | cons t ts =>
      refine ordered_run (@ordered_empty t) ?_ hclock
      rw [hops] at hclock ⊢
      intro t' ht'
      rcases List.mem_cons.1 ht' with rfl | ht'
      · exact le_refl _
      · exact (List.pairwise_cons.1 hclock).1 t' ht'
  obtain ⟨last, hrun⟩ := hordered hclock
  refine ⟨hrun.pitches, hrun.chats, ?_⟩
  rintro before op after rfl
  rw [List.flatMap_append] at hclock
  obtain ⟨last, hbefore⟩ := hordered (List.pairwise_append.1 hclock).1
  have hstep : run isWord {} (before ++ [op]) = step isWord (run isWord {} before) op := by
    simp [run, List.foldl_append]
  rw [hstep]
  exact hbefore.leaves op

def aliceTurn : Turn :=
  { caller := { platform := "telegram", userId := "7", chatId := "-5" }, userMessage := "long ETH",
    now := 10 }

theorem contexts_delivered_alice :
    (run Char.isAlphanum {} [.queue 1 "long ETH" (-5) (some 7) "pitch", .hook aliceTurn]).pitches.Sound
      PitchAllowed :=
  (contexts_delivered (by
    simp only [List.flatMap_cons, List.flatMap_nil, Op.times, aliceTurn]
    decide)).1

/-- Alice's turn is given the entry that is for it. -/
example : (run Char.isAlphanum {} [.queue 1 "long ETH" (-5) (some 7) "pitch",
    .hook aliceTurn]).pitches.given.map (fun d => d.2.1.text) = ["pitch"] := by
  decide +kernel

end SherwoodMonitor.ChatContext
