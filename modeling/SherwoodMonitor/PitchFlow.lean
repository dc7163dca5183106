import Mathlib.Data.Finset.Card
import Mathlib.Data.Finset.Union
import SherwoodMonitor.Models
import SherwoodMonitor.PitchText

/-! From a pitch to a draft request (`telegram/flow.py`). A handler runs without interruption
between two awaits; what it does there is one function on the flow's state. The agent context that
it queues besides is left to its own module. -/
namespace SherwoodMonitor.PitchFlow
open PyText Models PitchText

/-- `IncomingMessage`, with what `handle` reads of the sender's names. -/
structure Message where
  chatId : ℤ
  messageId : ℤ
  userId : Option ℤ
  text : String
  isBot : Bool := false
  handle : String := ""
  mentionsBot : Bool := false
  replyTo : Option ℤ := none
  replyToIsBot : Bool := false
  isCommand : Bool := false

structure ReactionChange where
  chatId : ℤ
  messageId : ℤ
  userId : Option ℤ
  old : List String := []
  new : List String := []
  userIsBot : Bool := false

/-- `reactionFires` has a pair of message and user for each entry of the sets of the source. -/
structure Pitch where
  chatId : ℤ
  messageId : ℤ
  authorId : ℤ
  authorName : String
  text : String
  createdAt : Time
  riffIds : Finset ℤ := ∅
  reactionFires : Finset (ℤ × ℤ) := ∅
  replyFires : Finset ℤ := ∅
  drafted : Bool := false

/-- `Pitch.fire_users`. -/
def Pitch.fireUsers (p : Pitch) : Finset ℤ :=
  (p.replyFires ∪ p.reactionFires.image Prod.snd).erase p.authorId

/-- The messages that stand for the pitch: its own and the riffs on it. -/
def Pitch.messages (p : Pitch) : Finset ℤ := insert p.messageId p.riffIds

inductive Trigger
  | fire
  | shipIt
  deriving DecidableEq

/-- `DraftRequested`. -/
structure DraftRequested where
  ideaBy : ℤ
  text : String
  sourceMessageId : ℤ
  chatId : ℤ
  trigger : Trigger
  triggeredBy : ℤ
  fireCount : ℕ
  ideaByName : String
  createdAt : Time

structure Config where
  isWord : Char → Bool
  fireThreshold : ℤ := 3
  fireEmoji : String := "🔥"
  pitchTtl : Time := 6 * 3600
  riffWindow : ℤ := 20
  maxPitchesPerChat : ℤ := 20
  /-- What `authorized` answers; an exception is a no. -/
  allow : ℤ → ℤ → Bool

/-- The state of a `PitchFlow`. A pitch is an object that several tables share: `pitches` has every
object made so far, and the tables have its number. -/
structure Flow where
  pitches : List Pitch := []
  opened : ℤ → List ℕ := fun _ => []
  byMsg : ℤ × ℤ → Option ℕ := fun _ => none
  seenHuman : ℤ → List ℤ := fun _ => []
  seenHumanSet : ℤ → Finset ℤ := fun _ => ∅
  cards : ℤ → Finset ℤ := fun _ => ∅

variable (cfg : Config)

/-- `is_pitch`. -/
def isPitch (msg : Message) : Bool :=
  msg.userId.isSome && !msg.isBot && msg.mentionsBot && !msg.isCommand &&
    isTradeIdea cfg.isWord msg.text

/-- `is_fire_reply`. -/
def isFireReply (msg : Message) : Bool := msg.replyTo.isSome && isOnlyFire cfg.fireEmoji msg.text

namespace Flow

variable (f : Flow)

def modify (i : ℕ) (g : Pitch → Pitch) : Flow := { f with pitches := f.pitches.modify i g }

/-- `note_bot_card`. -/
def noteBotCard (chat message : ℤ) : Flow :=
  { f with cards := Function.update f.cards chat (insert message (f.cards chat)) }

/-- `_seen`: the last 1000 messages. -/
def seen (chat message : ℤ) : Flow :=
  let known := f.seenHuman chat
  let full := known.length = 1000
  { f with
    seenHuman := Function.update f.seenHuman chat
      ((if full then known.tail else known) ++ [message])
    seenHumanSet := Function.update f.seenHumanSet chat (insert message
      (match known with
        | oldest :: _ => if full then (f.seenHumanSet chat).erase oldest else f.seenHumanSet chat
        | [] => f.seenHumanSet chat)) }

/-- `keep[-n:]`. -/
def lastOnes (n : ℤ) (keep : List ℕ) : List ℕ :=
  if 0 < n then keep.drop (keep.length - n.toNat) else keep.drop (-n).toNat

/-- The pitches of a chat that `_prune` keeps. -/
def kept (now : Time) (chat : ℤ) : List ℕ :=
  lastOnes cfg.maxPitchesPerChat ((f.opened chat).filter fun i =>
    (f.pitches[i]?).any fun p => now - p.createdAt ≤ cfg.pitchTtl)

/-- A message that stands for one of these pitches. -/
def standsFor (dropped : List ℕ) (message : ℤ) : Bool :=
  dropped.any fun i => (f.pitches[i]?).any fun p => message ∈ p.messages

/-- `_prune`. -/
def prune (now : Time) (chat : ℤ) : Flow :=
  let keep := f.kept cfg now chat
  let dropped := (f.opened chat).filter (· ∉ keep)
  { f with
    byMsg := fun key =>
      if key.1 = chat ∧ f.standsFor dropped key.2 = true then none else f.byMsg key
    opened := Function.update f.opened chat keep }

/-- The message becomes a riff on the pitch. -/
def linkRiff (chat : ℤ) (i : ℕ) (target : ℤ) : Flow :=
  { f.modify i (fun p => { p with riffIds := insert target p.riffIds }) with
    byMsg := Function.update f.byMsg (chat, target) (some i) }

/-- The latest open pitch with the message close behind it. -/
def pitchBefore (chat target : ℤ) : Option ℕ :=
  (f.opened chat).reverse.find? fun i => (f.pitches[i]?).any fun p =>
    p.messageId < target ∧ target ≤ p.messageId + cfg.riffWindow

/-- `_pitch_for_target`. -/
def pitchForTarget (now : Time) (chat target : ℤ) (targetIsBot : Bool) : Option ℕ × Flow :=
  match f.byMsg (chat, target) with
  | some i => (some i, f)
  | none =>
      if target ∈ f.cards chat then (none, f)
      else if targetIsBot = false ∧ target ∈ f.seenHumanSet chat then (none, f)
      else
        let f := f.prune cfg now chat
        match f.pitchBefore cfg chat target with
        | some i => (some i, f.linkRiff chat i target)
        | none => (none, f)

/-- A new pitch at the end of the list of its chat. -/
def register (now : Time) (msg : Message) (author : ℤ) : Flow :=
  let p : Pitch :=
    { chatId := msg.chatId, messageId := msg.messageId, authorId := author,
      authorName := msg.handle, text := msg.text, createdAt := now }
  let i := f.pitches.length
  let f : Flow :=
    { f with
      pitches := f.pitches ++ [p]
      opened := Function.update f.opened msg.chatId (f.opened msg.chatId ++ [i])
      byMsg := Function.update f.byMsg (msg.chatId, msg.messageId) (some i) }
  f.prune cfg now msg.chatId

/-- `_emit`, up to the call of `on_draft_requested`. -/
def emit (i : ℕ) (p : Pitch) (trigger : Trigger) (by_ : ℤ) (now : Time) : DraftRequested × Flow :=
  ({ ideaBy := p.authorId, text := p.text, sourceMessageId := p.messageId, chatId := p.chatId,
     trigger, triggeredBy := by_, fireCount := p.fireUsers.card, ideaByName := p.authorName,
     createdAt := now },
   f.modify i fun p => { p with drafted := true })

end Flow

/-- How a handler goes on: it is done, it asks for the host of the chat, or it has set a pitch to
drafted and calls `on_draft_requested`. -/
inductive Next
  | done
  | askHost
  | draft (i : ℕ) (event : DraftRequested)

/-- `_maybe_trigger` on a pitch that has just got a fire. -/
def maybeTrigger (f : Flow) (i : ℕ) (by_ : ℤ) (now : Time) : Next × Flow :=
  match f.pitches[i]? with
  | none => (.done, f)
  | some p =>
      if p.drafted = true ∨ (p.fireUsers.card : ℤ) < cfg.fireThreshold then (.done, f)
      else
        let (event, f) := f.emit i p .fire by_ now
        (.draft i event, f)

/-- The flow once a message of an allowed sender is noted. -/
def entered (f : Flow) (msg : Message) (now : Time) : Flow :=
  let f := (f.seen msg.chatId msg.messageId).prune cfg now msg.chatId
  match msg.replyTo with
  | some target =>
      if msg.replyToIsBot then (f.pitchForTarget cfg now msg.chatId target true).2 else f
  | none => f

/-- A reply of nothing but fire. -/
def fireReply (f : Flow) (msg : Message) (user : ℤ) (now : Time) : Next × Flow :=
  match msg.replyTo with
  | none => (.done, f)
  | some target =>
      let (found, f) := f.pitchForTarget cfg now msg.chatId target msg.replyToIsBot
      match found with
      | none => (.done, f)
      | some i =>
          if (f.pitches[i]?).any (·.drafted) then (.done, f)
          else
            maybeTrigger cfg
              (f.modify i fun p => { p with replyFires := insert user p.replyFires }) i user now

/-- `on_message`, once the sender is allowed, up to the next await. -/
def onMessage (f : Flow) (msg : Message) (user : ℤ) (now : Time) : Next × Flow :=
  let f := entered cfg f msg now
  if isFireReply cfg msg then fireReply cfg f msg user now
  else if isShipIt cfg.isWord msg.text then (.askHost, f)
  else if isPitch cfg msg then (.done, f.register cfg now msg user)
  else (.done, f)

/-- The open undrafted pitches that a text names. -/
def namedPitches (f : Flow) (chat : ℤ) (text : String) : List ℕ :=
  (f.opened chat).filter fun i => (f.pitches[i]?).any fun p =>
    !p.drafted && namesPitch cfg.isWord text p.text p.authorName

/-- The pitch that a "ship it" is about. -/
def shipTarget (f : Flow) (msg : Message) (now : Time) : Option ℕ × Flow :=
  let (found, f) :=
    match msg.replyTo with
    | some target => f.pitchForTarget cfg now msg.chatId target msg.replyToIsBot
    | none => (none, f)
  match found with
  | some i => (some i, f)
  | none =>
      let f := f.prune cfg now msg.chatId
      match namedPitches cfg f msg.chatId msg.text with
      | [i] => (some i, f)
      | _ => (none, f)

/-- `on_message` with a "ship it", once the host of the chat is known, up to the next await. -/
def onHost (f : Flow) (msg : Message) (user : ℤ) (host : Option ℤ) (now : Time) : Next × Flow :=
  if host ≠ some user then (.done, f)
  else
    let (found, f) := shipTarget cfg f msg now
    match found with
    | none => (.done, f)
    | some i =>
        match f.pitches[i]? with
        | none => (.done, f)
        | some p =>
            if p.drafted then (.done, f)
            else
              let (event, f) := f.emit i p .shipIt user now
              (.draft i event, f)

/-- Whether the user had the fire before the change, and whether they have it now. -/
def ReactionChange.had (c : ReactionChange) : Bool := c.old.contains cfg.fireEmoji
def ReactionChange.has (c : ReactionChange) : Bool := c.new.contains cfg.fireEmoji

/-- `on_reaction`, once the user is allowed, up to the next await. -/
def onReaction (f : Flow) (c : ReactionChange) (user : ℤ) (now : Time) : Next × Flow :=
  if c.had cfg = c.has cfg then (.done, f)
  else
    let (found, f) := f.pitchForTarget cfg now c.chatId c.messageId false
    match found with
    | none => (.done, f)
    | some i =>
        if c.has cfg then
          let f := f.modify i fun p =>
            { p with reactionFires := insert (c.messageId, user) p.reactionFires }
          if (f.pitches[i]?).any (·.drafted) then (.done, f) else maybeTrigger cfg f i user now
        else
          (.done, f.modify i fun p =>
            { p with reactionFires := p.reactionFires.erase (c.messageId, user) })

/-- The last part of `_emit`: where the callback raised, the next fire may retry. -/
def draftEnded (f : Flow) (i : ℕ) (raised : Bool) : Flow :=
  if raised then f.modify i fun p => { p with drafted := false } else f

end SherwoodMonitor.PitchFlow
