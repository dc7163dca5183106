import Mathlib.Logic.Function.Basic
import SherwoodMonitor.Library.PyText

/-! Posting and editing live cards (`telegram/cards_live.py`). Calls of the Bot API are applied by
Telegram and answered to the bot in steps of their own, so that any number of them is in flight. -/
namespace SherwoodMonitor.LiveEdits
open PyText

/-! ### The program -/

def captionLimit : ℕ := 1024
def textLimit : ℕ := 4096

def clip (text : String) (limit : ℕ) : String :=
  if text.length ≤ limit then text else take text (limit - 1) ++ "…"

/-- What a fingerprint is taken of: a text before it is clipped, a keyboard and an image. -/
structure Card (Markup : Type) where
  text : String
  markup : Option Markup
  image : Option String
  deriving DecidableEq

/-- A message as the chat shows it. -/
structure Shown (Markup : Type) where
  text : String
  markup : Option Markup
  image : Option String
  deriving DecidableEq

structure CardRef where
  chatId : ℤ
  messageId : ℤ
  imageUrl : Option String

abbrev Key := ℤ × ℤ

def CardRef.key (ref : CardRef) : Key := (ref.chatId, ref.messageId)

inductive Call (Markup : Type)
  | sendPhoto (photo caption : String) (markup : Option Markup)
  | sendMessage (text : String) (markup : Option Markup)
  | editMessageMedia (media caption : String) (markup : Option Markup)
  | editMessageCaption (caption : String) (markup : Option Markup)
  | editMessageText (text : String) (markup : Option Markup)

variable {Markup : Type}

/-- `if image:`. -/
def given (image : Option String) : Option String := image.filter (· ≠ "")

def postCall (card : Card Markup) : Call Markup :=
  match given card.image with
  | some image => .sendPhoto image (clip card.text captionLimit) card.markup
  | none => .sendMessage (clip card.text textLimit) card.markup

/-- The arguments of `LiveCards.edit`. -/
structure Edit (Markup : Type) where
  ref : CardRef
  text : String
  markup : Option Markup
  imageUrl : Option String := none

namespace Edit

variable (e : Edit Markup)

/-- The image is the ref's where none is given. -/
def card : Card Markup := ⟨e.text, e.markup, e.imageUrl.or e.ref.imageUrl⟩

def call : Call Markup :=
  match given e.card.image with
  | some image =>
      if some image ≠ e.ref.imageUrl then
        .editMessageMedia image (clip e.text captionLimit) e.markup
      else .editMessageCaption (clip e.text captionLimit) e.markup
  | none => .editMessageText (clip e.text textLimit) e.markup

end Edit

/-! ### Telegram -/

/-- What a call makes of a message, or of none; `none` where it cannot be applied. A caption is one of
an image, and the text of a message without one is edited as a text. -/
def Call.on : Call Markup → Option (Shown Markup) → Option (Shown Markup)
  | .sendPhoto photo caption markup, none => some ⟨caption, markup, some photo⟩
  | .sendMessage text markup, none => some ⟨text, markup, none⟩
  | .editMessageMedia media caption markup, some _ => some ⟨caption, markup, some media⟩
  | .editMessageCaption caption markup, some shown =>
      if shown.image.isSome then some ⟨caption, markup, shown.image⟩ else none
  | .editMessageText text markup, some shown =>
      if shown.image.isNone then some ⟨text, markup, none⟩ else none
  | _, _ => none

/-- What Telegram has done with a call: it may change the message, find that it would change nothing,
or refuse it. -/
inductive Stage
  | pending
  | applied
  | unmodified
  | refused

/-- A call: the message that it is about, as far as there is one yet, the card that is recorded when
it succeeds, what Telegram has done with it, and whether the bot has stopped waiting for it. -/
structure Flight (Markup : Type) where
  chatId : ℤ
  messageId : Option ℤ
  card : Card Markup
  call : Call Markup
  stage : Stage := .pending
  answered : Bool := false

def Flight.key (f : Flight Markup) : Option Key :=
  f.messageId.map fun messageId => (f.chatId, messageId)

/-- How a call ends for the bot. `lost` is any other Telegram error, such as a timeout. -/
inductive Outcome
  | success
  | notModified
  | gone
  | badRequest
  | retryAfter
  | lost

/-- `_last`, what the chats show, and the calls under numbers of their own; and for each message the
call that made it what it is and the call that was recorded last. -/
structure World (Markup : Type) where
  last : Key → Option (Card Markup)
  chat : Key → Option (Shown Markup)
  flights : ℕ → Option (Flight Markup)
  shownBy : Key → Option ℕ
  recordedBy : Key → Option ℕ

/-- What Telegram can answer. Of a call whose answer is lost it may have done anything, or do it
later. -/
def Flight.Ends (f : Flight Markup) : Outcome → Prop
  | .success => f.stage = .applied
  | .notModified => f.stage = .unmodified
  | .gone => f.stage = .refused
  | .badRequest => f.stage = .refused
  | .retryAfter => f.stage = .refused
  | .lost => True

namespace World

variable (w : World Markup)

def setFlight (i : ℕ) (f : Flight Markup) : World Markup :=
  { w with flights := Function.update w.flights i (some f) }

/-- The message is from now on what this call made of it. -/
def display (key : Key) (i : ℕ) (shown : Shown Markup) : World Markup :=
  { w with
    chat := Function.update w.chat key (some shown)
    shownBy := Function.update w.shownBy key (some i) }

def recordCard (key : Key) (i : ℕ) (card : Card Markup) : World Markup :=
  { w with
    last := Function.update w.last key (some card)
    recordedBy := Function.update w.recordedBy key (some i) }

/-- `self._last.pop(key, None)`. -/
def drop (key : Key) : World Markup := { w with last := Function.update w.last key none }

/-- What the bot records at the end of a call. -/
def record (i : ℕ) (f : Flight Markup) (outcome : Outcome) : World Markup :=
  match f.key, outcome with
  | some key, .success => w.recordCard key i f.card
  | some key, .notModified => w.recordCard key i f.card
  | some key, .gone => w.drop key
  | _, _ => w

end World

inductive Move (Markup : Type)
  | post (i : ℕ) (chatId : ℤ) (card : Card Markup)
  | edit (i : ℕ) (e : Edit Markup)
  | apply (i : ℕ) (messageId : ℤ)
  | unmodified (i : ℕ)
  | refuse (i : ℕ)
  | answer (i : ℕ) (outcome : Outcome)
  | forget (ref : CardRef)

/-- An edit whose card is the one recorded is skipped. -/
def Skips (w : World Markup) (e : Edit Markup) : Prop := w.last e.ref.key = some e.card

/-- One step of the bot or of Telegram. -/
inductive Step (w : World Markup) : Move Markup → World Markup → Prop
  | post {i : ℕ} {chatId : ℤ} {card : Card Markup} (free : w.flights i = none) :
      Step w (.post i chatId card)
        (w.setFlight i { chatId, messageId := none, card, call := postCall card })
  | skip {i : ℕ} {e : Edit Markup} (same : Skips w e) : Step w (.edit i e) w
  | edit {i : ℕ} {e : Edit Markup} (free : w.flights i = none) (other : ¬Skips w e) :
      Step w (.edit i e)
        (w.setFlight i
          { chatId := e.ref.chatId, messageId := some e.ref.messageId, card := e.card,
            call := e.call })
  | applyPost {i : ℕ} {messageId : ℤ} {f : Flight Markup} {shown : Shown Markup}
      (flying : w.flights i = some f) (pending : f.stage = .pending) (unsent : f.messageId = none)
      (fresh : w.chat (f.chatId, messageId) = none) (effect : f.call.on none = some shown) :
      Step w (.apply i messageId)
        ((w.display (f.chatId, messageId) i shown).setFlight i
          { f with messageId := some messageId, stage := .applied })
  | applyEdit {i : ℕ} {messageId : ℤ} {f : Flight Markup} {shown : Shown Markup}
      (flying : w.flights i = some f) (pending : f.stage = .pending)
      (sent : f.messageId = some messageId)
      (effect : f.call.on (w.chat (f.chatId, messageId)) = some shown) :
      Step w (.apply i messageId)
        ((w.display (f.chatId, messageId) i shown).setFlight i { f with stage := .applied })
  | unmodified {i : ℕ} {key : Key} {f : Flight Markup} {shown : Shown Markup}
      (flying : w.flights i = some f) (pending : f.stage = .pending) (sent : f.key = some key)
      (message : w.chat key = some shown) (same : f.call.on (some shown) = some shown) :
      Step w (.unmodified i)
        ((w.display key i shown).setFlight i { f with stage := .unmodified })
  | refuse {i : ℕ} {f : Flight Markup} (flying : w.flights i = some f)
      (pending : f.stage = .pending) :
      Step w (.refuse i) (w.setFlight i { f with stage := .refused })
  | answer {i : ℕ} {outcome : Outcome} {f : Flight Markup} (flying : w.flights i = some f)
      (waiting : f.answered = false) (ends : f.Ends outcome) :
      Step w (.answer i outcome) ((w.record i f outcome).setFlight i { f with answered := true })
  | forget {ref : CardRef} : Step w (.forget ref) (w.drop ref.key)

/-- The bot has just started: nothing is recorded or in flight, and the chats show what they show. -/
def started (chat : Key → Option (Shown Markup)) : World Markup :=
  ⟨fun _ => none, chat, fun _ => none, fun _ => none, fun _ => none⟩

inductive Run : World Markup → List (Move Markup × World Markup) → Prop
  | nil {w : World Markup} : Run w []
  | cons {w w' : World Markup} {move : Move Markup} {rest : List (Move Markup × World Markup)}
      (step : Step w move w') (run : Run w' rest) : Run w ((move, w') :: rest)

/-- This holds of every world of a run and the move that is made in it. -/
def Along (P : World Markup → Move Markup → Prop) :
    World Markup → List (Move Markup × World Markup) → Prop
  | _, [] => True
  | w, (move, w') :: rest => P w move ∧ Along P w' rest

/-! ### What the bot knows -/

/-- The message that a card is to be. -/
def shownAs (card : Card Markup) : Shown Markup :=
  match given card.image with
  | some image => ⟨clip card.text captionLimit, card.markup, some image⟩
  | none => ⟨clip card.text textLimit, card.markup, none⟩

/-- An edit is skipped only when the chat shows its card. -/
def SkipsSafely (w : World Markup) : Move Markup → Prop
  | .edit _ e => Skips w e → w.chat e.ref.key = some (shownAs e.card)
  | _ => True

/-- A call that sends only a caption finds no other image in the message than that of its card. -/
def CaptionFits (w : World Markup) (f : Flight Markup) : Prop :=
  ∀ caption markup key shown other, f.call = .editMessageCaption caption markup →
    f.key = some key → w.chat key = some shown → shown.image = some other →
      given f.card.image = some other

/-- An edit is skipped only when the call that was recorded last is the one that made the message what
it is; and captions are sent to messages with their image. -/
def Fine (w : World Markup) : Move Markup → Prop
  | .edit _ e => Skips w e → w.shownBy e.ref.key = w.recordedBy e.ref.key
  | .apply i _ => ∀ f, w.flights i = some f → CaptionFits w f
  | .unmodified i => ∀ f, w.flights i = some f → CaptionFits w f
  | _ => True

/-- What a call makes of a message is its card, if it is about its image. -/
def Makes (call : Call Markup) (card : Card Markup) : Prop :=
  ∀ message shown,
    (∀ caption markup old other, call = .editMessageCaption caption markup → message = some old →
      old.image = some other → given card.image = some other) →
    call.on message = some shown → shown = shownAs card

lemma makes_postCall (card : Card Markup) : Makes (postCall card) card := by
  intro message shown _ h
  rw [postCall] at h
  rw [shownAs]
  cases message with
  | none => cases hgiven : given card.image <;> rw [hgiven] at h <;> exact (Option.some.inj h).symm
  | some old => cases hgiven : given card.image <;> rw [hgiven] at h <;> exact (nomatch h)

lemma makes_edit (e : Edit Markup) : Makes e.call e.card := by
  intro message shown hfits h
  rw [Edit.call] at h hfits
  rw [shownAs]
  cases hgiven : given e.card.image with
  | none =>
    rw [hgiven] at h
    cases message with
    | none => exact nomatch h
    | some old =>
      simp only [Call.on] at h
      split_ifs at h
      exact (Option.some.inj h).symm
  | some image =>
    rw [hgiven] at h hfits
    dsimp only at h hfits
    split_ifs at h hfits with hother
    · cases message with
      | none => exact nomatch h
      | some old => exact (Option.some.inj h).symm
    · cases message with
      | none => exact nomatch h
      | some old =>
        -- only the caption is sent, and the image of the message is kept
        simp only [Call.on] at h
        split_ifs at h with hsome
        obtain ⟨other, hold⟩ := Option.isSome_iff_exists.1 hsome
        have himage := hfits _ _ old other rfl rfl hold
        rw [← Option.some.inj h, hold, himage]
        rfl

/-- A message that a call has made what it is shows the card of the call, and what is recorded is
the card of the call that was recorded last. -/
structure Sound (w : World Markup) : Prop where
  calls : ∀ i f, w.flights i = some f → Makes f.call f.card
  shown : ∀ key i, w.shownBy key = some i →
    ∃ f, w.flights i = some f ∧ w.chat key = some (shownAs f.card)
  recorded : ∀ key card, w.last key = some card →
    ∃ i f, w.recordedBy key = some i ∧ w.flights i = some f ∧ f.card = card

lemma sound_started (chat : Key → Option (Shown Markup)) : Sound (started chat) where
  calls _ _ h := (nomatch h)
  shown _ _ h := (nomatch h)
  recorded _ _ h := (nomatch h)

variable {w w' : World Markup} {i : ℕ} {f g : Flight Markup} {key : Key}

/-- A call begins or goes on, with its card. -/
lemma Sound.setFlight (hw : Sound w) (hmakes : Makes g.call g.card)
    (hcard : ∀ f, w.flights i = some f → f.card = g.card) : Sound (w.setFlight i g) := by
  have hkeeps : ∀ {j f}, w.flights j = some f →
      ∃ f', (w.setFlight i g).flights j = some f' ∧ f'.card = f.card := by
    intro j f hf
    by_cases hj : j = i
    · subst hj
      exact ⟨g, Function.update_self j _ _, (hcard f hf).symm⟩
    · exact ⟨f, (Function.update_of_ne hj _ _).trans hf, rfl⟩
  refine ⟨fun j f hf => ?_, fun key j hj => ?_, fun key card hcard => ?_⟩
  · by_cases hj : j = i
    · subst hj
      obtain rfl := Option.some.inj ((Function.update_self j _ _).symm.trans hf)
      exact hmakes
    · exact hw.calls j f ((Function.update_of_ne hj _ _).symm.trans hf)
  · obtain ⟨f, hf, hshown⟩ := hw.shown key j hj
    obtain ⟨f', hf', hsame⟩ := hkeeps hf
    exact ⟨f', hf', hsame ▸ hshown⟩
  · obtain ⟨j, f, hj, hf, rfl⟩ := hw.recorded key card hcard
    obtain ⟨f', hf', hsame⟩ := hkeeps hf
    exact ⟨j, f', hj, hf', hsame⟩

lemma Sound.goesOn (hw : Sound w) (hf : w.flights i = some f) (hcard : g.card = f.card)
    (hcall : g.call = f.call) : Sound (w.setFlight i g) := by
  refine hw.setFlight ?_ fun f' hf' => ?_
  · rw [hcall, hcard]
    exact hw.calls i f hf
  · rw [Option.some.inj (hf'.symm.trans hf), hcard]

/-- The message is made what the card of a call is. -/
lemma Sound.display (hw : Sound w) (hf : w.flights i = some f) :
    Sound (w.display key i (shownAs f.card)) := by
  refine ⟨hw.calls, fun key' j hj => ?_, hw.recorded⟩
  by_cases hkey : key' = key
  · subst hkey
    obtain rfl := Option.some.inj ((Function.update_self key' _ _).symm.trans hj)
    exact ⟨f, hf, Function.update_self key' _ _⟩
  · obtain ⟨f', hf', hshown⟩ := hw.shown key' j ((Function.update_of_ne hkey _ _).symm.trans hj)
    exact ⟨f', hf', (Function.update_of_ne hkey _ _).trans hshown⟩

lemma Sound.recordCard (hw : Sound w) (hf : w.flights i = some f) :
    Sound (w.recordCard key i f.card) := by
  refine ⟨hw.calls, hw.shown, fun key' card hcard => ?_⟩
  by_cases hkey : key' = key
  · subst hkey
    obtain rfl := Option.some.inj ((Function.update_self key' _ _).symm.trans hcard)
    exact ⟨i, f, Function.update_self key' _ _, hf, rfl⟩
  · obtain ⟨j, f', hj, hf', rfl⟩ :=
      hw.recorded key' card ((Function.update_of_ne hkey _ _).symm.trans hcard)
    exact ⟨j, f', (Function.update_of_ne hkey _ _).trans hj, hf', rfl⟩

lemma Sound.drop (hw : Sound w) : Sound (w.drop key) := by
  refine ⟨hw.calls, hw.shown, fun key' card hcard => ?_⟩
  by_cases hkey : key' = key
  · subst hkey
    exact nomatch (Function.update_self key' _ _).symm.trans hcard
  · exact hw.recorded key' card ((Function.update_of_ne hkey _ _).symm.trans hcard)

lemma Sound.record (hw : Sound w) (hf : w.flights i = some f) (outcome : Outcome) :
    Sound (w.record i f outcome) ∧ (w.record i f outcome).flights = w.flights := by
  rw [World.record.eq_def]
  cases f.key with
  | none => exact ⟨hw, rfl⟩
  | some key =>
    cases outcome with
    | success => exact ⟨hw.recordCard hf, rfl⟩
    | notModified => exact ⟨hw.recordCard hf, rfl⟩
    | gone => exact ⟨hw.drop, rfl⟩
    | _ => exact ⟨hw, rfl⟩

/-- What Telegram makes of the message of a call in flight. -/
lemma Sound.effect {shown : Shown Markup} (hw : Sound w) (hf : w.flights i = some f)
    (hfits : CaptionFits w f) (heffect : f.call.on (f.key.bind w.chat) = some shown) :
    shown = shownAs f.card := by
  refine hw.calls i f hf _ shown (fun caption markup old other hcall hold himage => ?_) heffect
  cases hkey : f.key with
  | none =>
    rw [hkey] at hold
    exact nomatch hold
  | some key =>
    rw [hkey] at hold
    exact hfits caption markup key old other hcall hkey hold himage

/-- One step. -/
lemma Sound.step {move : Move Markup} (hw : Sound w) (hfine : Fine w move)
    (hstep : Step w move w') : Sound w' := by
  cases hstep with
  | post free =>
    refine hw.setFlight (makes_postCall _) fun f hf => ?_
    rw [free] at hf
    exact nomatch hf
  | skip => exact hw
  | edit free =>
    refine hw.setFlight (makes_edit _) fun f hf => ?_
    rw [free] at hf
    exact nomatch hf
  | applyPost flying _ unsent _ effect =>
    have hmade := hw.effect flying (hfine _ flying) (by rwa [Flight.key, unsent])
    rw [hmade]
    exact (hw.display flying).goesOn flying rfl rfl
  | applyEdit flying _ sent effect =>
    have hmade := hw.effect flying (hfine _ flying) (by rwa [Flight.key, sent])
    rw [hmade]
    exact (hw.display flying).goesOn flying rfl rfl
  | unmodified flying _ sent message same =>
    have hmade := hw.effect flying (hfine _ flying) (by rwa [sent, Option.bind_some, message])
    rw [hmade]
    exact (hw.display flying).goesOn flying rfl rfl
  | refuse flying _ => exact hw.goesOn flying rfl rfl
  | @answer _ outcome _ flying _ _ =>
    obtain ⟨hrecorded, hflights⟩ := hw.record flying outcome
    have hkept := (congrFun hflights _).trans flying
    exact hrecorded.goesOn hkept rfl rfl
  | forget => exact hw.drop

/-- An edit is skipped safely where the call recorded last is the one that is shown. -/
lemma Sound.skipsSafely {move : Move Markup} (hw : Sound w) (hfine : Fine w move) :
    SkipsSafely w move := by
  cases move with
  | edit _ e =>
    intro hskip
    obtain ⟨i, f, hrecorded, hf, hcard⟩ := hw.recorded e.ref.key e.card hskip
    obtain ⟨f', hf', hshown⟩ := hw.shown e.ref.key i ((hfine hskip).trans hrecorded)
    obtain rfl := Option.some.inj (hf.symm.trans hf')
    rwa [hcard] at hshown
  | _ => trivial

lemma Sound.run {run : List (Move Markup × World Markup)} (hw : Sound w) (hrun : Run w run)
    (hfine : Along Fine w run) : Along SkipsSafely w run := by
  induction hrun with
  | nil => trivial
  | cons step _ ih => exact ⟨hw.skipsSafely hfine.1, ih (hw.step hfine.1 step) hfine.2⟩

def voting : Card Unit := ⟨"voting", none, none⟩
def closed : Card Unit := ⟨"closed", none, none⟩

/-- An edit of the card that the bot posted. -/
def editTo (card : Card Unit) : Edit Unit := ⟨⟨-7, 1, none⟩, card.text, card.markup, none⟩

def noChats : Key → Option (Shown Unit) := fun _ => none

end SherwoodMonitor.LiveEdits
