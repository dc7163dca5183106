import Mathlib.Logic.Function.Basic
import SherwoodMonitor.CallRuns
import SherwoodMonitor.DisplayedIds
import SherwoodMonitor.Library.Table

/-! The cards of proposals (`fund/telegram.py`, `telegram/cards_live.py`): `_sync_card` decides on
the stored record, under a lock, whether it posts a card or edits the one there is. Any operation
of the service may run between its steps, and the write of a message id may fail. -/
namespace SherwoodMonitor.CardLane
open PyText PyNumber Lookup Models Rules Service Calls Effects AtomicStore Table DisplayedIds

/-! ### The lane -/

/-- The key of a lock: the fund as the event names it, and the proposal's local id. -/
abbrev Lane := String × String

/-- A card in the chat, and whether its message id was stored with the proposal. -/
structure Post where
  lane : Lane
  recorded : Bool := false

/-- Where a task of `_sync_card` waits. A post is named by its place. -/
inductive Phase
  | waiting (lane : Lane)
  | refreshing (lane : Lane) (proposalId : String)
  | posting (lane : Lane) (proposalId : String)
  | writing (lane : Lane) (proposalId : String) (message : ℤ) (post : ℕ)

/-- The lane of the lock that a task holds. -/
def Phase.holds : Phase → Option Lane
  | waiting _ => none
  | refreshing lane _ => some lane
  | posting lane _ => some lane
  | writing lane _ _ _ => some lane

structure World where
  state : FundState
  locks : Lane → Option ℕ := fun _ => none
  tasks : ℕ → Option Phase := fun _ => none
  posts : List Post := []

/-- How the send of a card ends: there is no card, the card is in the chat but its id is not known,
or its id is known. -/
inductive Sent
  | nothing
  | lost
  | known (message : ℤ)

/-- An operation of the service; the lane alone calls `set_card_message`. -/
structure ServiceOp where
  op : Op
  other : ∀ pid message, op.update ≠ .act (.setCardMessage pid message)

inductive Move
  | event (task : ℕ) (lane : Lane)
  /-- The task takes the lock, loads the fund and goes on up to its next wait. -/
  | acquire (task : ℕ) (loads : Bool)
  | sent (task : ℕ) (outcome : Sent)
  /-- `set_card_message`, unless it does not reach the fund's file. -/
  | write (task : ℕ) (clock : Option Clock)
  | refreshed (task : ℕ)
  | cancel (task : ℕ)
  | service (op : ServiceOp)

/-- The record under a local id has a card. -/
def hasCard (s : FundState) (localId : String) : Bool :=
  (locate (fun p => p.id = strip localId) s.proposals).any fun r => r.2.cardMessageId ≠ ""

namespace World

variable (w : World)

def setTask (k : ℕ) (phase : Option Phase) : World :=
  { w with tasks := Function.update w.tasks k phase }

def setLock (lane : Lane) (holder : Option ℕ) : World :=
  { w with locks := Function.update w.locks lane holder }

/-- What `_sync_card` does next, once it has the lock. -/
def phaseFor (lane : Lane) : Option Phase :=
  match w.state.proposal lane.2 with
  | .ok (some (_, rec)) =>
      if rec.cardMessageId ≠ "" then some (.refreshing lane (displayId rec))
      else if rec.status ∈ [Status.proposed, Status.voting] then some (.posting lane (displayId rec))
      else none
  | _ => none

/-- The task ends and leaves its lock. -/
def finish (k : ℕ) (phase : Phase) : World :=
  match phase.holds with
  | some lane => (w.setTask k none).setLock lane none
  | none => w.setTask k none

def event (k : ℕ) (lane : Lane) : World :=
  if w.tasks k = none then w.setTask k (some (.waiting lane)) else w

def acquire (k : ℕ) (loads : Bool) : World :=
  match w.tasks k with
  | some (.waiting lane) =>
      if w.locks lane = none then
        match if loads then w.phaseFor lane else none with
        | some phase => (w.setTask k (some phase)).setLock lane (some k)
        | none => w.setTask k none
      else w
  | _ => w

def addPost (lane : Lane) : World := { w with posts := w.posts ++ [{ lane }] }

def sent (k : ℕ) (outcome : Sent) : World :=
  match w.tasks k with
  | some (.posting lane pid) =>
      match outcome with
      | .nothing => w.finish k (.posting lane pid)
      | .lost => (w.finish k (.posting lane pid)).addPost lane
      | .known message =>
          (w.addPost lane).setTask k (some (.writing lane pid message w.posts.length))
  | _ => w

def cardWrite (pid : String) (message : ℤ) (clock : Clock) : Op :=
  ⟨.act (.setCardMessage pid (toString message)), clock⟩

/-- The write of the id of a post. -/
def record (lane : Lane) (pid : String) (message : ℤ) (post : ℕ) (clock : Clock) : World :=
  match (cardWrite pid message clock).exec w.state with
  | .ok (_, state) =>
      { w with
        state
        posts := w.posts.modify post fun p => { p with recorded := hasCard state lane.2 } }
  | .error _ => w

def write (k : ℕ) (clock : Option Clock) : World :=
  match w.tasks k with
  | some (.writing lane pid message post) =>
      match clock with
      | some clock =>
          (w.finish k (.writing lane pid message post)).record lane pid message post clock
      | none => w.finish k (.writing lane pid message post)
  | _ => w

def refreshed (k : ℕ) : World :=
  match w.tasks k with
  | some (.refreshing lane pid) => w.finish k (.refreshing lane pid)
  | _ => w

def cancel (k : ℕ) : World :=
  match w.tasks k with
  | some phase => w.finish k phase
  | none => w

def step : Move → World
  | .event k lane => w.event k lane
  | .acquire k loads => w.acquire k loads
  | .sent k outcome => w.sent k outcome
  | .write k clock => w.write k clock
  | .refreshed k => w.refreshed k
  | .cancel k => w.cancel k
  | .service op => { w with state := fundStore.next op.op w.state }

def run (moves : List Move) : World := moves.foldl step w

end World

/-! ### Cards that stay -/

/-- The records keep their places and ids, and one that has a card keeps a card. -/
def CardsKept (s s' : FundState) : Prop :=
  ∀ (i : ℕ) (r : ProposalRecord), s.proposals[i]? = some r → ∃ r' : ProposalRecord,
    s'.proposals[i]? = some r' ∧ r'.id = r.id ∧ (r.cardMessageId ≠ "" → r'.cardMessageId ≠ "")

variable {s s' s'' : FundState} {now : Time}

lemma CardsKept.of_eq (h : s'.proposals = s.proposals) : CardsKept s s' := by
  intro i r hr
  exact ⟨r, by rw [h]; exact hr, rfl, id⟩

lemma CardsKept.of_set {pid : String} {i : ℕ} {old r : ProposalRecord}
    (hfind : s.proposal pid = .ok (some (i, old))) (hs : s'.proposals = s.proposals.set i r)
    (hid : r.id = old.id) (hcard : old.cardMessageId ≠ "" → r.cardMessageId ≠ "") :
    CardsKept s s' := by
  have hold := FundState.proposal_getElem? hfind
  intro j p hp
  by_cases hj : j = i
  · subst hj
    obtain rfl : old = p := Option.some.inj (hold.symm.trans hp)
    exact ⟨r, by rw [hs]; exact set_self hold, hid, hcard⟩
  · exact ⟨p, by rw [hs]; exact set_other hj hp, rfl, id⟩

lemma CardsKept.of_map {f : ProposalRecord → ProposalRecord}
    (hs : s'.proposals = s.proposals.map f) (hid : ∀ r, (f r).id = r.id)
    (hcard : ∀ r, (f r).cardMessageId = r.cardMessageId) : CardsKept s s' := by
  intro i r hr
  refine ⟨f r, by simp [hs, hr], hid r, fun h => ?_⟩
  rwa [hcard]

lemma CardsKept.of_append {records : List ProposalRecord}
    (hs : s'.proposals = s.proposals ++ records) : CardsKept s s' := by
  intro i r hr
  obtain ⟨hlt, -⟩ := List.getElem?_eq_some_iff.1 hr
  exact ⟨r, by rw [hs, List.getElem?_append_left hlt]; exact hr, rfl, id⟩

/-- An operation that writes a message id writes one that is not empty. -/
def WritesCard (a : Act) : Prop := ∀ pid message, a = .setCardMessage pid message → message ≠ ""

lemma cardMessageId_movedRecord (fund : Fund) (old : ProposalRecord) (status : Status)
    (note : StatusNote) (h : old.cardMessageId ≠ "") :
    (movedRecord fund old status note now).cardMessageId ≠ "" := by
  unfold movedRecord
  dsimp only
  split_ifs <;> assumption

lemma cardMessageId_markedRecord (old : ProposalRecord) (tid side : String) :
    (markedRecord old tid side now).cardMessageId = old.cardMessageId := by
  unfold markedRecord
  dsimp only

lemma cardMessageId_cancelDraftOf (key : String) (p : ProposalRecord) :
    (cancelDraftOf key now p).cardMessageId = p.cardMessageId := by
  unfold cancelDraftOf
  split_ifs <;> rfl

/-- Every operation of the service keeps the cards. -/
lemma cardsKept_act {a : Act} {r : a.Reply} (ha : WritesCard a)
    (h : a.mutate now s = .ok (r, s')) : CardsKept s s' := by
  cases a <;> dsimp only [Act.mutate] at h
  case requestMembership tid address username =>
    obtain ⟨i, m, members, -, -, rfl⟩ := requestMembership_ok h
    exact CardsKept.of_eq rfl
  case approveMember actor who address tx caller =>
    obtain ⟨-, -, members, no, rfl⟩ := approveMember_ok h
    exact CardsKept.of_eq rfl
  case requestAgent agent =>
    obtain ⟨-, -, ⟨i, old, -, -, -, rfl⟩ | ⟨i, old, -, -, -, -, rfl⟩ | ⟨-, -, rfl⟩⟩ :=
      requestAgent_ok h
    · exact CardsKept.of_eq rfl
    · exact CardsKept.of_eq rfl
    · exact CardsKept.of_eq rfl
  case approveAgent actor name tx caller =>
    obtain ⟨-, -, i, target, -, -, -, -, -, rfl⟩ := approveAgent_ok h
    exact CardsKept.of_eq rfl
  case removeAgent actor name caller =>
    obtain ⟨-, -, i, target, -, -, -, -, rfl⟩ := removeAgent_ok h
    exact CardsKept.of_map rfl (id_cancelDraftOf _) (cardMessageId_cancelDraftOf _)
  case claimTopic agent topic =>
    obtain ⟨-, ⟨j, mine, -, -, rfl⟩ | ⟨j, a, -, -, -, -, rfl⟩⟩ := claimTopic_ok h
    · exact CardsKept.of_eq rfl
    · exact CardsKept.of_eq rfl
  case releaseClaim agent topic =>
    obtain ⟨keep, rfl⟩ := releaseClaim_ok h
    exact CardsKept.of_eq rfl
  case requestDraft agent topic from_ =>
    obtain ⟨-, j, a, -, -, -, rfl⟩ := requestDraft_ok h
    exact CardsKept.of_eq rfl
  case draftProposal agent d =>
    obtain ⟨v, -, -, i, a, claim, -, -, rfl⟩ := draftProposal_ok h
    exact CardsKept.of_append rfl
  case shipDraft pid caller =>
    obtain ⟨-, -, j, old, hfind, -, rfl, rfl⟩ := shipDraft_ok h
    exact CardsKept.of_set hfind rfl rfl id
  case setProposalStatus actor pid status note =>
    obtain ⟨j, old, hfind, -, -, -, rfl, rfl⟩ := setProposalStatus_ok h
    exact CardsKept.of_set hfind rfl (id_movedRecord _ _ _ _)
      (cardMessageId_movedRecord _ _ _ _)
  case setChainState pid read =>
    obtain ⟨j, old, hfind, hr, rfl⟩ := setChainState_ok h
    exact CardsKept.of_set hfind rfl (by rw [hr]; rfl) (by rw [hr]; exact id)
  case setCardMessage pid message =>
    obtain ⟨j, old, hfind, rfl, rfl⟩ := setCardMessage_ok h
    exact CardsKept.of_set hfind rfl rfl fun _ => ha pid message rfl
  case recordVote pid voter side kind note =>
    obtain ⟨j, old, hfind, rfl, ⟨-, -, name, -, rfl⟩ | ⟨-, k, m, -, -, rfl⟩⟩ := recordVote_ok h
    · exact CardsKept.of_set hfind rfl rfl id
    · refine CardsKept.of_set hfind rfl (id_markedRecord old _ _) fun hcard => ?_
      rwa [cardMessageId_markedRecord]
  case recordSettle actor pid d =>
    obtain ⟨j, old, hfind, -, -, hr, -, rfl⟩ := recordSettle_ok h
    exact CardsKept.of_set hfind rfl (by rw [hr]) (by rw [hr]; exact id)

lemma cardsKept_next {op : Op} (hop : ∀ a, op.update = .act a → WritesCard a) :
    CardsKept s (fundStore.next op s) := by
  refine Interface.next_preserves (CardsKept.of_eq rfl) fun r s' hexec => ?_
  obtain ⟨mid, hm, rfl⟩ := Op.exec_ok hexec
  have hmid : CardsKept s mid := by
    obtain ⟨u, clock⟩ := op
    cases u with
    | act a => exact cardsKept_act (hop a rfl) hm
    | cardFund card =>
      obtain ⟨period, veto, till, -, -, -, rfl⟩ := cardFund_ok hm
      exact CardsKept.of_eq rfl
    | chainStatus pid status =>
      obtain ⟨j, old, hfind, hr, rfl⟩ := chainStatus_ok hm
      exact CardsKept.of_set hfind rfl (by rw [hr]) (by rw [hr]; exact id)
  exact hmid

lemma hasCard_iff {localId : String} : hasCard s localId = true ↔
    ∃ i r, locate (fun p : ProposalRecord => p.id = strip localId) s.proposals = some (i, r) ∧
      r.cardMessageId ≠ "" := by
  rw [hasCard, Option.any_eq_true]
  simp

lemma CardsKept.hasCard {localId : String} (h : CardsKept s s')
    (hcard : hasCard s localId = true) : CardLane.hasCard s' localId = true := by
  obtain ⟨i, r, hr, hne⟩ := hasCard_iff.1 hcard
  obtain ⟨r', hr', hid, hcard'⟩ := h i r (locate_getElem? hr)
  have hmatch : r'.id = strip localId := by
    rw [hid]
    simpa using locate_holds hr
  refine hasCard_iff.2 ⟨i, r', locate_of_first hr' (by simpa using hmatch) ?_, hcard' hne⟩
  intro j b hj hb
  have hlt : j < s.proposals.length := hj.trans (List.getElem?_eq_some_iff.1 (locate_getElem? hr)).1
  obtain ⟨b', hb', hid', -⟩ := h j _ (List.getElem?_eq_getElem hlt)
  obtain rfl : b' = b := Option.some.inj (hb'.symm.trans hb)
  have hfirst := locate_first hr hj (List.getElem?_eq_getElem hlt)
  rw [hid']
  exact hfirst

/-! ### What holds of the lane -/

/-- What a task's phase says about the posts of its lane. -/
def Fits (posts : List Post) : Phase → Prop
  | .posting lane _ => ∀ (j : ℕ) (p : Post), posts[j]? = some p → p.lane = lane → p.recorded = false
  | .writing lane _ _ i => (∃ p : Post, posts[i]? = some p ∧ p.lane = lane) ∧
      ∀ (j : ℕ) (p : Post), posts[j]? = some p → p.lane = lane → p.recorded = false ∧ j ≤ i
  | _ => True

structure Sound (w : World) : Prop where
  locked : ∀ k phase lane, w.tasks k = some phase → phase.holds = some lane →
    w.locks lane = some k
  stored : ∀ (j : ℕ) (p : Post), w.posts[j]? = some p → p.recorded = true → hasCard w.state p.lane.2 = true
  fits : ∀ k phase, w.tasks k = some phase → Fits w.posts phase
  last : ∀ (i j : ℕ) (p q : Post), w.posts[i]? = some p → w.posts[j]? = some q → p.lane = q.lane → i < j →
    p.recorded = false

variable {posts : List Post} {phase : Phase} {lane : Lane} {w : World} {k : ℕ}

lemma Fits.addPost (h : Fits posts phase) (hlane : phase.holds ≠ some lane) :
    Fits (posts ++ [({ lane } : Post)]) phase := by
  cases phase with
  | waiting l => trivial
  | refreshing l pid => trivial
  | posting l pid =>
    intro j p hp hl
    rcases concat_cases hp with ⟨-, rfl⟩ | hp
    · rfl
    · exact h j p hp hl
  | writing l pid message i =>
    obtain ⟨⟨p, hp, hl⟩, hall⟩ := h
    refine ⟨⟨p, concat_old hp, hl⟩, fun j q hq hl' => ?_⟩
    rcases concat_cases hq with ⟨-, rfl⟩ | hq
    · exact absurd (congrArg some hl'.symm) hlane
    · exact hall j q hq hl'

lemma Fits.mark {i : ℕ} {post : Post} {recorded : Bool} (h : Fits posts phase)
    (hpost : posts[i]? = some post) (hlane : phase.holds ≠ some post.lane) :
    Fits (posts.modify i fun p => { p with recorded }) phase := by
  have hother : ∀ (j : ℕ) (p : Post), (posts.modify i fun p => { p with recorded })[j]? = some p →
      phase.holds = some p.lane → posts[j]? = some p := by
    intro j p hp hl
    obtain ⟨p', hp', ⟨rfl, rfl⟩ | ⟨-, rfl⟩⟩ := modify_cases hp
    · obtain rfl : post = p' := Option.some.inj (hpost.symm.trans hp')
      exact absurd hl hlane
    · exact hp'
  cases phase with
  | waiting l => trivial
  | refreshing l pid => trivial
  | posting l pid => exact fun j p hp hl => h j p (hother j p hp (congrArg some hl.symm)) hl
  | writing l pid message n =>
    obtain ⟨⟨p, hp, hl⟩, hall⟩ := h
    refine ⟨⟨p, ?_, hl⟩, fun j q hq hl' => hall j q (hother j q hq (congrArg some hl'.symm)) hl'⟩
    have hni : n ≠ i := by
      rintro rfl
      obtain rfl : post = p := Option.some.inj (hpost.symm.trans hp)
      exact hlane (congrArg some hl.symm)
    rw [List.getElem?_modify, hp]
    simp [Ne.symm hni]

/-- A task that ends, or that waits for a lock. -/
lemma Sound.setTask_idle (h : Sound w) {next : Option Phase}
    (hnext : ∀ phase, next = some phase → ∃ lane, phase = .waiting lane) :
    Sound (w.setTask k next) where
  locked k' phase lane hk' hholds := by
    by_cases hk : k' = k
    · subst hk
      obtain ⟨l, rfl⟩ := hnext phase (by simpa [World.setTask] using hk')
      simp [Phase.holds] at hholds
    · exact h.locked k' phase lane (by simpa [World.setTask, hk] using hk') hholds
  stored := h.stored
  fits k' phase hk' := by
    by_cases hk : k' = k
    · subst hk
      obtain ⟨l, rfl⟩ := hnext phase (by simpa [World.setTask] using hk')
      trivial
    · exact h.fits k' phase (by simpa [World.setTask, hk] using hk')
  last := h.last

lemma Sound.finish (h : Sound w) (hk : w.tasks k = some phase) : Sound (w.finish k phase) := by
  have hidle : Sound (w.setTask k none) := h.setTask_idle fun phase hphase => by cases hphase
  unfold World.finish
  cases hholds : phase.holds with
  | none => exact hidle
  | some lane =>
    refine { hidle with locked := fun k' phase' lane' hk' hholds' => ?_ }
    have hlock := h.locked k phase lane hk hholds
    have hne : k' ≠ k := by
      rintro rfl
      simp [World.setTask, World.setLock] at hk'
    have hlock' := h.locked k' phase' lane' (by simpa [World.setTask, World.setLock, hne] using hk')
      hholds'
    have hlane : lane' ≠ lane := by
      rintro rfl
      exact hne (Option.some.inj (hlock'.symm.trans hlock))
    simpa [World.setTask, World.setLock, hlane] using hlock'

/-- A task that takes a free lock. -/
lemma Sound.take (h : Sound w) (hlock : w.locks lane = none) (hholds : phase.holds = some lane)
    (hfits : Fits w.posts phase) : Sound ((w.setTask k (some phase)).setLock lane (some k)) where
  locked k' phase' lane' hk' hholds' := by
    by_cases hk : k' = k
    · subst hk
      obtain rfl : phase = phase' := by simpa [World.setTask, World.setLock] using hk'
      obtain rfl : lane = lane' := Option.some.inj (hholds.symm.trans hholds')
      simp [World.setLock]
    · have hold := h.locked k' phase' lane' (by simpa [World.setTask, World.setLock, hk] using hk')
        hholds'
      have hlane : lane' ≠ lane := by
        rintro rfl
        rw [hlock] at hold
        cases hold
      simpa [World.setTask, World.setLock, hlane] using hold
  stored := h.stored
  fits k' phase' hk' := by
    by_cases hk : k' = k
    · subst hk
      obtain rfl : phase = phase' := by simpa [World.setTask, World.setLock] using hk'
      exact hfits
    · exact h.fits k' phase' (by simpa [World.setTask, World.setLock, hk] using hk')
  last := h.last

/-- A card is sent from a lane whose lock nobody else holds. -/
lemma Sound.addPost (h : Sound w) (hlock : w.locks lane = none)
    (hnone : ∀ (j : ℕ) (p : Post), w.posts[j]? = some p → p.lane = lane → p.recorded = false) :
    Sound (w.addPost lane) where
  locked := h.locked
  stored j p hp hrecorded := by
    rcases concat_cases hp with ⟨-, rfl⟩ | hp
    · cases hrecorded
    · exact h.stored j p hp hrecorded
  fits k phase hk := by
    refine (h.fits k phase hk).addPost fun hholds => ?_
    rw [h.locked k phase lane hk hholds] at hlock
    cases hlock
  last i j p q hp hq hlane hij := by
    rcases concat_cases hp with ⟨-, rfl⟩ | hp
    · rfl
    · rcases concat_cases hq with ⟨-, rfl⟩ | hq
      · exact hnone i p hp hlane
      · exact h.last i j p q hp hq hlane hij

/-- The state goes on with the cards that it has. -/
lemma Sound.state (h : Sound w) {s : FundState} (hkept : CardsKept w.state s) :
    Sound { w with state := s } where
  locked := h.locked
  stored j p hp hrecorded := hkept.hasCard (h.stored j p hp hrecorded)
  fits := h.fits
  last := h.last

lemma toString_ne_empty (n : ℤ) : toString n ≠ "" := by
  intro hempty
  have hread := int?_toString n
  rw [hempty] at hread
  cases hread

lemma cardsKept_write {pid : String} {message : ℤ} {clock : Clock}
    {r : (World.cardWrite pid message clock).update.Reply × FundState}
    (h : (World.cardWrite pid message clock).exec w.state = .ok r) : CardsKept w.state r.2 := by
  have hkept : CardsKept w.state (fundStore.next (World.cardWrite pid message clock) w.state) := by
    refine cardsKept_next fun a ha pid' message' ha' => ?_
    cases ha
    cases ha'
    exact toString_ne_empty message
  rwa [Interface.next_of_ok (I := fundStore) h] at hkept

/-- The id of the last card of a lane is stored. -/
lemma Sound.record (h : Sound w) {pid : String} {message : ℤ} {post : ℕ} {clock : Clock}
    (hlock : w.locks lane = none)
    (hpost : ∃ p : Post, w.posts[post]? = some p ∧ p.lane = lane)
    (hlast : ∀ (j : ℕ) (p : Post), w.posts[j]? = some p → p.lane = lane →
      p.recorded = false ∧ j ≤ post) : Sound (w.record lane pid message post clock) := by
  unfold World.record
  cases hexec : (World.cardWrite pid message clock).exec w.state with
  | error e => exact h
  | ok r =>
    obtain ⟨p, hp, rfl⟩ := hpost
    have hkept := cardsKept_write hexec
    refine ⟨h.locked, fun j q hq hrecorded => ?_, fun k phase hk => ?_,
      fun i j q q' hq hq' hlane hij => ?_⟩
    · obtain ⟨q₀, hq₀, ⟨rfl, rfl⟩ | ⟨-, rfl⟩⟩ := modify_cases hq
      · obtain rfl : p = q₀ := Option.some.inj (hp.symm.trans hq₀)
        exact hrecorded
      · exact hkept.hasCard (h.stored j q hq₀ hrecorded)
    · refine (h.fits k phase hk).mark hp fun hholds => ?_
      rw [h.locked k phase p.lane hk hholds] at hlock
      cases hlock
    · obtain ⟨q₀, hq₀, hi⟩ := modify_cases hq
      obtain ⟨q₀', hq₀', hj⟩ := modify_cases hq'
      have hlanes : q.lane = q₀.lane ∧ q'.lane = q₀'.lane := by
        constructor
        · rcases hi with ⟨-, rfl⟩ | ⟨-, rfl⟩ <;> rfl
        · rcases hj with ⟨-, rfl⟩ | ⟨-, rfl⟩ <;> rfl
      have hold : q₀.lane = q₀'.lane := by rw [← hlanes.1, ← hlanes.2, hlane]
      rcases hi with ⟨rfl, -⟩ | ⟨-, rfl⟩
      · obtain rfl : p = q₀ := Option.some.inj (hp.symm.trans hq₀)
        have hle := (hlast j q₀' hq₀' hold.symm).2
        omega
      · exact h.last i j q q₀' hq₀ hq₀' hold hij

/-- What `_sync_card` goes on with takes the lock, and it posts no card where there is one. -/
lemma phaseFor_fits (h : Sound w) (hphase : w.phaseFor lane = some phase) :
    phase.holds = some lane ∧ Fits w.posts phase := by
  unfold World.phaseFor at hphase
  split at hphase
  · rename_i i rec hrec
    split_ifs at hphase with hcard hopen
    · cases hphase
      exact ⟨rfl, trivial⟩
    · cases hphase
      refine ⟨rfl, fun j p hp hlane => ?_⟩
      by_contra hrecorded
      have hhas := h.stored j p hp (by simpa using hrecorded)
      rw [hlane] at hhas
      obtain ⟨i', r', hlocate, hne⟩ := hasCard_iff.1 hhas
      have hfound : w.state.proposal lane.2 = .ok (some (i', r')) := by
        rw [FundState.proposal, hlocate]
      rw [hrec] at hfound
      cases hfound
      exact hne (not_not.1 hcard)
  · cases hphase

lemma holds_finish {lane : Lane} (hholds : phase.holds = some lane) :
    (w.finish k phase).locks lane = none := by
  simp [World.finish, hholds, World.setTask, World.setLock]

lemma posts_finish : (w.finish k phase).posts = w.posts := by
  unfold World.finish
  split <;> rfl

lemma Sound.event (h : Sound w) : Sound (w.event k lane) := by
  unfold World.event
  split_ifs
  · exact h.setTask_idle fun phase hphase => ⟨lane, (Option.some.inj hphase).symm⟩
  · exact h

lemma Sound.acquire (h : Sound w) (loads : Bool) : Sound (w.acquire k loads) := by
  unfold World.acquire
  split
  · rename_i lane hk
    split_ifs with hlock hloads
    · cases hphase : w.phaseFor lane with
      | none => exact h.setTask_idle fun phase hphase => by cases hphase
      | some phase =>
        obtain ⟨hholds, hfits⟩ := phaseFor_fits h hphase
        exact h.take hlock hholds hfits
    · exact h.setTask_idle fun phase hphase => by cases hphase
    · exact h
  · exact h

/-- A task that has sent its card keeps its lock. -/
lemma addPost_setTask (h : Sound w) {next : Phase} (hk : w.tasks k = some phase)
    (hholds : phase.holds = some lane) :
    (w.addPost lane).setTask k (some next) =
      (((w.finish k phase).addPost lane).setTask k (some next)).setLock lane (some k) := by
  have hlock := h.locked k phase lane hk hholds
  have hlocks : Function.update (Function.update w.locks lane none) lane (some k) = w.locks := by
    rw [Function.update_idem, ← hlock, Function.update_eq_self]
  unfold World.finish
  rw [hholds]
  simp [World.addPost, World.setTask, World.setLock, hlocks]

lemma Sound.sent (h : Sound w) (outcome : Sent) : Sound (w.sent k outcome) := by
  unfold World.sent
  split
  · rename_i lane pid hk
    have hfits := h.fits k _ hk
    have hfinish := h.finish hk
    have hfree : (w.finish k (.posting lane pid)).locks lane = none := holds_finish rfl
    have hpost : Sound ((w.finish k (.posting lane pid)).addPost lane) := by
      refine hfinish.addPost hfree ?_
      rw [posts_finish]
      exact hfits
    cases outcome with
    | nothing => exact hfinish
    | lost => exact hpost
    | known message =>
      dsimp only
      rw [addPost_setTask h hk rfl]
      refine hpost.take hfree rfl ⟨⟨{ lane }, ?_, rfl⟩, fun j p hp hl => ?_⟩
      · rw [World.addPost, posts_finish]
        exact concat_new
      · rw [World.addPost, posts_finish] at hp
        rcases concat_cases hp with ⟨rfl, rfl⟩ | hp
        · exact ⟨rfl, le_rfl⟩
        · exact ⟨hfits j p hp hl, (List.getElem?_eq_some_iff.1 hp).1.le⟩
  · exact h

lemma Sound.write (h : Sound w) (clock : Option Clock) : Sound (w.write k clock) := by
  unfold World.write
  split
  · rename_i lane pid message post hk
    obtain ⟨hpost, hlast⟩ := h.fits k _ hk
    have hfinish := h.finish hk
    cases clock with
    | none => exact hfinish
    | some clock =>
      refine hfinish.record (holds_finish rfl) ?_ ?_
      · rw [posts_finish]
        exact hpost
      · rw [posts_finish]
        exact hlast
  · exact h

lemma Sound.step (h : Sound w) (move : Move) : Sound (w.step move) := by
  cases move with
  | event k lane => exact h.event
  | acquire k loads => exact h.acquire loads
  | sent k outcome => exact h.sent outcome
  | write k clock => exact h.write clock
  | refreshed k =>
    unfold World.step World.refreshed
    dsimp only
    split
    · rename_i hk
      exact h.finish hk
    · exact h
  | cancel k =>
    unfold World.step World.cancel
    dsimp only
    split
    · rename_i hk
      exact h.finish hk
    · exact h
  | service op =>
    refine h.state (cardsKept_next fun a ha pid message hact => ?_)
    exact absurd (ha.trans (congrArg Update.act hact)) (op.other pid message)

lemma Sound.run (h : Sound w) (moves : List Move) : Sound (w.run moves) := by
  induction moves generalizing w with
  | nil => exact h
  | cons move moves ih => exact ih (h.step move)

/-- Both ids lead to the same record. -/
def SameRecord (s : FundState) (proposalId localId : String) : Prop :=
  ∃ (i : ℕ) (r : ProposalRecord), s.proposal proposalId = .ok (some (i, r)) ∧
    locate (fun p : ProposalRecord => p.id = strip localId) s.proposals = some (i, r)

lemma hasCard_of_write {pid localId : String} {message : ℤ} {clock : Clock}
    (h : SameRecord s pid localId) :
    ∃ r s', (World.cardWrite pid message clock).exec s = .ok (r, s') ∧
      hasCard s' localId = true := by
  obtain ⟨i, r, hfind, hlocate⟩ := h
  let r' : ProposalRecord := { r with cardMessageId := toString message }
  have hwrite : (World.cardWrite pid message clock).update.mutate clock.now s =
      .ok (r', setProposal s i r') := by
    change setCardMessage pid (toString message) s = _
    rw [setCardMessage, findProposal_ok.2 hfind]
    rfl
  have hr := locate_getElem? hlocate
  have hid : r'.id = strip localId := by simpa using locate_holds hlocate
  refine ⟨r', _, Op.exec_of_ok _ hwrite, hasCard_iff.2 ⟨i, r', ?_, toString_ne_empty message⟩⟩
  refine locate_of_first (set_self hr) (by simpa using hid) fun j b hj hb => ?_
  rcases set_cases hb with ⟨rfl, -⟩ | ⟨-, hb⟩
  · exact absurd hj (lt_irrefl _)
  · exact locate_first hlocate hj hb

lemma Sound.recorded (h : Sound w) {pid : String} {message : ℤ} {post : ℕ} (clock : Clock)
    (hk : w.tasks k = some (.writing lane pid message post))
    (hsame : SameRecord w.state pid lane.2) :
    ∃ p : Post, (w.write k (some clock)).posts[post]? = some p ∧ p.lane = lane ∧
      p.recorded = true := by
  obtain ⟨⟨p, hp, hlane⟩, -⟩ := h.fits k _ hk
  obtain ⟨r, s', hexec, hcard⟩ := @hasCard_of_write _ _ _ message clock hsame
  refine ⟨{ p with recorded := true }, ?_, hlane, rfl⟩
  have hwrite : w.write k (some clock) =
      (w.finish k (.writing lane pid message post)).record lane pid message post clock := by
    rw [World.write, hk]
  have hstate : (w.finish k (.writing lane pid message post)).state = w.state := by
    unfold World.finish
    split <;> rfl
  rw [hwrite, World.record, hstate, hexec]
  dsimp only
  rw [posts_finish, List.getElem?_modify, hp, hcard]
  simp

end SherwoodMonitor.CardLane
