import SherwoodMonitor.Service
import SherwoodMonitor.PitchFlow

/-! A draft request of the pitch flow at the fund state (`fund/telegram.py`): the pitch's topic is
claimed for this agent, or the chat is told why not. -/
namespace SherwoodMonitor.DraftBridge
open PyUnicode PyText Models FundState Service PitchText PitchFlow

/-- How the store fails: with a `FundStoreError` (a lock timeout, a missing or an unreadable fund),
or with another exception, such as one of the operating system. -/
inductive Failure
  | store
  | system
  deriving DecidableEq

/-- What the store does during one call: the funds that it lists (`none` where that raises, which is
never a `FundStoreError`), what a load of each gives, the state that the update reads under its
lock, and its write. -/
structure Store where
  names : Option (List String)
  load : String → Except Failure FundState
  update : Except Failure FundState
  write : Except Failure Unit

/-- How `on_draft_requested` ends. -/
inductive Outcome
  | recorded (claim : Claim) (state : FundState)
  | refused (reason : String)
  | busy
  | noFund
  | raised

def Outcome.raises : Outcome → Bool
  | .raised => true
  | _ => false

/-- What the chat is told. -/
def Outcome.said (event : DraftRequested) : Outcome → Option String
  | .refused reason =>
      let who := if event.ideaByName = "" then "user" ++ toString event.ideaBy else event.ideaByName
      some ("Can't draft " ++ who ++ "'s idea yet: " ++ reason)
  | .busy => some "Fund state is busy; react again in a moment."
  | _ => none

/-- A character of a topic. -/
def isTopicChar (c : Char) : Bool := isLetterOrDigit c || " $#./+-".toList.contains c

/-- `pitch_topic`. -/
def pitchTopic (isWord : Char → Bool) (text : String) : String :=
  let wanted := ((tickers isWord text).map upper).eraseDups
  if wanted ≠ [] then " ".intercalate (wanted.take 4) ++ " pitch"
  else
    let said := subRuns (fun c => !isTopicChar c) (dropMentions isWord false text.toList)
    let words := (said.splitOnP isSpace).filter (· ≠ [])
    let topic := take (" ".intercalate ((words.take 6).map String.ofList)) 60
    if topic = "" then "chat pitch" else topic

/-- `state_for_chat`, over the funds that the store lists: one that does not load is passed over. -/
def stateForChat (load : String → Except Failure FundState) (chat : String) :
    List String → Except Failure (Option FundState)
  | [] => .ok none
  | name :: names =>
      match load name with
      | .ok state =>
          if state.fund.telegramChatId ≠ "" ∧ state.fund.telegramChatId = chat then .ok (some state)
          else stateForChat load chat names
      | .error .store => stateForChat load chat names
      | .error .system => .error .system

/-- `_agent`. -/
def draftAgent (agentName : String) (state : FundState) : Except String String :=
  if strip agentName ≠ "" then .ok (strip agentName)
  else
    match state.hostAgent with
    | some (_, host) => .ok host.name
    | none => .error "This fund has no host agent."

/-- The request that the bridge makes of the service. -/
def requestOf (isWord : Char → Bool) (agent : String) (event : DraftRequested) (now : Time)
    (state : FundState) : Except Exc (Claim × FundState) :=
  requestDraft agent (pitchTopic isWord event.text)
    { ideaBy := toString event.ideaBy, pitch := event.text, chatId := toString event.chatId,
      sourceMessageId := some event.sourceMessageId } now state

/-- `on_draft_requested`. -/
def onDraftRequested (isWord : Char → Bool) (agentName : String) (store : Store)
    (event : DraftRequested) (now : Time) : Outcome :=
  match store.names with
  | none => .raised
  | some names =>
      match stateForChat store.load (toString event.chatId) names with
      | .error _ => .raised
      | .ok none => .noFund
      | .ok (some state) =>
          match draftAgent agentName state with
          | .error reason => .refused reason
          | .ok agent =>
              match store.update with
              | .error .store => .busy
              | .error .system => .raised
              | .ok state =>
                  match requestOf isWord agent event now state with
                  | .error (.rule _ reason) => .refused reason
                  | .error (.raised _ _) => .raised
                  | .ok (claim, state) =>
                      match store.write with
                      | .error .store => .busy
                      | .error .system => .raised
                      | .ok () => .recorded claim state

/-- The failure of the store that keeps a request from being recorded, where there is one. A fund
that is passed over may be the chat's. -/
def storeFailure (isWord : Char → Bool) (agentName : String) (store : Store)
    (event : DraftRequested) (now : Time) : Option Failure :=
  match store.names with
  | none => some .system
  | some names =>
      match stateForChat store.load (toString event.chatId) names with
      | .error x => some x
      | .ok none => if ∃ name ∈ names, store.load name = .error .store then some .store else none
      | .ok (some state) =>
          match draftAgent agentName state with
          | .error _ => none
          | .ok agent =>
              match store.update with
              | .error x => some x
              | .ok state =>
                  match requestOf isWord agent event now state with
                  | .error _ => none
                  | .ok _ =>
                      match store.write with
                      | .error x => some x
                      | .ok () => none

lemma stateForChat_error {load : String → Except Failure FundState} {chat : String}
    {names : List String} {x : Failure} (h : stateForChat load chat names = .error x) :
    x = .system := by
  induction names with
  | nil => cases h
  | cons name names ih =>
    rw [stateForChat] at h
    split at h
    · split_ifs at h
      exact ih h
    · exact ih h
    · exact (Except.error.inj h).symm

/-- The bridge lets a failure of the store out unless it is a `FundStoreError`. -/
lemma raises_iff_of_storeFailure {isWord : Char → Bool} {agentName : String} {store : Store}
    {event : DraftRequested} {now : Time} {x : Failure}
    (h : storeFailure isWord agentName store event now = some x) :
    (onDraftRequested isWord agentName store event now).raises = true ↔ x = .system := by
  rw [storeFailure] at h
  rw [onDraftRequested]
  cases hnames : store.names with
  | none =>
    simp only [hnames] at h ⊢
    simp [← Option.some.inj h, Outcome.raises]
  | some names =>
    simp only [hnames] at h ⊢
    cases hstate : stateForChat store.load (toString event.chatId) names with
    | error y =>
      simp only [hstate] at h ⊢
      simp [← Option.some.inj h, stateForChat_error hstate, Outcome.raises]
    | ok found =>
      cases found with
      | none =>
        simp only [hstate] at h ⊢
        split_ifs at h
        simp [← Option.some.inj h, Outcome.raises]
      | some state =>
        simp only [hstate] at h ⊢
        cases hagent : draftAgent agentName state with
        | error reason => simp [hagent] at h
        | ok agent =>
          simp only [hagent] at h ⊢
          cases hupdate : store.update with
          | error y =>
            simp only [hupdate] at h ⊢
            cases y <;> simp [← Option.some.inj h, Outcome.raises]
          | ok state =>
            simp only [hupdate] at h ⊢
            cases hrequest : requestOf isWord agent event now state with
            | error e => simp [hrequest] at h
            | ok r =>
              simp only [hrequest] at h ⊢
              cases hwrite : store.write with
              | error y =>
                simp only [hwrite] at h ⊢
                cases y <;> simp [← Option.some.inj h, Outcome.raises]
              | ok u => simp [hwrite] at h

end SherwoodMonitor.DraftBridge
