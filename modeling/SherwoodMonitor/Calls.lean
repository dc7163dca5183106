import SherwoodMonitor.ChainCard
import SherwoodMonitor.Library.AtomicStore

/-! The fund service over its store: every operation is one atomic update, except
`apply_chain_card`, which loads and updates several times. -/
namespace SherwoodMonitor.Calls
open PyJson Lookup Models Rules Service ChainCard AtomicStore

/-- The readings of the service's clock and, at the write, of the store's. -/
structure Clock where
  now : Time
  stamp : Time

/-- The operations of `FundService` that are a single update. -/
inductive Act
  | requestMembership (telegramId address username : String)
  | approveMember (actor who address txHash : String) (caller : Option String)
  | requestAgent (agent : Agent)
  | approveAgent (actor name txHash : String) (caller : Option String)
  | removeAgent (actor name : String) (caller : Option String)
  | claimTopic (agent topic : String)
  | releaseClaim (agent : String) (topic : Option String)
  | requestDraft (agent topic : String) (from_ : Pitch)
  | draftProposal (agent : String) (d : Draft)
  | shipDraft (proposalId : String) (caller : Option String)
  | setProposalStatus (actor proposalId status : String) (note : StatusNote)
  | setChainState (proposalId : String) (read : ChainRead)
  | setCardMessage (proposalId cardMessageId : String)
  | recordVote (proposalId voter side voterKind note : String)
  | recordSettle (actor proposalId : String) (s : Settle)

/-- What one `backend.update` does: an operation, or one of the two writes that only
`apply_chain_card` makes. -/
inductive Update
  | act (a : Act)
  | cardFund (card : CardFund)
  | chainStatus (proposalId : String) (status : Status)

def Act.Reply : Act → Type
  | .requestMembership .. => Member
  | .approveMember .. => Member × DepositorBody
  | .requestAgent _ => Agent
  | .approveAgent .. => Agent × RegisterBody
  | .removeAgent .. => Agent
  | .claimTopic .. => Claim
  | .releaseClaim .. => ℕ
  | .requestDraft .. => Claim
  | .draftProposal .. => DraftResult
  | .shipDraft .. => ProposalRecord
  | .setProposalStatus .. => ProposalRecord × Status
  | .setChainState .. => ProposalRecord × Bool
  | .setCardMessage .. => ProposalRecord
  | .recordVote .. => ProposalRecord
  | .recordSettle .. => SettleReceipt × ProposalRecord

def Update.Reply : Update → Type
  | .act a => a.Reply
  | .cardFund _ => Unit
  | .chainStatus .. => ProposalRecord × Status

def Act.mutate : (a : Act) → Time → FundState → Except Exc (a.Reply × FundState)
  | .requestMembership telegramId address username =>
      Service.requestMembership telegramId address username
  | .approveMember actor who address txHash caller =>
      Service.approveMember actor who address txHash caller
  | .requestAgent agent => Service.requestAgent agent
  | .approveAgent actor name txHash caller => Service.approveAgent actor name txHash caller
  | .removeAgent actor name caller => Service.removeAgent actor name caller
  | .claimTopic agent topic => Service.claimTopic agent topic
  | .releaseClaim agent topic => Service.releaseClaim agent topic
  | .requestDraft agent topic from_ => Service.requestDraft agent topic from_
  | .draftProposal agent d => Service.draftProposal agent d
  | .shipDraft proposalId caller => Service.shipDraft proposalId caller
  | .setProposalStatus actor proposalId status note =>
      Service.setProposalStatus actor proposalId status note
  | .setChainState proposalId read => Service.setChainState proposalId read
  | .setCardMessage proposalId cardMessageId =>
      fun _ => Service.setCardMessage proposalId cardMessageId
  | .recordVote proposalId voter side voterKind note =>
      Service.recordVote proposalId voter side voterKind note
  | .recordSettle actor proposalId s => Service.recordSettle actor proposalId s

def Update.mutate : (u : Update) → Time → FundState → Except Exc (u.Reply × FundState)
  | .act a => a.mutate
  | .cardFund card => fun _ => ChainCard.cardFund card
  | .chainStatus proposalId status => Service.chainStatus proposalId status

/-- What the store adds to every write. -/
def bump (state : FundState) (stamp : Time) : FundState :=
  { state with revision := state.revision + 1, updatedAt := stamp }

/-- An update with the clock readings of its run. -/
structure Op where
  update : Update
  clock : Clock

/-- `backend.update`: load, mutate, bump the revision, save. -/
def Op.exec (op : Op) (state : FundState) : Except Exc (op.update.Reply × FundState) := do
  let (reply, state) ← op.update.mutate op.clock.now state
  return (reply, bump state op.clock.stamp)

abbrev fundStore : Interface FundState Exc := ⟨Op, fun op => op.update.Reply, Op.exec⟩

lemma Op.exec_ok {op : Op} {state state' : FundState} {r : op.update.Reply}
    (h : op.exec state = .ok (r, state')) :
    ∃ mid, op.update.mutate op.clock.now state = .ok (r, mid) ∧
      state' = bump mid op.clock.stamp := by
  rw [Op.exec, bind_eq_ok] at h
  obtain ⟨⟨r', mid⟩, hm, h⟩ := h
  obtain ⟨rfl, rfl⟩ : r' = r ∧ bump mid op.clock.stamp = state' := by
    simpa [pure, Except.pure] using h
  exact ⟨mid, hm, rfl⟩

lemma Op.exec_of_ok (op : Op) {state mid : FundState} {r : op.update.Reply}
    (h : op.update.mutate op.clock.now state = .ok (r, mid)) :
    op.exec state = .ok (r, bump mid op.clock.stamp) := by
  rw [Op.exec, bind_eq_ok]
  exact ⟨(r, mid), h, rfl⟩

inductive FundEvent
  | memberRequested (member : Member)
  | memberApproved (member : Member) (body : DepositorBody)
  | draftRequested (claim : Claim)
  | drafted (result : DraftResult)
  | shipped (proposal : ProposalRecord)
  | status (proposal : ProposalRecord) (old : Status) (chain : Bool)
  | tally (proposal : ProposalRecord)
  | vote (proposal : ProposalRecord) (voter side voterKind : String)
  | settled (proposal : ProposalRecord) (receipt : SettleReceipt)

abbrev FundProg := Prog fundStore FundEvent

/-- The event an operation emits after its write. -/
def Act.event? : (a : Act) → a.Reply → Option FundEvent
  | .requestMembership .., member => some (.memberRequested member)
  | .approveMember .., (member, body) => some (.memberApproved member body)
  | .requestDraft .., claim => some (.draftRequested claim)
  | .draftProposal .., result => some (.drafted result)
  | .shipDraft .., proposal => some (.shipped proposal)
  | .setProposalStatus .., (proposal, old) => some (.status proposal old false)
  | .setChainState .., (proposal, changed) => if changed then some (.tally proposal) else none
  | .recordVote _ voter side voterKind _, proposal =>
      some (.vote proposal voter (PyText.lower (PyText.strip side)) voterKind)
  | .recordSettle .., (receipt, proposal) => some (.settled proposal receipt)
  | _, _ => none

def runAct (a : Act) (clock : Clock) : FundProg a.Reply := do
  let reply ← Prog.call (I := fundStore) ⟨.act a, clock⟩
  match a.event? reply with
  | some ev => Prog.tell ev
  | none => pure ()
  return reply

lemma run_runAct_of_ok (a : Act) {clock : Clock} {s mid : FundState} {r : a.Reply}
    (h : a.mutate clock.now s = .ok (r, mid)) :
    (runAct a clock).run s = ⟨.ok r, bump mid clock.stamp, (a.event? r).toList⟩ := by
  have hexec : fundStore.exec ⟨.act a, clock⟩ s = .ok (r, bump mid clock.stamp) :=
    Op.exec_of_ok ⟨.act a, clock⟩ h
  rw [runAct, Prog.run_bind_of_ok (Prog.run_call_of_ok hexec)]
  cases a.event? r <;> rfl

def runChainStatus (proposalId : String) (status : Status) (clock : Clock) : FundProg Unit := do
  let (proposal, old) ← Prog.call (I := fundStore) ⟨.chainStatus proposalId status, clock⟩
  Prog.tell (.status proposal old true)

def lift {α : Type} : Except Exc α → FundProg α
  | .ok a => pure a
  | .error e => Prog.raise e

/-- The record a row is about, in the state loaded before the rows. -/
def rowRecord (state : FundState) (row : Fields) : Option ProposalRecord :=
  (rowId row).bind fun n => state.proposals.find? fun p => p.onchainId = some n

/-- One row of a card: its tallies, then the status the chain says when that is a legal step from
the status just loaded. -/
def applyRow (record : ProposalRecord) (row : Fields) (tallyClock statusClock : Clock) :
    FundProg Unit := do
  let read ← lift (rowRead row)
  let _ ← runAct (.setChainState record.id read) tallyClock
  let state ← Prog.get
  let current ← lift (state.proposal record.id)
  match rowTarget row, current with
  | some target, some (_, current) =>
      if current.status ≠ target ∧ (checkTransition current.status target).ok then
        runChainStatus record.id target statusClock
  | _, _ => pure ()

/-- The rows in order; one whose on-chain id was seen before is skipped. Row `k` reads the clock
twice. -/
def applyRows (state : FundState) (clock : ℕ → Clock) : ℕ → List ℤ → List Fields → FundProg ℕ
  | _, _, [] => pure 0
  | k, seen, row :: rows =>
      match rowId row with
      | none => applyRows state clock (k + 1) seen rows
      | some onchain =>
          if onchain ∈ seen then applyRows state clock (k + 1) seen rows
          else
            match rowRecord state row with
            | none => applyRows state clock (k + 1) (onchain :: seen) rows
            | some record => do
                applyRow record row (clock (2 * k + 1)) (clock (2 * k + 2))
                let updated ← applyRows state clock (k + 1) (onchain :: seen) rows
                return updated + 1

/-- `apply_chain_card`; the reply is the number of proposals updated. -/
def applyChainCard (card : Json) (clock : ℕ → Clock) : FundProg ℕ := do
  let card ← lift (parseCard card)
  if !card.fund.isEmpty then
    let _ ← Prog.call (I := fundStore) ⟨.cardFund card.fund, clock 0⟩
  let state ← Prog.get
  applyRows state clock 0 [] card.rows

/-- A call of the service. -/
inductive Call
  | act (a : Act) (clock : Clock)
  | applyChainCard (card : Json) (clock : ℕ → Clock)

def Call.prog : Call → FundProg Unit
  | .act a clock => do
      let _ ← runAct a clock
  | .applyChainCard card clock => do
      let _ ← Calls.applyChainCard card clock

end SherwoodMonitor.Calls
