import SherwoodMonitor.Library.JsonRecords
import SherwoodMonitor.ChainCard

/-! The JSON form of a fund's state (`to_dict` and the `from_dict` decoders of `fund/models.py`).
Every update of the store decodes one such value and encodes the next: nothing may be lost between
the two, and a file written by a version with more keys reads the same. -/
namespace SherwoodMonitor.StateCodec
open PyText PyJson JsonRecords Models ChainCard

abbrev Load := Read Exc

/-- `raw.items()`, which only a dict has. -/
def dictOf : Json → Load Fields
  | .obj d => .ok d
  | v => raising (.error
      (.raised .attribute ("'" ++ pyTypeName v ++ "' object has no attribute 'items'")))

/-- `for x in v`: a string iterates over its characters, a dict over its keys. -/
def iterate : Json → Load (List Json)
  | .arr vs => .ok vs
  | .str s => .ok (s.toList.map fun c => .str (String.singleton c))
  | .obj d => .ok (d.map fun e => .str e.1)
  | v => raising (.error (.raised .type ("'" ++ pyTypeName v ++ "' object is not iterable")))

/-- `str(v)`. -/
def anyText (_ : String) (v : Json) : Load String := .ok v.toStr

/-- `str(v)` of a value that is there; `None` is kept. -/
def textOf (key : String) : Json → Load String
  | .null => .error (.untyped key)
  | v => .ok v.toStr

/-- `int(v)` of a value that is there; `None` and `""` are kept. -/
def integerOf (key : String) (v : Json) : Load ℤ :=
  if v.isBlank then .error (.untyped key) else raising (pyIntOf v)

/-- `int(v)`. -/
def anyInteger (_ : String) (v : Json) : Load ℤ := raising (pyIntOf v)

/-- `_opt_int`. -/
def optInt (_ : String) (v : Json) : Load (Option ℤ) :=
  if v.isBlank then .ok none else some <$> raising (pyIntOf v)

/-- `float(v)`. -/
def numberOf (_ : String) : Json → Load Time
  | .bool b => .ok (if b then 1 else 0)
  | .int n =>
      if floatLimit ≤ |n| then
        raising (.error (.raised .overflow "int too large to convert to float"))
      else .ok n
  | .float q _ => .ok q
  | .str s =>
      match float? s with
      | some q => .ok q
      | none => raising (.error
          (.raised .value ("could not convert string to float: " ++ reprText s)))
  | v => raising (.error (.raised .type ("float() argument must be a string or a real number, " ++
      "not '" ++ pyTypeName v ++ "'")))

/-- `[read(x) for x in v]`. -/
def each {α : Type} (read : Json → Load α) (_ : String) (v : Json) : Load (List α) := do
  let vs ← iterate v
  vs.mapM read

/-- `_load_list`. -/
def loadList {α : Type} (fromDict : Json → Load α) (key : String) (raw : Json) : Load (List α) :=
  if raw.truthy then each fromDict key raw else .ok []

section Encoders

variable (t : NumberText floatLimit)

def fundToDict (f : Fund) : Json :=
  .obj [("name", .str f.name), ("vault", .str f.vault), ("governor", .str f.governor),
    ("chain_id", .int f.chainId), ("asset", .str f.asset), ("host", .str f.host),
    ("host_telegram_id", .str f.hostTelegramId), ("telegram_chat_id", .str f.telegramChatId),
    ("voting_period", .int f.votingPeriod), ("veto_threshold_bps", .int f.vetoThresholdBps),
    ("mode", .str f.mode), ("max_capital", ofOption .str f.maxCapital),
    ("max_drawdown_bps", ofOption .int f.maxDrawdownBps),
    ("agent_fee_bps", ofOption .int f.agentFeeBps), ("cooldown_period", .int f.cooldownPeriod),
    ("cooldown_until", ofOption t.json f.cooldownUntil), ("created_at", t.json f.createdAt)]

def memberToDict (m : Member) : Json :=
  .obj [("telegram_id", .str m.telegramId), ("address", .str m.address),
    ("approved", .bool m.approved), ("joined_at", t.json m.joinedAt),
    ("member_no", ofOption .int m.memberNo), ("deposit_no", ofOption .int m.depositNo),
    ("approved_at", ofOption t.json m.approvedAt), ("approve_tx", .str m.approveTx),
    ("username", .str m.username)]

def bondPolicyToDict (b : BondPolicy) : Json :=
  .obj [("bond_bps", .int b.bondBps), ("approve_buffer_bps", .int b.approveBufferBps),
    ("requote_drift_bps", .int b.requoteDriftBps), ("swap_gap_from", .str b.swapGapFrom)]

def agentToDict (a : Agent) : Json :=
  .obj [("name", .str a.name), ("identity_id", .str a.identityId), ("address", .str a.address),
    ("role", .str a.role), ("approved", .bool a.approved), ("registered", .bool a.registered),
    ("bond_policy", bondPolicyToDict a.bondPolicy),
    ("owner_telegram_id", .str a.ownerTelegramId), ("requested_at", t.json a.requestedAt),
    ("approved_at", ofOption t.json a.approvedAt),
    ("registered_at", ofOption t.json a.registeredAt), ("register_tx", .str a.registerTx),
    ("removed", .bool a.removed), ("removed_at", ofOption t.json a.removedAt)]

def claimToDict (c : Claim) : Json :=
  .obj [("agent", .str c.agent), ("topic", .str c.topic), ("expires_at", t.json c.expiresAt),
    ("created_at", t.json c.createdAt), ("idea_by", .str c.ideaBy), ("pitch", .str c.pitch),
    ("chat_id", .str c.chatId), ("source_message_id", ofOption .int c.sourceMessageId)]

def legToDict (l : Leg) : Json :=
  .obj [("summary", .str l.summary), ("kind", .str l.kind), ("phase", .str l.phase),
    ("target", .str l.target), ("data", .str l.data), ("value", .str l.value), ("cap", .str l.cap),
    ("amount", .str l.amount), ("symbol", .str l.symbol), ("weight_bps", .int l.weightBps)]

def reviewToDict (r : Review) : Json :=
  .obj [("agent", .str r.agent), ("verdict", .str r.verdict), ("note", .str r.note),
    ("at", t.json r.at_)]

def proposalToDict (p : ProposalRecord) : Json :=
  .obj [("id", .str p.id), ("proposer_agent", .str p.proposerAgent), ("thesis", .str p.thesis),
    ("legs", .arr (p.legs.map legToDict)), ("max_capital", .str p.maxCapital),
    ("max_drawdown_bps", .int p.maxDrawdownBps), ("bond_wood", .str p.bondWood),
    ("status", .str p.status.text), ("governor", .str p.governor), ("topic", .str p.topic),
    ("onchain_id", ofOption .int p.onchainId), ("propose_tx", .str p.proposeTx),
    ("strategy_duration", .int p.strategyDuration), ("backers", .arr (p.backers.map .str)),
    ("objectors", .arr (p.objectors.map .str)), ("reviews", .arr (p.reviews.map (reviewToDict t))),
    ("idea_by", .str p.ideaBy), ("card_message_id", .str p.cardMessageId),
    ("voting_ends_at", ofOption t.json p.votingEndsAt), ("against_bps", .int p.againstBps),
    ("review_ends_at", ofOption t.json p.reviewEndsAt),
    ("guardian_coverage", .str p.guardianCoverage),
    ("chain_synced_at", ofOption t.json p.chainSyncedAt),
    ("pitch_message_id", ofOption .int p.pitchMessageId),
    ("quote_usd_per_wood", .str p.quoteUsdPerWood),
    ("bond_buffer_status", .str p.bondBufferStatus), ("bond_buffer_note", .str p.bondBufferNote),
    ("shipped_at", ofOption t.json p.shippedAt), ("shipped_by", .str p.shippedBy),
    ("created_at", t.json p.createdAt), ("updated_at", t.json p.updatedAt)]

def receiptToDict (r : SettleReceipt) : Json :=
  .obj [("proposal_id", .str r.proposalId), ("agent", .str r.agent), ("asset", .str r.asset),
    ("pnl", .str r.pnl), ("pnl_bps", .int r.pnlBps), ("tx_hash", .str r.txHash),
    ("onchain_id", ofOption .int r.onchainId), ("idea_by", .str r.ideaBy),
    ("thesis", .str r.thesis), ("settled_at", t.json r.settledAt)]

/-- `FundState.to_dict`, as `asdict` builds it. -/
def toDict (s : FundState) : Fields :=
  [("fund", fundToDict t s.fund), ("members", .arr (s.members.map (memberToDict t))),
    ("agents", .arr (s.agents.map (agentToDict t))),
    ("claims", .arr (s.claims.map (claimToDict t))),
    ("proposals", .arr (s.proposals.map (proposalToDict t))),
    ("receipts", .arr (s.receipts.map (receiptToDict t))),
    ("schema_version", .int s.schemaVersion), ("revision", .int s.revision),
    ("next_proposal_seq", .int s.nextProposalSeq), ("next_member_no", .int s.nextMemberNo),
    ("updated_at", t.json s.updatedAt)]

end Encoders

section Decoders

/-- `Fund.from_dict`. -/
def fundFromDict (raw : Json) : Load Fund := do
  let d ← dictOf raw
  let maxDrawdownBps ← optInt "max_drawdown_bps" (Json.lookup "max_drawdown_bps" d)
  let agentFeeBps ← optInt "agent_fee_bps" (Json.lookup "agent_fee_bps" d)
  let cooldownUntil ← fieldOr "cooldown_until" none (orNone numberOf) d
  let maxCapital ← fieldOr "max_capital" none (orNone anyText) d
  let telegramChatId ← fieldOr "telegram_chat_id" "" textOf d
  let hostTelegramId ← fieldOr "host_telegram_id" "" textOf d
  let name ← field "name" text d
  let vault ← fieldOr "vault" "" text d
  let governor ← fieldOr "governor" "" text d
  let chainId ← fieldOr "chain_id" chainIdRobinhood integer d
  let asset ← fieldOr "asset" "USDG" text d
  let host ← fieldOr "host" "" text d
  let votingPeriod ← fieldOr "voting_period" defaultVotingPeriodSeconds integer d
  let vetoThresholdBps ← fieldOr "veto_threshold_bps" defaultVetoThresholdBps integer d
  let mode ← fieldOr "mode" "host" text d
  let cooldownPeriod ← fieldOr "cooldown_period" defaultCooldownSeconds integer d
  let createdAt ← fieldOr "created_at" 0 number d
  return { name, vault, governor, chainId, asset, host, hostTelegramId, telegramChatId,
           votingPeriod, vetoThresholdBps, mode, maxCapital, maxDrawdownBps, agentFeeBps,
           cooldownPeriod, cooldownUntil, createdAt }

/-- `Member.from_dict`. -/
def memberFromDict (raw : Json) : Load Member := do
  let d ← dictOf raw
  let telegramId ← fieldOr "telegram_id" "" anyText d
  let address ← fieldOr "address" "" text d
  let approved ← fieldOr "approved" false flag d
  let joinedAt ← fieldOr "joined_at" 0 number d
  let memberNo ← fieldOr "member_no" none (orNone integer) d
  let depositNo ← fieldOr "deposit_no" none (orNone integer) d
  let approvedAt ← fieldOr "approved_at" none (orNone number) d
  let approveTx ← fieldOr "approve_tx" "" text d
  let username ← fieldOr "username" "" text d
  return { telegramId, address, approved, joinedAt, memberNo, depositNo, approvedAt, approveTx,
           username }

/-- `BondPolicy.from_dict`. -/
def bondPolicyFromDict (raw : Json) : Load BondPolicy := do
  let d ← if raw.truthy then dictOf raw else .ok []
  let bondBps ← fieldOr "bond_bps" 100 integer d
  let approveBufferBps ← fieldOr "approve_buffer_bps" 500 integer d
  let requoteDriftBps ← fieldOr "requote_drift_bps" 500 integer d
  let swapGapFrom ← fieldOr "swap_gap_from" "USDG" text d
  return { bondBps, approveBufferBps, requoteDriftBps, swapGapFrom }

/-- `Agent.from_dict`. -/
def agentFromDict (raw : Json) : Load Agent := do
  let d ← dictOf raw
  let bondPolicy ← bondPolicyFromDict (Json.lookup "bond_policy" d)
  let identityId ← fieldOr "identity_id" "" anyText d
  let name ← field "name" text d
  let address ← fieldOr "address" "" text d
  let role ← fieldOr "role" "guest" text d
  let approved ← fieldOr "approved" false flag d
  let registered ← fieldOr "registered" false flag d
  let ownerTelegramId ← fieldOr "owner_telegram_id" "" text d
  let requestedAt ← fieldOr "requested_at" 0 number d
  let approvedAt ← fieldOr "approved_at" none (orNone number) d
  let registeredAt ← fieldOr "registered_at" none (orNone number) d
  let registerTx ← fieldOr "register_tx" "" text d
  let removed ← fieldOr "removed" false flag d
  let removedAt ← fieldOr "removed_at" none (orNone number) d
  return { name, identityId, address, role, approved, registered, bondPolicy, ownerTelegramId,
           requestedAt, approvedAt, registeredAt, registerTx, removed, removedAt }

/-- `Claim.from_dict`. -/
def claimFromDict (raw : Json) : Load Claim := do
  let d ← dictOf raw
  let agent ← field "agent" text d
  let topic ← field "topic" text d
  let expiresAt ← field "expires_at" number d
  let createdAt ← fieldOr "created_at" 0 number d
  let ideaBy ← fieldOr "idea_by" "" text d
  let pitch ← fieldOr "pitch" "" text d
  let chatId ← fieldOr "chat_id" "" text d
  let sourceMessageId ← fieldOr "source_message_id" none (orNone integer) d
  return { agent, topic, expiresAt, createdAt, ideaBy, pitch, chatId, sourceMessageId }

/-- `Leg.from_dict`; a plain string is a leg's summary. -/
def legFromDict : Json → Load Leg
  | .str raw => .ok { summary := raw }
  | raw => do
      let d ← dictOf raw
      let value ← fieldOr "value" "0" textOf d
      let cap ← fieldOr "cap" "0" textOf d
      let amount ← fieldOr "amount" "" textOf d
      let summary ← fieldOr "summary" "" text d
      let weightBps ← fieldOr "weight_bps" 0 integerOf d
      let kind ← fieldOr "kind" "call" text d
      let phase ← fieldOr "phase" "execute" text d
      let target ← fieldOr "target" "" text d
      let data ← fieldOr "data" "" text d
      let symbol ← fieldOr "symbol" "" text d
      return { summary, kind, phase, target, data, value, cap, amount, symbol, weightBps }

/-- `Review.from_dict`. -/
def reviewFromDict (raw : Json) : Load Review := do
  let d ← dictOf raw
  let agent ← field "agent" text d
  let verdict ← field "verdict" text d
  let note ← fieldOr "note" "" text d
  let at_ ← fieldOr "at" 0 number d
  return { agent, verdict, note, at_ }

/-- `ProposalRecord.from_dict`. -/
def proposalFromDict (raw : Json) : Load ProposalRecord := do
  let d ← dictOf raw
  let legs ← fieldOr "legs" [] (each legFromDict) d
  let reviews ← fieldOr "reviews" [] (each reviewFromDict) d
  let backers ← fieldOr "backers" [] (each (anyText "backers")) d
  let objectors ← fieldOr "objectors" [] (each (anyText "objectors")) d
  let onchainId ← optInt "onchain_id" (Json.lookup "onchain_id" d)
  let pitchMessageId ← optInt "pitch_message_id" (Json.lookup "pitch_message_id" d)
  let againstBps ← fieldOr "against_bps" 0 integerOf d
  let maxCapital ← fieldOr "max_capital" "0" anyText d
  let bondWood ← fieldOr "bond_wood" "0" anyText d
  let id ← field "id" text d
  let proposerAgent ← field "proposer_agent" text d
  let thesis ← field "thesis" text d
  let maxDrawdownBps ← fieldOr "max_drawdown_bps" 0 integer d
  let status ← fieldOr "status" "draft" text d
  let governor ← fieldOr "governor" "" text d
  let topic ← fieldOr "topic" "" text d
  let proposeTx ← fieldOr "propose_tx" "" text d
  let strategyDuration ← fieldOr "strategy_duration" 0 integer d
  let ideaBy ← fieldOr "idea_by" "" text d
  let cardMessageId ← fieldOr "card_message_id" "" text d
  let votingEndsAt ← fieldOr "voting_ends_at" none (orNone number) d
  let reviewEndsAt ← fieldOr "review_ends_at" none (orNone number) d
  let guardianCoverage ← fieldOr "guardian_coverage" "" text d
  let chainSyncedAt ← fieldOr "chain_synced_at" none (orNone number) d
  let quoteUsdPerWood ← fieldOr "quote_usd_per_wood" "" text d
  let bondBufferStatus ← fieldOr "bond_buffer_status" "" text d
  let bondBufferNote ← fieldOr "bond_buffer_note" "" text d
  let shippedAt ← fieldOr "shipped_at" none (orNone number) d
  let shippedBy ← fieldOr "shipped_by" "" text d
  let createdAt ← fieldOr "created_at" 0 number d
  let updatedAt ← fieldOr "updated_at" 0 number d
  return { id, proposerAgent, thesis, legs, maxCapital, maxDrawdownBps, bondWood,
           status := Status.ofText status, governor, topic, onchainId, proposeTx, strategyDuration,
           backers, objectors, reviews, ideaBy, cardMessageId, votingEndsAt, againstBps,
           reviewEndsAt, guardianCoverage, chainSyncedAt, pitchMessageId, quoteUsdPerWood,
           bondBufferStatus, bondBufferNote, shippedAt, shippedBy, createdAt, updatedAt }

/-- `SettleReceipt.from_dict`. -/
def receiptFromDict (raw : Json) : Load SettleReceipt := do
  let d ← dictOf raw
  let pnl ← fieldOr "pnl" "0" anyText d
  let onchainId ← optInt "onchain_id" (Json.lookup "onchain_id" d)
  let proposalId ← field "proposal_id" text d
  let agent ← field "agent" text d
  let asset ← field "asset" text d
  let pnlBps ← fieldOr "pnl_bps" 0 integer d
  let txHash ← fieldOr "tx_hash" "" text d
  let ideaBy ← fieldOr "idea_by" "" text d
  let thesis ← fieldOr "thesis" "" text d
  let settledAt ← fieldOr "settled_at" 0 number d
  return { proposalId, agent, asset, pnl, pnlBps, txHash, onchainId, ideaBy, thesis, settledAt }

/-- `FundState.from_dict`. -/
def fromDict (raw : Fields) : Load FundState := do
  let fund ← field "fund" (fun _ => fundFromDict) raw
  let members ← loadList memberFromDict "members" (Json.lookup "members" raw)
  let agents ← loadList agentFromDict "agents" (Json.lookup "agents" raw)
  let claims ← loadList claimFromDict "claims" (Json.lookup "claims" raw)
  let proposals ← loadList proposalFromDict "proposals" (Json.lookup "proposals" raw)
  let receipts ← loadList receiptFromDict "receipts" (Json.lookup "receipts" raw)
  let schemaVersion ← fieldOr "schema_version" 1 anyInteger raw
  let revision ← fieldOr "revision" 0 anyInteger raw
  let nextProposalSeq ← fieldOr "next_proposal_seq" 1 anyInteger raw
  let nextMemberNo ← fieldOr "next_member_no" 1 anyInteger raw
  let updatedAt ← fieldOr "updated_at" 0 numberOf raw
  return { fund, members, agents, claims, proposals, receipts, schemaVersion, revision,
           nextProposalSeq, nextMemberNo, updatedAt }

end Decoders

end SherwoodMonitor.StateCodec
