import SherwoodMonitor.Records
import SherwoodMonitor.Library.Frames
import SherwoodMonitor.Library.PyNumber

/-! The blocks that the event handlers and the hooks put into the agent's next turn (`handlers.py`,
`hooks.py`). What they put into a block is put there as it is. -/
namespace SherwoodMonitor.EventBlocks
open PyText PyJson PyNumber Records Frames

def argLine (arg : Json × Json) : String := "  " ++ arg.1.toStr ++ ": " ++ arg.2.toStr

/-- `_format_chain_injection`. -/
def formatChainInjection (subdomain : String) (ev : ChainEvent) (priority : String) : String :=
  "<sherwood-event fund=\"" ++ subdomain ++ "\" source=\"chain\" type=\"" ++ ev.type ++
  "\" priority=\"" ++ priority ++ "\" block=\"" ++ toString ev.block ++ "\" tx=\"" ++ ev.tx ++
  "\">\n<args>\n" ++ "\n".intercalate (ev.args.map argLine) ++ "\n</args>\n</sherwood-event>"

/-- `_format_xmtp_injection`. -/
def formatXmtpInjection (subdomain : String) (msg : SessionMessage) (priority : String) : String :=
  "<sherwood-event fund=\"" ++ subdomain ++ "\" source=\"xmtp\" type=\"" ++ msg.type ++
  "\" priority=\"" ++ priority ++ "\" from=\"" ++ msg.from_ ++ "\" sentAt=\"" ++ msg.sentAt ++
  "\">\n" ++ msg.text ++ "\n</sherwood-event>"

/-- `_format_catchup_injection`, on the counts of the payload's `meta` and the payload's text. -/
def formatCatchupInjection (subdomain : String) (newMessages newEvents : Json) (dumped : String) :
    String :=
  "<sherwood-catchup fund=\"" ++ subdomain ++ "\">\n" ++ newMessages.toStr ++ " new messages, " ++
  newEvents.toStr ++ " new events since last check.\n" ++ dumped ++ "\n</sherwood-catchup>"

/-- What `build_record` gives that the block reads. -/
structure SettlementRecord where
  fund : String
  action : String
  proposalId : Json
  pnlUsd : Json
  txHash : Json

/-- `_format_settlement_block`. -/
def formatSettlementBlock (record : SettlementRecord) : String :=
  "<sherwood-settlement fund=\"" ++ record.fund ++ "\" action=\"" ++ record.action ++
  "\" proposal_id=\"" ++ record.proposalId.toStr ++ "\" pnl_usd=\"" ++ record.pnlUsd.toStr ++
  "\" tx=\"" ++ record.txHash.toStr ++
  "\">\nREMEMBER THIS — use the remember-settlement skill to persist it to memory.\n</sherwood-settlement>"

/-- What a block is made of. -/
inductive Source
  | chain (subdomain : String) (ev : ChainEvent) (priority : String)
  | xmtp (subdomain : String) (msg : SessionMessage) (priority : String)
  | catchup (subdomain : String) (newMessages newEvents : Json) (dumped : String)
  | settlement (record : SettlementRecord)

namespace Source

def text : Source → String
  | chain subdomain ev priority => formatChainInjection subdomain ev priority
  | xmtp subdomain msg priority => formatXmtpInjection subdomain msg priority
  | catchup subdomain newMessages newEvents dumped =>
      formatCatchupInjection subdomain newMessages newEvents dumped
  | settlement record => formatSettlementBlock record

/-- The name of the frame. -/
def tag : Source → String
  | chain .. => "sherwood-event"
  | xmtp .. => "sherwood-event"
  | catchup .. => "sherwood-catchup"
  | settlement _ => "sherwood-settlement"

/-- The texts that others wrote, as the block has them. -/
def fields : Source → List String
  | chain subdomain ev priority =>
      [subdomain, ev.type, priority, ev.tx] ++ ev.args.flatMap fun e => [e.1.toStr, e.2.toStr]
  | xmtp subdomain msg priority =>
      [subdomain, msg.type, priority, msg.from_, msg.sentAt, msg.text]
  | catchup subdomain newMessages newEvents dumped =>
      [subdomain, newMessages.toStr, newEvents.toStr, dumped]
  | settlement record =>
      [record.fund, record.action, record.proposalId.toStr, record.pnlUsd.toStr,
       record.txHash.toStr]

end Source

/-- How often a pattern occurs in a text. -/
def count (pattern : List Char) (s : String) : ℕ := occurrences pattern s.toList

/-- What an opening and a closing tag of the frame begin with. -/
def openMark (tag : String) : List Char := '<' :: tag.toList
def closeMark (tag : String) : List Char := '<' :: '/' :: tag.toList

variable {p : List Char}

lemma openMark_ofList (l : List Char) : openMark (String.ofList l) = '<' :: l := by
  rw [openMark, String.toList_ofList]

lemma closeMark_ofList (l : List Char) : closeMark (String.ofList l) = '<' :: '/' :: l := by
  rw [closeMark, String.toList_ofList]

-- the fixed texts are taken apart as character lists

lemma count_first {l : List Char} (hp : p ≠ []) (hends : Ends p l) (s : String) :
    count p (String.ofList l ++ s) = occurrences p l + count p s := by
  rw [count, String.toList_append, String.toList_ofList, occurrences_append_of_ends hp hends]
  rfl

lemma count_last {l : List Char} (hp : p ≠ []) (hstarts : Starts p l) (s : String) :
    count p (s ++ String.ofList l) = count p s + occurrences p l := by
  rw [count, String.toList_append, String.toList_ofList, occurrences_append_of_starts hp hstarts]
  rfl

lemma count_between {l : List Char} (hp : p ≠ []) (hstarts : Starts p l) (hends : Ends p l)
    (s t : String) : count p (s ++ String.ofList l ++ t) = count p s + occurrences p l + count p t := by
  have hends' : Ends p (s ++ String.ofList l).toList := by
    obtain ⟨a, ha, hfree⟩ := hends
    refine ⟨a, ?_, hfree⟩
    rw [String.toList_append, String.toList_ofList]
    rw [Option.mem_def] at ha ⊢
    rw [List.getLast?_append, ha]
    rfl
  rw [count, String.toList_append, occurrences_append_of_ends hp hends']
  exact congrArg (· + count p t) (count_last hp hstarts s)

lemma count_argLine (hp : p ≠ []) (hspace : ' ' ∉ p) (hcolon : ':' ∉ p) (arg : Json × Json) :
    count p (argLine arg) = count p arg.1.toStr + count p arg.2.toStr := by
  unfold argLine
  rw [count_between hp ⟨':', rfl, hcolon⟩ ⟨' ', rfl, hspace⟩, count_first hp ⟨' ', rfl, hspace⟩,
    occurrences_cons hp hspace, occurrences_cons hp hspace, occurrences_cons hp hcolon,
    occurrences_cons hp hspace]
  simp [occurrences, hp]

lemma count_argLines (hp : p ≠ []) (hspace : ' ' ∉ p) (hcolon : ':' ∉ p) (hline : '\n' ∉ p)
    (args : Args) : count p ("\n".intercalate (args.map argLine)) =
      ((args.flatMap fun e => [e.1.toStr, e.2.toStr]).map (count p)).sum := by
  rw [count, String.toList_intercalate, String.toList_ofList, occurrences_intercalate hp hline]
  induction args with
  | nil => rfl
  | cons arg args ih =>
    have harg := count_argLine hp hspace hcolon arg
    rw [count] at harg
    simp only [List.map_cons, List.sum_cons, List.flatMap_cons, List.map_append, List.sum_append,
      harg, ih]
    simp

/-- A number has no angle bracket. -/
lemma count_toString (l : List Char) (n : ℤ) : count ('<' :: l) (toString n) = 0 := by
  apply occurrences_eq_zero
  intro hmem
  cases n with
  | ofNat n =>
    rw [Int.ofNat_eq_natCast, toList_natCast] at hmem
    exact absurd (isDigit_of_mem hmem) (by decide)
  | negSucc n =>
    rw [toList_negSucc, List.mem_cons] at hmem
    rcases hmem with h | hmem
    · exact absurd h (by decide)
    · exact absurd (isDigit_of_mem hmem) (by decide)

lemma count_chain (hp : p = openMark "sherwood-event" ∨ p = closeMark "sherwood-event")
    (subdomain : String) (ev : ChainEvent) (priority : String) :
    count p (formatChainInjection subdomain ev priority) =
      1 + ((Source.chain subdomain ev priority).fields.map (count p)).sum := by
  rw [openMark_ofList, closeMark_ofList] at hp
  unfold formatChainInjection
  rcases hp with rfl | rfl
  all_goals
    rw [count_last, count_between, count_between, count_between, count_between, count_between,
      count_first, count_argLines, count_toString]
    · simp [Source.fields, occurrences]
      omega
    all_goals decide

lemma count_xmtp (hp : p = openMark "sherwood-event" ∨ p = closeMark "sherwood-event")
    (subdomain : String) (msg : SessionMessage) (priority : String) :
    count p (formatXmtpInjection subdomain msg priority) =
      1 + ((Source.xmtp subdomain msg priority).fields.map (count p)).sum := by
  rw [openMark_ofList, closeMark_ofList] at hp
  unfold formatXmtpInjection
  rcases hp with rfl | rfl
  all_goals
    rw [count_last, count_between, count_between, count_between, count_between, count_between,
      count_first]
    · simp [Source.fields, occurrences]
      omega
    all_goals decide

lemma count_catchup (hp : p = openMark "sherwood-catchup" ∨ p = closeMark "sherwood-catchup")
    (subdomain : String) (newMessages newEvents : Json) (dumped : String) :
    count p (formatCatchupInjection subdomain newMessages newEvents dumped) =
      1 + ((Source.catchup subdomain newMessages newEvents dumped).fields.map (count p)).sum := by
  rw [openMark_ofList, closeMark_ofList] at hp
  unfold formatCatchupInjection
  rcases hp with rfl | rfl
  all_goals
    rw [count_last, count_between, count_between, count_between, count_first]
    · simp [Source.fields, occurrences]
      omega
    all_goals decide

lemma count_settlement
    (hp : p = openMark "sherwood-settlement" ∨ p = closeMark "sherwood-settlement")
    (record : SettlementRecord) : count p (formatSettlementBlock record) =
      1 + ((Source.settlement record).fields.map (count p)).sum := by
  rw [openMark_ofList, closeMark_ofList] at hp
  unfold formatSettlementBlock
  rcases hp with rfl | rfl
  all_goals
    rw [count_last, count_between, count_between, count_between, count_between, count_first]
    · simp [Source.fields, occurrences]
      omega
    all_goals decide

/-- A tag of the frame occurs once, and where a field has it. -/
lemma count_text {source : Source} (hp : p = openMark source.tag ∨ p = closeMark source.tag) :
    count p source.text = 1 + (source.fields.map (count p)).sum := by
  cases source with
  | chain subdomain ev priority => exact count_chain hp subdomain ev priority
  | xmtp subdomain msg priority => exact count_xmtp hp subdomain msg priority
  | catchup subdomain newMessages newEvents dumped =>
    exact count_catchup hp subdomain newMessages newEvents dumped
  | settlement record => exact count_settlement hp record

lemma count_text_eq_one_iff {source : Source}
    (hp : p = openMark source.tag ∨ p = closeMark source.tag) :
    count p source.text = 1 ↔ ∀ field ∈ source.fields, count p field = 0 := by
  rw [count_text hp, Nat.add_eq_left, List.sum_eq_zero_iff]
  simp

/-- A block has one opening and one closing tag of its frame exactly where no field that it quotes
has one. -/
theorem events_framed_iff (source : Source) :
    (count (openMark source.tag) source.text = 1 ∧ count (closeMark source.tag) source.text = 1) ↔
      ∀ field ∈ source.fields, count (openMark source.tag) field = 0 ∧
        count (closeMark source.tag) field = 0 := by
  rw [count_text_eq_one_iff (Or.inl rfl), count_text_eq_one_iff (Or.inr rfl)]
  constructor
  · intro h field hfield
    exact ⟨h.1 field hfield, h.2 field hfield⟩
  · intro h
    exact ⟨fun field hfield => (h field hfield).1, fun field hfield => (h field hfield).2⟩

end SherwoodMonitor.EventBlocks
