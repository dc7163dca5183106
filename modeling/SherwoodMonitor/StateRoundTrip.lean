import SherwoodMonitor.StateCodec

/-! A fund's state reads back from its JSON form, whatever keys a file has besides. -/
namespace SherwoodMonitor.StateRoundTrip
open PyText PyJson JsonRecords Models ChainCard StateCodec

/-! ### The keys each record declares -/

def fundKeys : List String :=
  ["name", "vault", "governor", "chain_id", "asset", "host", "host_telegram_id",
   "telegram_chat_id", "voting_period", "veto_threshold_bps", "mode", "max_capital",
   "max_drawdown_bps", "agent_fee_bps", "cooldown_period", "cooldown_until", "created_at"]

def memberKeys : List String :=
  ["telegram_id", "address", "approved", "joined_at", "member_no", "deposit_no", "approved_at",
   "approve_tx", "username"]

def bondPolicyKeys : List String :=
  ["bond_bps", "approve_buffer_bps", "requote_drift_bps", "swap_gap_from"]

/-- All but `bond_policy`, a record of its own. -/
def agentKeys : List String :=
  ["name", "identity_id", "address", "role", "approved", "registered", "owner_telegram_id",
   "requested_at", "approved_at", "registered_at", "register_tx", "removed", "removed_at"]

def claimKeys : List String :=
  ["agent", "topic", "expires_at", "created_at", "idea_by", "pitch", "chat_id",
   "source_message_id"]

def legKeys : List String :=
  ["summary", "kind", "phase", "target", "data", "value", "cap", "amount", "symbol",
   "weight_bps"]

def reviewKeys : List String := ["agent", "verdict", "note", "at"]

/-- All but `legs` and `reviews`, lists of records. -/
def proposalKeys : List String :=
  ["id", "proposer_agent", "thesis", "max_capital", "max_drawdown_bps", "bond_wood", "status",
   "governor", "topic", "onchain_id", "propose_tx", "strategy_duration", "backers", "objectors",
   "idea_by", "card_message_id", "voting_ends_at", "against_bps", "review_ends_at",
   "guardian_coverage", "chain_synced_at", "pitch_message_id", "quote_usd_per_wood",
   "bond_buffer_status", "bond_buffer_note", "shipped_at", "shipped_by", "created_at",
   "updated_at"]

def receiptKeys : List String :=
  ["proposal_id", "agent", "asset", "pnl", "pnl_bps", "tx_hash", "onchain_id", "idea_by",
   "thesis", "settled_at"]

/-- All but the fund and the five lists of records. -/
def stateKeys : List String :=
  ["schema_version", "revision", "next_proposal_seq", "next_member_no", "updated_at"]

def sameFund : Same := record (plain fundKeys)
def sameMember : Same := record (plain memberKeys)
def sameBondPolicy : Same := record (plain bondPolicyKeys)
def sameAgent : Same := record (("bond_policy", sameBondPolicy) :: plain agentKeys)
def sameClaim : Same := record (plain claimKeys)
def sameLeg : Same := record (plain legKeys)
def sameReview : Same := record (plain reviewKeys)
def sameProposal : Same :=
  record (("legs", items sameLeg) :: ("reviews", items sameReview) :: plain proposalKeys)
def sameReceipt : Same := record (plain receiptKeys)

/-- The JSON value holds the same fund state: at every level its entries under the declared keys
are those of the other, and there may be any other keys. -/
def sameState : Same :=
  record (("fund", sameFund) :: ("members", items sameMember) :: ("agents", items sameAgent) ::
    ("claims", items sameClaim) :: ("proposals", items sameProposal) ::
    ("receipts", items sameReceipt) :: plain stateKeys)

variable {t : NumberText floatLimit} {key : String}

/-! ### Coerced fields -/

@[simp] lemma numberOf_json (q : Time) : numberOf key (t.json q) = .ok q := by
  rcases t.spelled q with ⟨s, hs⟩ | ⟨n, hn, rfl, hlimit⟩
  · rw [hs]
    rfl
  · rw [hn, numberOf, if_neg (not_le.2 hlimit)]

@[simp] lemma orNone_numberOf (o : Option Time) :
    orNone numberOf key (ofOption t.json o) = .ok o :=
  t.orNone_ofOption numberOf_json o

@[simp] lemma optInt_ofOption (o : Option ℤ) : StateCodec.optInt key (ofOption .int o) = .ok o := by
  cases o with
  | none => rfl
  | some n => rfl

@[simp] lemma orNone_anyText (o : Option String) :
    (orNone anyText key (ofOption .str o) : Load (Option String)) = .ok o := by
  cases o with
  | none => rfl
  | some s => rfl

@[simp] lemma integerOf_int (n : ℤ) : integerOf key (.int n) = .ok n := rfl

@[simp] lemma anyInteger_int (n : ℤ) : anyInteger key (.int n) = .ok n := rfl
@[simp] lemma textOf_str (s : String) : textOf key (.str s) = .ok s := rfl
@[simp] lemma anyText_str (s : String) : anyText key (.str s) = .ok s := rfl
@[simp] lemma dictOf_obj (d : Fields) : dictOf (.obj d) = .ok d := rfl

@[simp] lemma each_texts (k : String) (ss : List String) :
    each (anyText k) key (.arr (ss.map .str)) = .ok ss := by
  have htexts : (ss.map Json.str).mapM (anyText k) = (.ok ss : Load (List String)) := by
    refine @mapM_of_items _ _ Eq Json.str _ (fun s v hv => ?_) ss _
      (List.forall₂_same.2 fun _ _ => rfl)
    rw [← hv]
    rfl
  rw [each, iterate, ok_bind, htexts]

lemma each_of_items (key : String) {α : Type} {same : Same} {write : α → Json}
    {read : Json → Load α} (hread : ∀ a v, same (write a) v → read v = .ok a) (as : List α) {v : Json}
    (h : items same (.arr (as.map write)) v) : each read key v = .ok as := by
  cases v with
  | arr vs =>
    rw [each, iterate, ok_bind]
    exact mapM_of_items hread as vs h
  | _ => cases h

lemma loadList_of_items (key : String) {α : Type} {same : Same} {write : α → Json}
    {read : Json → Load α} (hread : ∀ a v, same (write a) v → read v = .ok a) (as : List α) {v : Json}
    (h : items same (.arr (as.map write)) v) : loadList read key v = .ok as := by
  have heach := each_of_items key hread as h
  rw [loadList]
  split_ifs with htruthy
  · exact heach
  · cases v with
    | arr vs =>
      obtain rfl : vs = [] := by simpa [Json.truthy] using htruthy
      exact heach
    | _ => cases h

/-! ### One record -/

lemma fund_of_same (f : Fund) {j : Json} (h : sameFund (fundToDict t f) j) :
    fundFromDict j = .ok f := by
  obtain ⟨d, rfl⟩ := record_obj h
  have e := entry_of_plain h (List.Subset.refl _)
  simp (disch := decide) [fundFromDict, field, fieldOr, lookup_eq_entry, e]

lemma member_of_same (m : Member) {j : Json} (h : sameMember (memberToDict t m) j) :
    memberFromDict j = .ok m := by
  obtain ⟨d, rfl⟩ := record_obj h
  have e := entry_of_plain h (List.Subset.refl _)
  simp (disch := decide) [memberFromDict, fieldOr, e]

lemma bondPolicy_of_same (b : BondPolicy) {j : Json}
    (h : sameBondPolicy (bondPolicyToDict b) j) : bondPolicyFromDict j = .ok b := by
  obtain ⟨d, rfl⟩ := record_obj h
  have e := entry_of_plain h (List.Subset.refl _)
  have hd : (Json.obj d).truthy = true := by
    have hne : d ≠ [] := by
      rintro rfl
      have hkey := e "bond_bps" (by decide)
      simp [entry] at hkey
    simpa [Json.truthy] using hne
  simp (disch := decide) [bondPolicyFromDict, hd, fieldOr, e]

lemma agent_of_same (a : Agent) {j : Json} (h : sameAgent (agentToDict t a) j) :
    agentFromDict j = .ok a := by
  obtain ⟨d, rfl⟩ := record_obj h
  have e := @entry_of_plain _ _ agentKeys _ h (List.subset_cons_self _ _)
  obtain ⟨v, hv, hbond⟩ : ∃ v, entry "bond_policy" d = some v ∧
      sameBondPolicy (bondPolicyToDict a.bondPolicy) v :=
    entry_of_record h List.mem_cons_self (by simp (disch := decide))
  simp (disch := decide) [agentFromDict, field, fieldOr, lookup_of_entry hv,
    bondPolicy_of_same _ hbond, e]

lemma claim_of_same (c : Claim) {j : Json} (h : sameClaim (claimToDict t c) j) :
    claimFromDict j = .ok c := by
  obtain ⟨d, rfl⟩ := record_obj h
  have e := entry_of_plain h (List.Subset.refl _)
  simp (disch := decide) [claimFromDict, field, fieldOr, e]

lemma leg_of_same (l : Leg) {j : Json} (h : sameLeg (legToDict l) j) :
    legFromDict j = .ok l := by
  obtain ⟨d, rfl⟩ := record_obj h
  have e := entry_of_plain h (List.Subset.refl _)
  simp (disch := decide) [legFromDict, fieldOr, e]

lemma review_of_same (r : Review) {j : Json} (h : sameReview (reviewToDict t r) j) :
    reviewFromDict j = .ok r := by
  obtain ⟨d, rfl⟩ := record_obj h
  have e := entry_of_plain h (List.Subset.refl _)
  simp (disch := decide) [reviewFromDict, field, fieldOr, e]

lemma proposal_of_same (p : ProposalRecord) {j : Json} (h : sameProposal (proposalToDict t p) j) :
    proposalFromDict j = .ok p := by
  obtain ⟨d, rfl⟩ := record_obj h
  have e := @entry_of_plain _ _ proposalKeys _ h
    fun _ hf => List.mem_cons_of_mem _ (List.mem_cons_of_mem _ hf)
  obtain ⟨legs, hlegs, hsameLegs⟩ : ∃ v, entry "legs" d = some v ∧
      items sameLeg (.arr (p.legs.map legToDict)) v :=
    entry_of_record h List.mem_cons_self (by simp (disch := decide))
  obtain ⟨reviews, hreviews, hsameReviews⟩ : ∃ v, entry "reviews" d = some v ∧
      items sameReview (.arr (p.reviews.map (reviewToDict t))) v :=
    entry_of_record h (List.mem_cons_of_mem _ List.mem_cons_self) (by simp (disch := decide))
  have hreadLegs := each_of_items "legs" (fun l _ => leg_of_same l) p.legs hsameLegs
  have hreadReviews := each_of_items "reviews" (fun r _ => review_of_same r) p.reviews
    hsameReviews
  simp (disch := decide) [proposalFromDict, hlegs, hreviews, hreadLegs, hreadReviews, field, fieldOr, lookup_eq_entry, e, Status.ofText_text]

lemma receipt_of_same (r : SettleReceipt) {j : Json} (h : sameReceipt (receiptToDict t r) j) :
    receiptFromDict j = .ok r := by
  obtain ⟨d, rfl⟩ := record_obj h
  have e := entry_of_plain h (List.Subset.refl _)
  simp (disch := decide) [receiptFromDict, field, fieldOr, lookup_eq_entry, e]

/-! ### The whole state -/

lemma state_of_same (s : FundState) {d : Fields} (h : sameState (.obj (toDict t s)) (.obj d)) :
    fromDict d = .ok s := by
  have e := @entry_of_plain _ _ stateKeys _ h
    (List.subset_append_right [_, _, _, _, _, _] _)
  obtain ⟨fund, hfund, hsameFund⟩ : ∃ v, entry "fund" d = some v ∧
      sameFund (fundToDict t s.fund) v :=
    entry_of_record h (by simp) (by simp (disch := decide) [toDict])
  obtain ⟨members, hmembers, hsameMembers⟩ : ∃ v, entry "members" d = some v ∧
      items sameMember (.arr (s.members.map (memberToDict t))) v :=
    entry_of_record h (by simp) (by simp (disch := decide) [toDict])
  obtain ⟨agents, hagents, hsameAgents⟩ : ∃ v, entry "agents" d = some v ∧
      items sameAgent (.arr (s.agents.map (agentToDict t))) v :=
    entry_of_record h (by simp) (by simp (disch := decide) [toDict])
  obtain ⟨claims, hclaims, hsameClaims⟩ : ∃ v, entry "claims" d = some v ∧
      items sameClaim (.arr (s.claims.map (claimToDict t))) v :=
    entry_of_record h (by simp) (by simp (disch := decide) [toDict])
  obtain ⟨proposals, hproposals, hsameProposals⟩ : ∃ v, entry "proposals" d = some v ∧
      items sameProposal (.arr (s.proposals.map (proposalToDict t))) v :=
    entry_of_record h (by simp) (by simp (disch := decide) [toDict])
  obtain ⟨receipts, hreceipts, hsameReceipts⟩ : ∃ v, entry "receipts" d = some v ∧
      items sameReceipt (.arr (s.receipts.map (receiptToDict t))) v :=
    entry_of_record h (by simp) (by simp (disch := decide) [toDict])
  have hreadMembers := loadList_of_items "members" (fun m _ => member_of_same m)
    s.members hsameMembers
  have hreadAgents := loadList_of_items "agents" (fun a _ => agent_of_same a)
    s.agents hsameAgents
  have hreadClaims := loadList_of_items "claims" (fun c _ => claim_of_same c)
    s.claims hsameClaims
  have hreadProposals := loadList_of_items "proposals" (fun p _ => proposal_of_same p)
    s.proposals hsameProposals
  have hreadReceipts := loadList_of_items "receipts" (fun r _ => receipt_of_same r)
    s.receipts hsameReceipts
  simp (disch := decide) [fromDict, field, fieldOr, hfund, fund_of_same _ hsameFund,
    lookup_of_entry hmembers, hreadMembers, lookup_of_entry hagents, hreadAgents,
    lookup_of_entry hclaims, hreadClaims, lookup_of_entry hproposals, hreadProposals,
    lookup_of_entry hreceipts, hreadReceipts, e, toDict]

lemma sameState_refl (v : Json) : sameState v v := by
  have hplain : ∀ {keys : List String} (v : Json), record (plain keys) v v :=
    fun {keys} => record_refl (@plain_refl keys)
  have hagent : ∀ v, sameAgent v v := by
    refine record_refl fun f hf => ?_
    rcases List.mem_cons.1 hf with rfl | hf
    · exact hplain
    · exact plain_refl f hf
  have hproposal : ∀ v, sameProposal v v := by
    refine record_refl fun f hf => ?_
    rcases List.mem_cons.1 hf with rfl | hf
    · exact items_refl hplain
    · rcases List.mem_cons.1 hf with rfl | hf
      · exact items_refl hplain
      · exact plain_refl f hf
  refine record_refl (fun f hf => ?_) v
  simp only [List.mem_cons] at hf
  rcases hf with rfl | rfl | rfl | rfl | rfl | rfl | hf
  · exact hplain
  · exact items_refl hplain
  · exact items_refl hagent
  · exact items_refl hplain
  · exact items_refl hproposal
  · exact items_refl hplain
  · exact plain_refl f hf

/-- A state's encoding decodes to the state, and so does every value that differs from it in keys
no record declares, at any level. -/
theorem fromDict_toDict (t : NumberText floatLimit) (s : FundState) :
    fromDict (toDict t s) = .ok s ∧
      ∀ d, sameState (.obj (toDict t s)) (.obj d) → fromDict d = .ok s :=
  ⟨state_of_same s (sameState_refl _), fun _ => state_of_same s⟩

/-- Whole seconds are spelled as integers. -/
def wholeSeconds : NumberText floatLimit where
  json q := if q.den = 1 ∧ |q.num| < floatLimit then .int q.num else .float q (toString q)
  spelled q := by
    by_cases h : q.den = 1 ∧ |q.num| < floatLimit
    · exact .inr ⟨q.num, if_pos h, (Rat.den_eq_one_iff q).1 h.1 |>.symm, h.2⟩
    · exact .inl ⟨_, if_neg h⟩

def oneMember : FundState :=
  { fund := { name := "alpha" }, members := [{ telegramId := "7", joinedAt := 1000 }] }

/-- The file of a later version: it keeps a language for each member and a list of bans. -/
def newerFile : Fields :=
  let rest := (toDict wholeSeconds oneMember).drop 2
  let member := [("telegram_id", Json.str "7"), ("language", .str "es"), ("address", .str ""),
    ("approved", .bool false), ("joined_at", wholeSeconds.json 1000), ("member_no", .null),
    ("deposit_no", .null), ("approved_at", .null), ("approve_tx", .str ""), ("username", .str "")]
  ("bans", .arr []) :: ("fund", fundToDict wholeSeconds oneMember.fund) ::
    ("members", .arr [.obj member]) :: rest

theorem fromDict_newerFile : fromDict newerFile = .ok oneMember := by
  have hmember : sameMember (memberToDict wholeSeconds { telegramId := "7", joinedAt := 1000 })
      (.obj _) :=
    @record_insert _ _ [_] _ (record_refl plain_refl _) "language" (by decide) (.str "es")
  have hfund : sameFund (fundToDict wholeSeconds oneMember.fund)
      (fundToDict wholeSeconds oneMember.fund) := record_refl plain_refl _
  have hempty : ∀ same, items same (.arr []) (.arr []) := fun _ => .nil
  refine (fromDict_toDict wholeSeconds oneMember).2 newerFile fun f hf => .inr ?_
  simp only [List.mem_cons] at hf
  rcases hf with rfl | rfl | rfl | rfl | rfl | rfl | hf
  · exact ⟨_, _, rfl, rfl, hfund⟩
  · exact ⟨_, _, rfl, rfl, .cons hmember .nil⟩
  · exact ⟨_, _, rfl, rfl, hempty _⟩
  · exact ⟨_, _, rfl, rfl, hempty _⟩
  · exact ⟨_, _, rfl, rfl, hempty _⟩
  · exact ⟨_, _, rfl, rfl, hempty _⟩
  · obtain ⟨key, hkey, rfl⟩ := List.mem_map.1 hf
    simp only [stateKeys, List.mem_cons, List.not_mem_nil, or_false] at hkey
    rcases hkey with rfl | rfl | rfl | rfl | rfl
    all_goals exact ⟨_, _, rfl, rfl, rfl⟩

end SherwoodMonitor.StateRoundTrip
