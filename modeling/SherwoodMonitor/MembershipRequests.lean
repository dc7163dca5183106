import SherwoodMonitor.MemberRecords

/-! What a membership request touches. A request that comes with a wallet may find the record of
somebody else by it, and a wallet that is filled in is not looked up first. -/
namespace SherwoodMonitor.MembershipRequests
open PyText Lookup Models FundState Rules Service ChainCard Calls Effects FundWrites AtomicStore
  MemberRecords

variable {s s' s₀ : FundState} {who tid address username : String} {now : Time} {i : ℕ}
  {m r : Member}

/-! ### What writes to the members -/

/-- The operations that write member records. -/
def WritesMembers (a : Act) : Prop :=
  (∃ tid address username, a = .requestMembership tid address username) ∨
    ∃ actor who address tx caller, a = .approveMember actor who address tx caller

lemma members_mutate {a : Act} {r : a.Reply} (h : a.mutate now s = .ok (r, s')) :
    WritesMembers a ∨ s'.members = s.members ∧ s'.nextMemberNo = s.nextMemberNo := by
  cases a <;> dsimp only [Act.mutate] at h
  case requestMembership tid address username => exact Or.inl (Or.inl ⟨tid, address, username, rfl⟩)
  case approveMember actor who address tx caller =>
    exact Or.inl (Or.inr ⟨actor, who, address, tx, caller, rfl⟩)
  case requestAgent agent =>
    obtain ⟨-, -, ⟨i, old, -, -, -, rfl⟩ | ⟨i, old, -, -, -, -, rfl⟩ | ⟨-, -, rfl⟩⟩ :=
      requestAgent_ok h
    · exact Or.inr ⟨rfl, rfl⟩
    · exact Or.inr ⟨rfl, rfl⟩
    · exact Or.inr ⟨rfl, rfl⟩
  case approveAgent actor name tx caller =>
    obtain ⟨-, -, i, target, -, -, -, -, -, rfl⟩ := approveAgent_ok h
    exact Or.inr ⟨rfl, rfl⟩
  case removeAgent actor name caller =>
    obtain ⟨-, -, i, target, -, -, -, -, rfl⟩ := removeAgent_ok h
    exact Or.inr ⟨rfl, rfl⟩
  case claimTopic agent topic =>
    obtain ⟨-, ⟨j, mine, -, -, rfl⟩ | ⟨j, a, -, -, -, -, rfl⟩⟩ := claimTopic_ok h
    · exact Or.inr ⟨rfl, rfl⟩
    · exact Or.inr ⟨rfl, rfl⟩
  case releaseClaim agent topic =>
    obtain ⟨keep, rfl⟩ := releaseClaim_ok h
    exact Or.inr ⟨rfl, rfl⟩
  case requestDraft agent topic from_ =>
    obtain ⟨-, j, a, -, -, -, rfl⟩ := requestDraft_ok h
    exact Or.inr ⟨rfl, rfl⟩
  case draftProposal agent d =>
    obtain ⟨v, -, -, j, a, claim, -, -, rfl⟩ := draftProposal_ok h
    exact Or.inr ⟨rfl, rfl⟩
  case shipDraft pid caller =>
    obtain ⟨-, -, j, old, -, -, -, rfl⟩ := shipDraft_ok h
    exact Or.inr ⟨rfl, rfl⟩
  case setProposalStatus actor pid status note =>
    obtain ⟨j, old, -, -, -, -, -, rfl⟩ := setProposalStatus_ok h
    exact Or.inr ⟨rfl, rfl⟩
  case setChainState pid read =>
    obtain ⟨j, old, -, -, rfl⟩ := setChainState_ok h
    exact Or.inr ⟨rfl, rfl⟩
  case setCardMessage pid message =>
    obtain ⟨j, old, -, -, rfl⟩ := setCardMessage_ok h
    exact Or.inr ⟨rfl, rfl⟩
  case recordVote pid voter side kind note =>
    obtain ⟨j, old, -, rfl, -⟩ := recordVote_ok h
    exact Or.inr ⟨rfl, rfl⟩
  case recordSettle actor pid d =>
    obtain ⟨j, old, -, -, -, -, -, rfl⟩ := recordSettle_ok h
    exact Or.inr ⟨rfl, rfl⟩

/-- The records are the same up to their deposit numbers. -/
def SameMembers (before after : List Member) : Prop :=
  ∃ f : Member → Member, after = before.map f ∧ ∀ m, ∃ n, f m = { m with depositNo := n }

lemma SameMembers.rfl {members : List Member} : SameMembers members members :=
  ⟨id, by rw [List.map_id], fun m => ⟨m.depositNo, Eq.refl _⟩⟩

lemma depositedMember_eq (deposits : List (String × ℤ)) (m : Member) :
    ∃ n, depositedMember deposits m = { m with depositNo := n } := by
  rw [depositedMember]
  split_ifs
  · exact ⟨m.depositNo, Eq.refl _⟩
  · cases deposits.find? (·.1 = lower m.address) with
    | some e => exact ⟨some e.2, Eq.refl _⟩
    | none => exact ⟨m.depositNo, Eq.refl _⟩

/-- A write other than a request or an approval of a member leaves the members. -/
lemma members_exec {w : Write} {r : w.Reply} (h : w.exec s = .ok (r, s')) :
    (∃ a clock, w = .op ⟨.act a, clock⟩ ∧ WritesMembers a) ∨
      SameMembers s.members s'.members ∧ s'.nextMemberNo = s.nextMemberNo := by
  rcases frame_of_exec h with ⟨⟨u, clock⟩, rfl⟩ | ⟨-, -, -, -, hmembers, -, hnext⟩
  · obtain ⟨mid, hm, rfl⟩ := Op.exec_ok h
    cases u with
    | act a =>
      rcases members_mutate hm with ha | ⟨hmembers, hnext⟩
      · exact Or.inl ⟨a, clock, rfl, ha⟩
      · exact Or.inr ⟨by rw [bump, hmembers]; exact .rfl, hnext⟩
    | cardFund card =>
      obtain ⟨period, veto, till, -, -, -, rfl⟩ := cardFund_ok hm
      exact Or.inr ⟨⟨depositedMember card.depositOrder, rfl, depositedMember_eq _⟩, rfl⟩
    | chainStatus pid status =>
      obtain ⟨j, old, -, -, rfl⟩ := chainStatus_ok hm
      exact Or.inr ⟨.rfl, rfl⟩
  · exact Or.inr ⟨by rw [hmembers]; exact .rfl, hnext⟩

/-! ### One request -/

/-- The two records do not have one wallet, up to case. -/
def Apart (m r : Member) : Prop :=
  m.address ≠ "" → r.address ≠ "" → lower m.address ≠ lower r.address

lemma Apart.symm (h : Apart m r) : Apart r m := fun hr hm => (h hm hr).symm

def WalletsDistinct (members : List Member) : Prop := members.Pairwise Apart

/-- No record has the wallet yet. -/
def FreshWallet (s : FundState) (address : String) : Prop :=
  ∀ m ∈ s.members, m.address ≠ "" → lower m.address ≠ lower address

/-- The request touched the requester's record only. -/
structure OnlyRequester (s s' : FundState) (tid : String) (r : Member) : Prop where
  lookup : (s'.member tid).map (·.2) = some r
  frame : ∀ (i : ℕ) (m : Member), s.members[i]? = some m → m.telegramId ≠ "" → m.telegramId ≠ tid →
    s'.members[i]? = some m
  wallets : WalletsDistinct s'.members

/-- The record is found under its own telegram id, or neither the id nor the wallet is known; a
wallet to fill in is nobody's yet. -/
def RequestMeets (s : FundState) (tid address : String) : Prop :=
  (∃ i m, s.member tid = some (i, m) ∧ m.telegramId = tid ∧
      (address ≠ "" → m.address = "" → FreshWallet s address)) ∨
    memberFor s tid address = none ∧ tid ≠ "" ∧ strip tid = tid ∧
      (address ≠ "" → FreshWallet s address)

lemma FreshWallet.apart {b : Member} (h : FreshWallet s address) (hr : r.address = address)
    (hb : b ∈ s.members) : Apart r b := by
  intro _ hne
  rw [hr]
  exact (h b hb hne).symm

lemma walletsDistinct_set {members : List Member} (hs : WalletsDistinct s.members)
    (hslot : Slot s i m members)
    (hr : ∀ j b, j ≠ i → s.members[j]? = some b → Apart r b) :
    WalletsDistinct (members.set i r) := by
  have hget : ∀ j b, (members.set i r)[j]? = some b → j = i ∧ b = r ∨
      j ≠ i ∧ s.members[j]? = some b := by
    intro j b hb
    rcases eq_or_ne j i with rfl | hj
    · rw [hslot.self] at hb
      exact Or.inl ⟨rfl, (Option.some.inj hb).symm⟩
    · rw [hslot.other r hj] at hb
      exact Or.inr ⟨hj, hb⟩
  rw [WalletsDistinct, List.pairwise_iff_getElem]
  intro j k hj hk hjk
  rcases hget j _ (List.getElem?_eq_getElem hj) with ⟨rfl, ha⟩ | ⟨hji, ha⟩
  · rcases hget k _ (List.getElem?_eq_getElem hk) with ⟨rfl, -⟩ | ⟨hki, hb⟩
    · omega
    · rw [ha]
      exact hr k _ hki hb
  · rcases hget k _ (List.getElem?_eq_getElem hk) with ⟨rfl, hb⟩ | ⟨hki, hb⟩
    · rw [hb]
      exact (hr j _ hji ha).symm
    · exact pairwise_getElem? (fun _ _ => Apart.symm) hs (by omega) ha hb

/-- A record written in its place is found there. -/
lemma member_set {members : List Member} (hslot : Slot s i m members) (hkey : lookupKey tid ≠ "")
    (hgoes : goesBy (lookupKey tid) r = true)
    (hfirst : ∀ j b, j < i → s.members[j]? = some b → goesBy (lookupKey tid) b = false) :
    ({ s with members := members.set i r } : FundState).member tid = some (i, r) := by
  rw [member_eq, if_neg hkey]
  refine locate_of_first (hslot.self r) hgoes fun j b hj hb => hfirst j b hj ?_
  rw [← hslot.other r hj.ne]
  exact hb

lemma lookupKey_ne_empty (hne : tid ≠ "") (hstrip : strip tid = tid) : lookupKey tid ≠ "" := by
  rw [lookupKey, hstrip]
  exact fun h => hne (lower_eq_empty h)

lemma withUsername_address (m : Member) (username : String) :
    (withUsername m username).address = m.address := by
  rw [withUsername]
  split_ifs <;> rfl

lemma withUsername_telegramId (m : Member) (username : String) :
    (withUsername m username).telegramId = m.telegramId := by
  rw [withUsername]
  split_ifs <;> rfl

lemma withAddress_telegramId (m : Member) (address : String) :
    (withAddress m address).telegramId = m.telegramId := by
  rw [withAddress]
  split_ifs <;> rfl

theorem onlyRequester_of_meets (hs : WalletsDistinct s.members)
    (hmeets : RequestMeets s tid address)
    (h : requestMembership tid address username now s = .ok (r, s')) :
    OnlyRequester s s' tid r := by
  obtain ⟨i, m, members, hslotFor, hr, rfl⟩ := requestMembership_ok h
  have hslot := slot_slotFor hslotFor
  have htid : r.telegramId = m.telegramId := by
    rw [hr, withUsername_telegramId, withAddress_telegramId]
  have haddress : r.address = if m.address = "" then address else m.address := by
    rw [hr, withUsername_address, withAddress_address]
  rcases hmeets with ⟨j, m', hfound, hown, hfresh⟩ | ⟨hnone, hne, hstrip, hfresh⟩
  · have hfor : memberFor s tid address = some (j, m') := by rw [memberFor, hfound]; rfl
    rw [hfor] at hslotFor
    obtain ⟨rfl, rfl, rfl⟩ : j = i ∧ m' = m ∧ s.members = members := by
      simpa [slotFor] using hslotFor
    have hget := member_getElem? hfound
    have hkey : lookupKey tid ≠ "" := fun hkey => by rw [member_eq, if_pos hkey] at hfound; cases hfound
    have hgoes : goesBy (lookupKey tid) r = true := by
      rw [goesBy_iff, htid]
      refine (goesBy_iff.1 (member_goesBy hfound)).imp_right fun hwallet => ?_
      rw [haddress, if_neg hwallet.1]
      exact hwallet
    refine ⟨?_, ?_, ?_⟩
    · rw [member_set hslot hkey hgoes fun k b hk hb => ?_]
      · rfl
      · rw [member_eq, if_neg hkey] at hfound
        exact locate_first hfound hk hb
    · intro k b hb _ hother
      have hk : k ≠ j := by
        rintro rfl
        rw [hget] at hb
        rw [← Option.some.inj hb] at hother
        exact hother hown
      exact (hslot.other r hk).trans hb
    · refine walletsDistinct_set hs hslot fun k b hk hb => ?_
      by_cases hempty : m'.address = ""
      · rw [if_pos hempty] at haddress
        by_cases hpassed : address = ""
        · exact fun hne => absurd (haddress.trans hpassed) hne
        · exact (hfresh hpassed hempty).apart haddress (List.mem_of_getElem? hb)
      · rw [if_neg hempty] at haddress
        have hold := pairwise_getElem? (fun _ _ => Apart.symm) hs hk.symm hget hb
        rw [Apart, haddress]
        exact hold
  · rw [hnone] at hslotFor
    obtain ⟨rfl, rfl, rfl⟩ : s.members.length = i ∧
        ({ telegramId := tid, joinedAt := now } : Member) = m ∧
          s.members ++ [{ telegramId := tid, joinedAt := now }] = members := by
      simpa [slotFor] using hslotFor
    have hkey := lookupKey_ne_empty hne hstrip
    have hgoes : goesBy (lookupKey tid) r = true := by
      rw [goesBy_iff, htid, lookupKey, hstrip]
      exact Or.inl rfl
    have hunknown := (memberFor_eq_none.1 hnone).1
    rw [member_eq, if_neg hkey, locate_eq_none] at hunknown
    refine ⟨?_, ?_, ?_⟩
    · rw [member_set hslot hkey hgoes fun k b _ hb => hunknown b (List.mem_of_getElem? hb)]
      rfl
    · intro k b hb _ _
      have hk : k ≠ s.members.length := (List.getElem?_eq_some_iff.1 hb).1.ne
      exact (hslot.other r hk).trans hb
    · refine walletsDistinct_set hs hslot fun k b hk hb => ?_
      rw [if_pos rfl] at haddress
      by_cases hpassed : address = ""
      · exact fun hne => absurd (haddress.trans hpassed) hne
      · exact (hfresh hpassed).apart haddress (List.mem_of_getElem? hb)

/-! ### Runs -/

/-- The wallet that an approval fills in or makes a new record for is nobody's yet. -/
structure ApprovalMeets (s : FundState) (who address : String) : Prop where
  found : ∀ i m, memberFor s who address = some (i, m) → address ≠ "" → m.address = "" →
    FreshWallet s address
  newWallet : memberFor s who address = none → isAddress who = true → FreshWallet s who
  newId : memberFor s who address = none → isAddress who = false → FreshWallet s address

def ActMeets (s : FundState) : Act → Prop
  | .requestMembership tid address _ => RequestMeets s tid address
  | .approveMember _ who address _ _ => ApprovalMeets s who address
  | _ => True

def WriteMeets (s : FundState) (w : Write) : Prop :=
  ∀ a clock, w = .op ⟨.act a, clock⟩ → ActMeets s a

lemma walletsDistinct_approve {actor tx : String} {caller : Option String}
    {r : Member × DepositorBody} (hs : WalletsDistinct s.members)
    (hmeets : ApprovalMeets s who address)
    (h : approveMember actor who address tx caller now s = .ok (r, s')) :
    WalletsDistinct s'.members := by
  obtain ⟨i, m, members, hslot, -, hr, -, rfl⟩ := approveMember_slot h
  have haddress : r.1.address = if m.address = "" then address else m.address := by
    rw [hr, ← withAddress_address]
    rfl
  refine walletsDistinct_set hs (slot_approvalSlot hslot) fun j b hj hb => ?_
  have hmem := List.mem_of_getElem? hb
  rcases approvalSlot_cases hslot with ⟨hfor, rfl⟩ | ⟨hnone, -, -, ⟨hwho, rfl⟩ | ⟨hwho, hne, rfl⟩⟩
  · by_cases hempty : m.address = ""
    · rw [if_pos hempty] at haddress
      by_cases hpassed : address = ""
      · exact fun hne => absurd (haddress.trans hpassed) hne
      · exact (hmeets.found i m hfor hpassed hempty).apart haddress hmem
    · rw [if_neg hempty] at haddress
      rw [Apart, haddress]
      exact pairwise_getElem? (fun _ _ => Apart.symm) hs hj.symm (memberFor_getElem? hfor) hb
  · have hne : who ≠ "" := by
      rintro rfl
      rw [isAddress_empty] at hwho
      cases hwho
    exact (hmeets.newWallet hnone hwho).apart (haddress.trans (if_neg hne)) hmem
  · exact (hmeets.newId hnone hwho).apart (haddress.trans (if_neg hne)) hmem

lemma SameMembers.walletsDistinct {before after : List Member} (h : SameMembers before after)
    (hs : WalletsDistinct before) : WalletsDistinct after := by
  obtain ⟨f, rfl, hf⟩ := h
  have haddress : ∀ m, (f m).address = m.address := by
    intro m
    obtain ⟨n, hn⟩ := hf m
    rw [hn]
  refine hs.map f fun a b hab => ?_
  rw [Apart, haddress, haddress]
  exact hab

lemma walletsDistinct_next {w : Write} (hs : WalletsDistinct s.members) (hmeets : WriteMeets s w) :
    WalletsDistinct (writeStore.next w s).members := by
  refine @Interface.next_preserves _ _ writeStore (fun s => WalletsDistinct s.members) _ _ hs
    fun reply s' h => ?_
  rcases members_exec h with ⟨a, clock, rfl, ha⟩ | ⟨hsame, -⟩
  · have hact := hmeets a clock rfl
    obtain ⟨mid, hm, rfl⟩ := Op.exec_ok h
    have hmid : WalletsDistinct mid.members := by
      rcases ha with ⟨tid, address, username, rfl⟩ | ⟨actor, who, address, tx, caller, rfl⟩ <;>
        dsimp only [Update.mutate, Act.mutate, ActMeets] at hm hact
      · exact (onlyRequester_of_meets hs hact hm).wallets
      · exact walletsDistinct_approve hs hact hm
    exact hmid
  · exact hsame.walletsDistinct hs

lemma walletsDistinct_runOps {writes : List Write} (hs : WalletsDistinct s.members)
    (hmeets : ∀ pre w post, writes = pre ++ w :: post → WriteMeets (writeStore.runOps pre s) w) :
    WalletsDistinct (writeStore.runOps writes s).members := by
  induction writes generalizing s with
  | nil => exact hs
  | cons w writes ih =>
    refine ih (walletsDistinct_next hs (hmeets [] w writes rfl)) ?_
    rintro pre v post rfl
    exact hmeets (w :: pre) v post rfl

/-- In a run from a new fund where every request and approval meets the condition, each request
touches the requester's record only. -/
theorem requests_touch_requester {fund : Fund} {host : Agent} {stamp : Time}
    (hcreate : createFund fund host now stamp = .ok s₀) {writes : List Write}
    (hmeets : ∀ pre w post, writes = pre ++ w :: post → WriteMeets (writeStore.runOps pre s₀) w)
    {pre post : List Write} {clock : Clock}
    (hwrites : writes = pre ++ .op ⟨.act (.requestMembership tid address username), clock⟩ :: post)
    (h : requestMembership tid address username clock.now (writeStore.runOps pre s₀) =
      .ok (r, s')) :
    OnlyRequester (writeStore.runOps pre s₀) s' tid r := by
  have hnew : WalletsDistinct s₀.members := by
    simp only [createFund, bind_eq_ok, pure_eq_ok] at hcreate
    obtain ⟨-, -, name, -, rfl⟩ := hcreate
    exact List.Pairwise.nil
  refine onlyRequester_of_meets (walletsDistinct_runOps hnew ?_)
    (hmeets pre _ post hwrites _ clock rfl) h
  rintro before w after rfl
  exact hmeets before w (after ++ .op ⟨.act (.requestMembership tid address username), clock⟩ :: post)
    (by simp [hwrites])

def joinWrite (tid address username : String) : Write :=
  .op ⟨.act (.requestMembership tid address username), ⟨2000, 2000⟩⟩

def oneJoin : FundState := writeStore.runOps [joinWrite "42" walletA "ana"] sampleState

lemma requestMeets_of_unknown (h : memberFor s tid address = none) (hne : tid ≠ "")
    (hstrip : strip tid = tid) (hfresh : FreshWallet s address) : RequestMeets s tid address :=
  Or.inr ⟨h, hne, hstrip, fun _ => hfresh⟩

lemma writeMeets_join (h : RequestMeets s tid address) : WriteMeets s (joinWrite tid address username) := by
  rintro a clock ⟨⟩
  exact h

/-- A second person asks with a wallet of its own. -/
theorem requests_touch_requester_second :
    ∃ r s', requestMembership "7" walletB "bo" 2000 oneJoin = .ok (r, s') ∧
      OnlyRequester oneJoin s' "7" r := by
  have hok : (requestMembership "7" walletB "bo" 2000 oneJoin).toOption.isSome = true := by
    decide +kernel
  have hwrites : [joinWrite "42" walletA "ana", joinWrite "7" walletB "bo"] =
      [joinWrite "42" walletA "ana"] ++ joinWrite "7" walletB "bo" :: [] := rfl
  have hfirst : RequestMeets sampleState "42" walletA :=
    requestMeets_of_unknown (by decide +kernel) (by decide) (by decide)
      fun m hm => absurd hm List.not_mem_nil
  have hsecond : RequestMeets oneJoin "7" walletB :=
    requestMeets_of_unknown (by decide +kernel) (by decide) (by decide)
      (by unfold FreshWallet; decide +kernel)
  cases h : requestMembership "7" walletB "bo" 2000 oneJoin with
  | error e =>
    rw [h] at hok
    cases hok
  | ok found =>
    obtain ⟨r, s'⟩ := found
    refine ⟨r, s', rfl, requests_touch_requester createFund_sample ?_ hwrites h⟩
    intro pre w post heq
    match pre with
    | [] =>
      obtain ⟨rfl, -⟩ := List.cons.inj heq
      exact writeMeets_join hfirst
    | [_] =>
      obtain ⟨rfl, htail⟩ := List.cons.inj heq
      obtain ⟨rfl, -⟩ := List.cons.inj htail
      exact writeMeets_join hsecond
    | _ :: _ :: _ =>
      have hlength := congrArg List.length heq
      simp at hlength

/-- A request with the wallet of another member renames that member and is not found by its own id;
one that fills a wallet in later takes the wallet of another member. -/
theorem requests_touch_others :
    ((requestMembership "99" walletA "eve" 2000 oneJoin).map fun p =>
        ((p.1.telegramId, p.1.username), (p.2.member "99").isNone)) =
      .ok (("42", "eve"), true) ∧
    ((writeStore.runOps [joinWrite "7" "" "bo", joinWrite "7" walletA ""] oneJoin).members.map
        (·.address)) = [walletA, walletA] := by
  decide +kernel

end SherwoodMonitor.MembershipRequests
