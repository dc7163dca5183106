import SherwoodMonitor.MembershipRequests

/-! The marks and reviews of a proposal. A mark is the telegram id of an approved member, or the
wallet of one without an id, and stays one: members are not unapproved and keep what they have. -/
namespace SherwoodMonitor.TallyIntegrity
open PyText Lookup Models FundState Rules Service Calls Effects FundWrites AtomicStore MemberRecords
  MembershipRequests

variable {s s' s₀ : FundState} {now : Time} {p p' : ProposalRecord} {x : String}

/-- An approved member goes by `x`. -/
def IsMark (members : List Member) (x : String) : Prop :=
  ∃ m ∈ members, m.approved = true ∧ (m.telegramId = x ∨ m.address = x ∧ x ≠ "")

structure TallyOk (members : List Member) (p : ProposalRecord) : Prop where
  backers : p.backers.Nodup
  objectors : p.objectors.Nodup
  disjoint : ∀ x ∈ p.backers, x ∉ p.objectors
  marks : ∀ x ∈ p.backers ++ p.objectors, IsMark members x
  reviews : p.reviews.Pairwise fun a b => lower a.agent ≠ lower b.agent
  others : ∀ r ∈ p.reviews, lower r.agent ≠ lower p.proposerAgent

def TalliesOk (s : FundState) : Prop := ∀ p ∈ s.proposals, TallyOk s.members p

/-! ### Members -/

/-- Approved members stay, with their ids and wallets. -/
def KeepsApproved (before after : List Member) : Prop :=
  ∀ m ∈ before, m.approved = true → ∃ m' ∈ after, m'.approved = true ∧
    m'.telegramId = m.telegramId ∧ (m.address ≠ "" → m'.address = m.address)

lemma KeepsApproved.isMark {before after : List Member} (h : KeepsApproved before after)
    (hx : IsMark before x) : IsMark after x := by
  obtain ⟨m, hm, happroved, hkey⟩ := hx
  obtain ⟨m', hm', happroved', htid, haddress⟩ := h m hm happroved
  refine ⟨m', hm', happroved', hkey.imp (fun h => htid.trans h) fun ⟨h, hne⟩ => ⟨?_, hne⟩⟩
  rw [haddress (h ▸ hne), h]

lemma KeepsApproved.rfl {members : List Member} : KeepsApproved members members :=
  fun m hm happroved => ⟨m, hm, happroved, Eq.refl _, fun _ => Eq.refl _⟩

lemma keepsApproved_of_same {before after : List Member} (h : SameMembers before after) :
    KeepsApproved before after := by
  obtain ⟨f, rfl, hf⟩ := h
  intro m hm happroved
  obtain ⟨n, hn⟩ := hf m
  exact ⟨f m, List.mem_map_of_mem hm, by rw [hn, ← happroved], by rw [hn], fun _ => by rw [hn]⟩

/-- A record written back keeps its id and its wallet, and is approved if it was. -/
lemma keepsApproved_set {i : ℕ} {m r : Member} {members : List Member} (hslot : Slot s i m members)
    (happroved : m.approved = true → r.approved = true) (htid : r.telegramId = m.telegramId)
    (haddress : m.address ≠ "" → r.address = m.address) :
    KeepsApproved s.members (members.set i r) := by
  intro b hb hbapproved
  obtain ⟨j, hj⟩ := List.getElem?_of_mem hb
  rcases eq_or_ne j i with rfl | hne
  · have hbm : b = m := by
      cases hslot with
      | found h => exact Option.some.inj (hj.symm.trans h)
      | fresh m => exact absurd (List.getElem?_eq_some_iff.1 hj).1 (lt_irrefl _)
    rw [hbm] at hbapproved ⊢
    exact ⟨r, List.mem_of_getElem? (hslot.self r), happroved hbapproved, htid, haddress⟩
  · have hget := (hslot.other r hne).trans hj
    exact ⟨b, List.mem_of_getElem? hget, hbapproved, Eq.refl _, fun _ => Eq.refl _⟩

lemma withUsername_approved (m : Member) (username : String) :
    (withUsername m username).approved = m.approved := by
  rw [withUsername]
  split_ifs <;> rfl

lemma withAddress_approved (m : Member) (address : String) :
    (withAddress m address).approved = m.approved := by
  rw [withAddress]
  split_ifs <;> rfl

lemma keepsApproved_exec {w : Write} {r : w.Reply} (h : w.exec s = .ok (r, s')) :
    KeepsApproved s.members s'.members := by
  rcases members_exec h with ⟨a, clock, rfl, ha⟩ | ⟨hsame, -⟩
  · obtain ⟨mid, hm, rfl⟩ := Op.exec_ok h
    have hmid : KeepsApproved s.members mid.members := by
      rcases ha with ⟨tid, address, username, rfl⟩ | ⟨actor, who, address, tx, caller, rfl⟩ <;>
        dsimp only [Update.mutate, Act.mutate] at hm
      · obtain ⟨i, m, members, hslot, hr, rfl⟩ := requestMembership_ok hm
        refine keepsApproved_set (slot_slotFor hslot) ?_ ?_ ?_
        · rw [hr, withUsername_approved, withAddress_approved]
          exact id
        · rw [hr, withUsername_telegramId, withAddress_telegramId]
        · intro hne
          rw [hr, withUsername_address, withAddress_address, if_neg hne]
      · obtain ⟨i, m, members, hslot, -, hr, -, rfl⟩ := approveMember_slot hm
        refine keepsApproved_set (slot_approvalSlot hslot) ?_ ?_ ?_
        · rw [hr]
          exact fun _ => Eq.refl _
        · rw [hr, ← withAddress_telegramId m address]
          rfl
        · intro hne
          have haddress : (withAddress m address).address = m.address := by
            rw [withAddress_address, if_neg hne]
          rw [hr, ← haddress]
          rfl
    exact hmid
  · exact keepsApproved_of_same hsame

/-! ### Proposals -/

/-- The parts of a record that tallies are about. -/
def SameTally (p p' : ProposalRecord) : Prop :=
  p'.backers = p.backers ∧ p'.objectors = p.objectors ∧ p'.reviews = p.reviews ∧
    p'.proposerAgent = p.proposerAgent

lemma SameTally.rfl : SameTally p p := ⟨Eq.refl _, Eq.refl _, Eq.refl _, Eq.refl _⟩

lemma SameTally.tallyOk {members : List Member} (h : SameTally p p') (hp : TallyOk members p) :
    TallyOk members p' := by
  obtain ⟨hb, ho, hr, hproposer⟩ := h
  refine ⟨hb ▸ hp.backers, ho ▸ hp.objectors, ?_, ?_, hr ▸ hp.reviews, ?_⟩
  · rw [hb, ho]
    exact hp.disjoint
  · rw [hb, ho]
    exact hp.marks
  · rw [hr, hproposer]
    exact hp.others

/-- How a record of the state after an update comes about. -/
inductive TallyStep (s : FundState) (u : Update) (now : Time) : ProposalRecord → Prop
  | kept {p p' : ProposalRecord} (hp : p ∈ s.proposals) (h : SameTally p p') : TallyStep s u now p'
  | fresh {p : ProposalRecord} (hb : p.backers = []) (ho : p.objectors = []) (hr : p.reviews = []) :
      TallyStep s u now p
  | marked {p : ProposalRecord} {voter side : String} {j : ℕ} {m : Member} (hp : p ∈ s.proposals)
      (hm : s.member voter = some (j, m)) (happroved : m.approved = true) :
      TallyStep s u now
        (markedRecord p (if m.telegramId = "" then m.address else m.telegramId) side now)
  | reviewed {p : ProposalRecord} {pid voter side note : String} (hp : p ∈ s.proposals)
      (hu : u = .act (.recordVote pid voter side "agent" note))
      (h : (checkReview s voter (some p)).ok = true) :
      TallyStep s u now (reviewedRecord p (((s.agent voter).map (·.2.name)).getD voter)
        (lower (strip side)) note now)

variable {u : Update}

lemma tallyStep_of_eq (hs : s'.proposals = s.proposals) (hp : p ∈ s'.proposals) :
    TallyStep s u now p :=
  .kept (hs ▸ hp) .rfl

lemma tallyStep_of_set {i : ℕ} {new : ProposalRecord} (hs : s'.proposals = s.proposals.set i new)
    (hnew : TallyStep s u now new) (hp : p ∈ s'.proposals) : TallyStep s u now p := by
  rw [hs] at hp
  rcases mem_set_cases hp with rfl | hp
  · exact hnew
  · exact .kept hp .rfl

lemma sameTally_movedRecord (fund : Fund) (old : ProposalRecord) (status : Status)
    (note : StatusNote) : SameTally old (movedRecord fund old status note now) := by
  refine ⟨?_, ?_, ?_, ?_⟩ <;>
  · rw [movedRecord]
    split_ifs <;> rfl

lemma mem_of_found {pid : String} {i : ℕ} (h : s.proposal pid = .ok (some (i, p))) :
    p ∈ s.proposals :=
  List.mem_of_getElem? (proposal_getElem? h)

lemma tallyStep_act {a : Act} {reply : a.Reply} (h : a.mutate now s = .ok (reply, s'))
    (hp : p ∈ s'.proposals) : TallyStep s (.act a) now p := by
  cases a <;> dsimp only [Act.mutate] at h
  case requestMembership tid address username =>
    obtain ⟨i, m, members, -, -, rfl⟩ := requestMembership_ok h
    exact tallyStep_of_eq rfl hp
  case approveMember actor who address tx caller =>
    obtain ⟨-, -, members, no, rfl⟩ := approveMember_ok h
    exact tallyStep_of_eq rfl hp
  case requestAgent agent =>
    obtain ⟨-, -, ⟨i, old, -, -, -, rfl⟩ | ⟨i, old, -, -, -, -, rfl⟩ | ⟨-, -, rfl⟩⟩ :=
      requestAgent_ok h
    · exact tallyStep_of_eq rfl hp
    · exact tallyStep_of_eq rfl hp
    · exact tallyStep_of_eq rfl hp
  case approveAgent actor name tx caller =>
    obtain ⟨-, -, i, target, -, -, -, -, -, rfl⟩ := approveAgent_ok h
    exact tallyStep_of_eq rfl hp
  case removeAgent actor name caller =>
    obtain ⟨-, -, j, target, -, -, -, -, rfl⟩ := removeAgent_ok h
    obtain ⟨q, hq, rfl⟩ := List.mem_map.1 hp
    refine .kept hq ?_
    rw [cancelDraftOf]
    split_ifs
    · exact ⟨rfl, rfl, rfl, rfl⟩
    · exact .rfl
  case claimTopic agent topic =>
    obtain ⟨-, ⟨j, mine, -, -, rfl⟩ | ⟨j, a, -, -, -, -, rfl⟩⟩ := claimTopic_ok h
    · exact tallyStep_of_eq rfl hp
    · exact tallyStep_of_eq rfl hp
  case releaseClaim agent topic =>
    obtain ⟨keep, rfl⟩ := releaseClaim_ok h
    exact tallyStep_of_eq rfl hp
  case requestDraft agent topic from_ =>
    obtain ⟨-, j, a, -, -, -, rfl⟩ := requestDraft_ok h
    exact tallyStep_of_eq rfl hp
  case draftProposal agent d =>
    obtain ⟨v, -, -, j, a, claim, -, hreply, rfl⟩ := draftProposal_ok h
    rcases List.mem_append.1 hp with hp | hp
    · exact .kept hp .rfl
    · rw [List.mem_singleton.1 hp, hreply]
      exact .fresh rfl rfl rfl
  case shipDraft pid caller =>
    obtain ⟨-, -, j, old, hfind, -, rfl, rfl⟩ := shipDraft_ok h
    refine tallyStep_of_set rfl ?_ hp
    exact .kept (mem_of_found hfind) ⟨rfl, rfl, rfl, rfl⟩
  case setProposalStatus actor pid status note =>
    obtain ⟨j, old, hfind, -, -, -, rfl, rfl⟩ := setProposalStatus_ok h
    exact tallyStep_of_set rfl (.kept (mem_of_found hfind) (sameTally_movedRecord _ _ _ _)) hp
  case setChainState pid read =>
    obtain ⟨j, old, hfind, hreply, rfl⟩ := setChainState_ok h
    refine tallyStep_of_set rfl (.kept (mem_of_found hfind) ?_) hp
    rw [hreply]
    exact ⟨rfl, rfl, rfl, rfl⟩
  case setCardMessage pid message =>
    obtain ⟨j, old, hfind, rfl, rfl⟩ := setCardMessage_ok h
    refine tallyStep_of_set rfl ?_ hp
    exact .kept (mem_of_found hfind) ⟨rfl, rfl, rfl, rfl⟩
  case recordVote pid voter side kind note =>
    obtain ⟨j, old, hfind, rfl, ⟨rfl, hreview, name, rfl, rfl⟩ | ⟨-, k, m, hm, hvote, rfl⟩⟩ :=
      recordVote_ok h
    · exact tallyStep_of_set rfl (.reviewed (mem_of_found hfind) rfl hreview) hp
    · obtain ⟨⟨m', hm', happroved⟩, -⟩ := checkMemberVote_ok.1 hvote
      rw [← Option.some.inj hm'] at happroved
      exact tallyStep_of_set rfl (.marked (mem_of_found hfind) hm happroved) hp
  case recordSettle actor pid d =>
    obtain ⟨j, old, hfind, -, -, hreply, -, rfl⟩ := recordSettle_ok h
    refine tallyStep_of_set rfl (.kept (mem_of_found hfind) ?_) hp
    rw [hreply]
    exact ⟨rfl, rfl, rfl, rfl⟩

lemma tallyStep_mutate {reply : u.Reply} (h : u.mutate now s = .ok (reply, s'))
    (hp : p ∈ s'.proposals) : TallyStep s u now p := by
  cases u with
  | act a => exact tallyStep_act h hp
  | cardFund card =>
    obtain ⟨period, veto, till, -, -, -, rfl⟩ := cardFund_ok h
    exact tallyStep_of_eq rfl hp
  | chainStatus pid status =>
    obtain ⟨j, old, hfind, rfl, rfl⟩ := chainStatus_ok h
    refine tallyStep_of_set rfl ?_ hp
    exact .kept (mem_of_found hfind) ⟨rfl, rfl, rfl, rfl⟩

/-! ### Votes and reviews -/

lemma isMark_member {voter : String} {j : ℕ} {m : Member} (hm : s.member voter = some (j, m))
    (happroved : m.approved = true) :
    IsMark s.members (if m.telegramId = "" then m.address else m.telegramId) := by
  refine ⟨m, List.mem_of_getElem? (member_getElem? hm), happroved, ?_⟩
  split_ifs with hempty
  · refine Or.inr ⟨rfl, ?_⟩
    -- a record without an id is found by its wallet
    rcases goesBy_iff.1 (member_goesBy hm) with hkey | hwallet
    · rw [hempty] at hkey
      have hfound := hm
      rw [member_eq, ← hkey] at hfound
      rw [if_pos (by decide)] at hfound
      cases hfound
    · exact hwallet.1
  · exact Or.inl rfl

lemma mem_backers_marked {mark side : String} :
    x ∈ (markedRecord p mark side now).backers ↔
      x ∈ p.backers ∧ x ≠ mark ∨ side = "back" ∧ x = mark := by
  rw [markedRecord]
  dsimp only
  split_ifs with hside <;> simp [hside]

lemma mem_objectors_marked {mark side : String} :
    x ∈ (markedRecord p mark side now).objectors ↔
      x ∈ p.objectors ∧ x ≠ mark ∨ side = "object" ∧ x = mark := by
  rw [markedRecord]
  dsimp only
  split_ifs with hside <;> simp [hside]

lemma nodup_filter_concat {l : List String} (h : l.Nodup) : (l.filter (· ≠ x) ++ [x]).Nodup := by
  refine List.nodup_append.2 ⟨h.filter _, List.nodup_singleton x, ?_⟩
  intro y hy z hz
  rw [List.mem_singleton.1 hz]
  simpa using (List.mem_filter.1 hy).2

lemma tallyOk_marked {members : List Member} {mark side : String} (hp : TallyOk members p)
    (hmark : IsMark members mark) : TallyOk members (markedRecord p mark side now) where
  backers := by
    rw [markedRecord]
    dsimp only
    split_ifs
    · exact nodup_filter_concat hp.backers
    · exact hp.backers.filter _
  objectors := by
    rw [markedRecord]
    dsimp only
    split_ifs
    · exact nodup_filter_concat hp.objectors
    · exact hp.objectors.filter _
  disjoint := by
    intro x hx hx'
    rcases mem_backers_marked.1 hx with ⟨hb, hne⟩ | ⟨hback, heq⟩
    · rcases mem_objectors_marked.1 hx' with ⟨ho, -⟩ | ⟨-, heq⟩
      · exact hp.disjoint x hb ho
      · exact hne heq
    · rcases mem_objectors_marked.1 hx' with ⟨-, hne⟩ | ⟨hobject, -⟩
      · exact hne heq
      · rw [hback] at hobject
        exact absurd hobject (by decide)
  marks := by
    intro x hx
    rcases List.mem_append.1 hx with hx | hx
    · rcases mem_backers_marked.1 hx with ⟨hb, -⟩ | ⟨-, rfl⟩
      · exact hp.marks x (List.mem_append_left _ hb)
      · exact hmark
    · rcases mem_objectors_marked.1 hx with ⟨ho, -⟩ | ⟨-, rfl⟩
      · exact hp.marks x (List.mem_append_right _ ho)
      · exact hmark
  reviews := hp.reviews
  others := hp.others

/-- A review replaces those under the reviewer's name, which is not the proposer's. -/
lemma tallyOk_reviewed {members : List Member} {name side note : String} (hp : TallyOk members p)
    (hname : lower p.proposerAgent ≠ lower name) :
    TallyOk members (reviewedRecord p name side note now) where
  backers := hp.backers
  objectors := hp.objectors
  disjoint := hp.disjoint
  marks := hp.marks
  reviews := by
    refine List.pairwise_append.2 ⟨hp.reviews.filter _, List.pairwise_singleton _ _, ?_⟩
    intro r hr r' hr'
    rw [List.mem_singleton.1 hr']
    simpa using (List.mem_filter.1 hr).2
  others := by
    intro r hr
    rcases List.mem_append.1 hr with hr | hr
    · exact hp.others r (List.mem_filter.1 hr).1
    · rw [List.mem_singleton.1 hr]
      exact hname.symm

/-! ### Runs -/

/-- The name of an agent that reviews has nothing to strip. -/
def TrimmedReviewer (w : Write) : Prop :=
  ∀ pid voter side note clock, w = .op ⟨.act (.recordVote pid voter side "agent" note), clock⟩ →
    strip voter = voter

lemma reviewer_ne_proposer {voter : String} (htrim : strip voter = voter)
    (h : (checkReview s voter (some p)).ok = true) :
    lower p.proposerAgent ≠ lower (((s.agent voter).map (·.2.name)).getD voter) := by
  obtain ⟨hact, q, hq, hother, -⟩ := checkReview_ok.1 h
  obtain ⟨i, a, ha, -, -⟩ := checkAgentCanAct_ok.1 hact
  rw [ha, Option.map_some, Option.getD_some, agent_name ha, lookupKey, htrim, Option.some.inj hq]
  exact hother

/-- One write keeps the tallies. -/
lemma talliesOk_exec {w : Write} {reply : w.Reply} (htrim : TrimmedReviewer w) (hs : TalliesOk s)
    (h : w.exec s = .ok (reply, s')) : TalliesOk s' := by
  intro p hp
  have hkeeps := keepsApproved_exec h
  have hgrow : ∀ {q}, TallyOk s.members q → TallyOk s'.members q := fun hq =>
    { hq with marks := fun x hx => hkeeps.isMark (hq.marks x hx) }
  rcases frame_of_exec h with ⟨⟨u, clock⟩, rfl⟩ | ⟨hproposals, -⟩
  · obtain ⟨mid, hm, rfl⟩ := Op.exec_ok h
    have hstep : TallyStep s u clock.now p := tallyStep_mutate hm hp
    refine hgrow ?_
    cases hstep with
    | kept hq hsame => exact hsame.tallyOk (hs _ hq)
    | fresh hb ho hr =>
      refine ⟨hb ▸ List.nodup_nil, ho ▸ List.nodup_nil, ?_, ?_, hr ▸ List.Pairwise.nil, ?_⟩
      · simp [hb]
      · simp [hb, ho]
      · simp [hr]
    | marked hq hm happroved => exact tallyOk_marked (hs _ hq) (isMark_member hm happroved)
    | reviewed hq hu hreview =>
      subst hu
      exact tallyOk_reviewed (hs _ hq)
        (reviewer_ne_proposer (htrim _ _ _ _ clock rfl) hreview)
  · rw [hproposals] at hp
    exact hgrow (hs p hp)

/-- In every state of a run from a new fund, whatever was voted and by whom, the tallies are those of
approved members and of other agents. -/
theorem tallies_ok {fund : Fund} {host : Agent} {stamp : Time}
    (hcreate : createFund fund host now stamp = .ok s₀) {writes : List Write}
    (htrim : ∀ w ∈ writes, TrimmedReviewer w) : TalliesOk (writeStore.runOps writes s₀) := by
  have hnew : TalliesOk s₀ := by
    simp only [createFund, bind_eq_ok, pure_eq_ok] at hcreate
    obtain ⟨-, -, name, -, rfl⟩ := hcreate
    exact fun p hp => absurd hp List.not_mem_nil
  exact @Interface.runOps_preserves _ _ writeStore TrimmedReviewer TalliesOk
    (fun w hw s reply s' hs h => talliesOk_exec hw hs h) writes htrim s₀ hnew

/-- A member joins, backs a proposal and then objects to it. -/
def tallyWrites : List Write :=
  [joinWrite "42" walletA "ana",
    .op ⟨.act (.approveMember "Iris" "42" "" "" none), ⟨2000, 2000⟩⟩,
    .op ⟨.act (.claimTopic "Iris" "TSLA momentum"), ⟨2010, 2010⟩⟩,
    .op ⟨.act (.draftProposal "Iris" sampleDraft), ⟨2020, 2020⟩⟩,
    .op ⟨.act (.setProposalStatus "Iris" "p-1" "proposed" {}), ⟨2030, 2030⟩⟩,
    .op ⟨.act (.recordVote "p-1" "42" "back" "member" ""), ⟨2040, 2040⟩⟩,
    .op ⟨.act (.recordVote "p-1" walletA "object" "member" ""), ⟨2050, 2050⟩⟩]

theorem tallies_ok_switched : TalliesOk (writeStore.runOps tallyWrites sampleState) ∧
    (writeStore.runOps tallyWrites sampleState).proposals.map (fun p => (p.backers, p.objectors)) =
      [([], ["42"])] := by
  have hkinds : ∀ w ∈ tallyWrites, TrimmedReviewer w := by
    rintro w hw pid voter side note clock rfl
    simp [tallyWrites, joinWrite] at hw
  exact ⟨tallies_ok createFund_sample hkinds, by decide +kernel⟩

end SherwoodMonitor.TallyIntegrity
