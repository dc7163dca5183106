import SherwoodMonitor.FundWrites

/-! The id that is shown for a proposal, its on-chain id once there is one, and whether it leads
back to that proposal. On-chain ids come from whoever moves a status, with any value. -/
namespace SherwoodMonitor.DisplayedIds
open PyText PyNumber Lookup Models FundState Rules Service Calls Effects AtomicStore StatusMoves
  ProposalIds FundWrites

variable {now : Time} {s s' s₀ : FundState} {i j : ℕ} {p q r : ProposalRecord} {n : ℤ}

/-- `_display_id`. -/
def displayId (record : ProposalRecord) : String :=
  match record.onchainId with
  | some n => toString n
  | none => record.id

/-- The displayed id of every record leads to it, and an on-chain id matches one record. -/
structure IdsIdentify (s : FundState) : Prop where
  lookup : ∀ i r, s.proposals[i]? = some r → s.proposal (displayId r) = .ok (some (i, r))
  onchain : ∀ (i j : ℕ) (p q : ProposalRecord) (n : ℤ), s.proposals[i]? = some p → s.proposals[j]? = some q →
    p.onchainId = some n → q.onchainId = some n → i = j

/-- Two on-chain ids that are not the same. -/
def Apart (a b : Option ℤ) : Prop := ∀ n, a = some n → b ≠ some n

/-- On-chain ids are not negative, and no two records have the same. -/
structure OnchainOk (s : FundState) : Prop where
  nonneg : ∀ n, some n ∈ s.proposals.map (·.onchainId) → 0 ≤ n
  apart : (s.proposals.map (·.onchainId)).Pairwise Apart

lemma Apart.symm {a b : Option ℤ} (h : Apart a b) : Apart b a := fun n hb ha => h n ha hb

-- lookups by an on-chain id

lemma issued_ne_toString (k : ℕ) (n : ℤ) : "p-" ++ toString (k : ℤ) ≠ toString n := by
  intro h
  have hread : int? ("p-" ++ toString (k : ℤ)) = some n := by rw [h, int?_toString]
  rw [int?, show stripChars ("p-" ++ toString (k : ℤ)).toList = ("p-" ++ toString (k : ℤ)).toList by
    rw [← toList_strip, strip_issued], toList_issued] at hread
  have hp : PyUnicode.decimalValue? 'p' = none := by decide +kernel
  simp [signed, digits?, hp] at hread

lemma bareId_toString (n : ℤ) : bareId (toString n) = toString n := by
  have hhead : ∀ c ∈ (toString n).toList.head?, c ≠ '#' := by
    intro c hc
    cases n with
    | ofNat n =>
      rw [Int.ofNat_eq_natCast, toList_natCast] at hc
      exact ne_of_isDigit (isDigit_of_mem (List.mem_of_head? hc)) (by decide)
    | negSucc n =>
      rw [toList_negSucc] at hc
      obtain rfl : '-' = c := by simpa using hc
      decide
  rw [bareId]
  cases hl : (toString n).toList with
  | nil => rw [List.dropWhile_nil, ← hl, String.ofList_toList]
  | cons c l =>
    have hc : c ≠ '#' := hhead c (by rw [hl]; rfl)
    rw [List.dropWhile_cons_of_neg (by simpa using hc), ← hl, String.ofList_toList]

/-- No local id is the text of a number. -/
lemma locate_id_toString (hs : IdsIssued s) (n : ℤ) :
    locate (fun p : ProposalRecord => decide (p.id = strip (toString n))) s.proposals = none := by
  refine locate_eq_none.2 fun p hp => ?_
  obtain ⟨k, -, hid⟩ := hs.issued p.id (List.mem_map_of_mem hp)
  rw [strip_toString, hid]
  simpa using issued_ne_toString k n

lemma proposal_toString (hs : IdsIssued s) (hn : 0 ≤ n)
    (hany : some n ∈ s.proposals.map (·.onchainId)) : s.proposal (toString n) =
      .ok (locate (fun p : ProposalRecord => decide (p.onchainId = some n)) s.proposals) := by
  have hsome : s.proposals.any (·.onchainId.isSome) = true := by
    obtain ⟨p, hp, hpn⟩ := List.mem_map.1 hany
    exact List.any_eq_true.2 ⟨p, hp, by rw [hpn]; rfl⟩
  have hint : pyInt (toString n) = .ok n := by rw [pyInt, int?_toString]
  rw [FundState.proposal, locate_id_toString hs n, strip_toString, bareId_toString]
  simp only [(isDigitText_toString n).2 hn, hsome, and_self, if_true, hint]
  rfl

/-- A negative id is not a digit text, so it leads to no record. -/
lemma proposal_negative (hs : IdsIssued s) (hn : n < 0) :
    s.proposal (toString n) = .ok none := by
  have hdigits : ¬isDigitText (toString n) = true := by
    rw [isDigitText_toString]
    omega
  rw [FundState.proposal, locate_id_toString hs n, strip_toString, bareId_toString]
  exact if_neg fun h => hdigits h.1

theorem idsIdentify_iff (hs : IdsIssued s) : IdsIdentify s ↔ OnchainOk s := by
  constructor
  · intro h
    constructor
    · intro n hn
      obtain ⟨r, hr, hrn⟩ := List.mem_map.1 hn
      obtain ⟨i, hi⟩ := List.getElem?_of_mem hr
      by_contra hneg
      have hlook := h.lookup i r hi
      rw [displayId, show r.onchainId = some n from hrn] at hlook
      simp only [proposal_negative hs (not_le.1 hneg)] at hlook
      simp at hlook
    · rw [List.pairwise_map, List.pairwise_iff_getElem]
      intro i j hi hj hij n hp hq
      have heq := h.onchain i j _ _ n (List.getElem?_eq_getElem hi) (List.getElem?_eq_getElem hj)
        hp hq
      omega
  · intro h
    have honchain : ∀ (i j : ℕ) (p q : ProposalRecord) (n : ℤ), s.proposals[i]? = some p → s.proposals[j]? = some q →
        p.onchainId = some n → q.onchainId = some n → i = j := by
      intro i j p q n hp hq hpn hqn
      by_contra hij
      have hget : (s.proposals.map (·.onchainId))[i]? = some (some n) := by simp [hp, hpn]
      have hget' : (s.proposals.map (·.onchainId))[j]? = some (some n) := by simp [hq, hqn]
      exact pairwise_getElem? (fun _ _ => Apart.symm) h.apart hij hget hget' n rfl rfl
    refine ⟨fun i r hr => ?_, honchain⟩
    cases hn : r.onchainId with
    | none =>
      rw [displayId, hn]
      exact hs.find hr
    | some n =>
      have hmem : some n ∈ s.proposals.map (·.onchainId) :=
        List.mem_map.2 ⟨r, List.mem_of_getElem? hr, hn⟩
      obtain ⟨⟨j, q⟩, hq⟩ := exists_locate
        (p := fun p : ProposalRecord => decide (p.onchainId = some n))
        (List.mem_of_getElem? hr) (by simpa using hn)
      have hqn : q.onchainId = some n := by simpa using locate_holds hq
      obtain rfl := honchain i j r q n hr (locate_getElem? hq) hn hqn
      obtain rfl : r = q := Option.some.inj (hr.symm.trans (locate_getElem? hq))
      rw [displayId, hn]
      simp only [proposal_toString hs (h.nonneg n hmem) hmem, hq]

-- what a write does to the on-chain ids

/-- `set_proposal_status` on the record at `i`, past its checks. -/
structure MovesRecord (s : FundState) (actor pid status : String) (now : Time) (i : ℕ)
    (r : ProposalRecord) : Prop where
  found : s.proposal pid = .ok (some (i, r))
  actor : requireProposerOrHost s actor r = .ok ()
  transition : Status.ofText status ∈ transitions r.status
  cooldown : r.status = .draft → Status.ofText status = .proposed → (checkCooldown s now).ok = true

lemma MovesRecord.succeeds {actor pid status : String} {r : ProposalRecord}
    (h : MovesRecord s actor pid status now i r) (note : StatusNote) :
    ∃ reply s', setProposalStatus actor pid status note now s = .ok (reply, s') := by
  have hcool : (if r.status = .draft ∧ Status.ofText status = .proposed then
      checkCooldown s now else allow).ok = true := by
    split_ifs with hdraft
    · exact h.cooldown hdraft.1 hdraft.2
    · rfl
  simp only [setProposalStatus, findProposal_ok.2 h.found, h.actor, bind, Except.bind,
    require, checkTransition_ok.2 h.transition, hcool, if_true]
  exact ⟨_, _, rfl⟩

/-- A status move gives its proposal an on-chain id that is negative or that another one has. -/
def MisnamesOnchain (s : FundState) (w : Write) : Prop :=
  ∃ actor pid status note clock i r n,
    w = .op ⟨.act (.setProposalStatus actor pid status note), clock⟩ ∧
      MovesRecord s actor pid status clock.now i r ∧ note.onchainId = some n ∧
      (n < 0 ∨ ∃ j q, j ≠ i ∧ s.proposals[j]? = some q ∧ q.onchainId = some n)

lemma onchainId_movedRecord (fund : Fund) (old : ProposalRecord) (status : Status)
    (note : StatusNote) :
    (movedRecord fund old status note now).onchainId = note.onchainId.or old.onchainId := by
  rw [movedRecord]
  split_ifs <;> rfl

lemma onchainId_markedRecord (old : ProposalRecord) (tid side : String) :
    (markedRecord old tid side now).onchainId = old.onchainId := rfl

lemma onchain_of_set {pid : String} {old new : ProposalRecord}
    (hfind : s.proposal pid = .ok (some (i, old))) (hs : s'.proposals = s.proposals.set i new)
    (hnew : new.onchainId = old.onchainId) :
    s'.proposals.map (·.onchainId) = s.proposals.map (·.onchainId) := by
  rw [hs, map_set_of_eq (proposal_getElem? hfind) hnew]

lemma onchain_act {a : Act} {reply : a.Reply} (h : a.mutate now s = .ok (reply, s')) :
    (∃ actor pid status note, a = .setProposalStatus actor pid status note) ∨
      s'.proposals.map (·.onchainId) = s.proposals.map (·.onchainId) ∨
      s'.proposals.map (·.onchainId) = s.proposals.map (·.onchainId) ++ [none] := by
  cases a <;> dsimp only [Act.mutate] at h
  case requestMembership tid address username =>
    obtain ⟨k, m, members, -, -, rfl⟩ := requestMembership_ok h
    exact Or.inr (Or.inl rfl)
  case approveMember actor who address tx caller =>
    obtain ⟨-, -, members, no, rfl⟩ := approveMember_ok h
    exact Or.inr (Or.inl rfl)
  case requestAgent agent =>
    obtain ⟨-, -, ⟨k, old, -, -, -, rfl⟩ | ⟨k, old, -, -, -, -, rfl⟩ | ⟨-, -, rfl⟩⟩ :=
      requestAgent_ok h
    · exact Or.inr (Or.inl rfl)
    · exact Or.inr (Or.inl rfl)
    · exact Or.inr (Or.inl rfl)
  case approveAgent actor name tx caller =>
    obtain ⟨-, -, k, target, -, -, -, -, -, rfl⟩ := approveAgent_ok h
    exact Or.inr (Or.inl rfl)
  case removeAgent actor name caller =>
    obtain ⟨-, -, k, target, -, -, -, -, rfl⟩ := removeAgent_ok h
    have hcancel : ∀ p : ProposalRecord,
        (cancelDraftOf (lower target.name) now p).onchainId = p.onchainId := by
      intro p
      rw [cancelDraftOf]
      split_ifs <;> rfl
    refine Or.inr (Or.inl ?_)
    simp only [List.map_map, Function.comp_def, hcancel]
  case claimTopic agent topic =>
    obtain ⟨-, ⟨k, mine, -, -, rfl⟩ | ⟨k, a, -, -, -, -, rfl⟩⟩ := claimTopic_ok h
    · exact Or.inr (Or.inl rfl)
    · exact Or.inr (Or.inl rfl)
  case releaseClaim agent topic =>
    obtain ⟨keep, rfl⟩ := releaseClaim_ok h
    exact Or.inr (Or.inl rfl)
  case requestDraft agent topic from_ =>
    obtain ⟨-, k, a, -, -, -, rfl⟩ := requestDraft_ok h
    exact Or.inr (Or.inl rfl)
  case draftProposal agent d =>
    obtain ⟨v, -, -, k, a, claim, -, hr, rfl⟩ := draftProposal_ok h
    have hnone : reply.proposal.onchainId = none := by rw [hr]; rfl
    exact Or.inr (Or.inr (by simp [hnone]))
  case shipDraft pid caller =>
    obtain ⟨-, -, k, old, hfind, -, rfl, rfl⟩ := shipDraft_ok h
    exact Or.inr (Or.inl (onchain_of_set hfind rfl rfl))
  case setProposalStatus actor pid status note => exact Or.inl ⟨actor, pid, status, note, rfl⟩
  case setChainState pid read =>
    obtain ⟨k, old, hfind, hr, rfl⟩ := setChainState_ok h
    exact Or.inr (Or.inl (onchain_of_set hfind rfl (by rw [hr]; rfl)))
  case setCardMessage pid message =>
    obtain ⟨k, old, hfind, rfl, rfl⟩ := setCardMessage_ok h
    exact Or.inr (Or.inl (onchain_of_set hfind rfl rfl))
  case recordVote pid voter side kind note =>
    obtain ⟨k, old, hfind, rfl, ⟨-, -, name, -, rfl⟩ | ⟨-, l, m, -, -, rfl⟩⟩ := recordVote_ok h
    · exact Or.inr (Or.inl (onchain_of_set hfind rfl rfl))
    · exact Or.inr (Or.inl (onchain_of_set hfind rfl (onchainId_markedRecord old _ _)))
  case recordSettle actor pid d =>
    obtain ⟨k, old, hfind, -, -, hr, -, rfl⟩ := recordSettle_ok h
    exact Or.inr (Or.inl (onchain_of_set hfind rfl (by rw [hr])))

/-- A successful write that is no status move adds at most a proposal without an on-chain id. -/
lemma onchain_exec {w : Write} {reply : w.Reply} (h : w.exec s = .ok (reply, s')) :
    (∃ actor pid status note clock,
        w = .op ⟨.act (.setProposalStatus actor pid status note), clock⟩) ∨
      s'.proposals.map (·.onchainId) = s.proposals.map (·.onchainId) ∨
      s'.proposals.map (·.onchainId) = s.proposals.map (·.onchainId) ++ [none] := by
  rcases frame_of_exec h with ⟨o, rfl⟩ | ⟨hps, -⟩
  · obtain ⟨mid, hm, rfl⟩ := Op.exec_ok h
    obtain ⟨update, clock⟩ := o
    cases update with
    | act a =>
      rcases onchain_act hm with ⟨actor, pid, status, note, rfl⟩ | hsame
      · exact Or.inl ⟨actor, pid, status, note, clock, rfl⟩
      · exact Or.inr hsame
    | cardFund card =>
      obtain ⟨period, veto, till, -, -, -, rfl⟩ := cardFund_ok hm
      exact Or.inr (Or.inl rfl)
    | chainStatus pid status =>
      obtain ⟨k, old, hfind, hr, rfl⟩ := chainStatus_ok hm
      exact Or.inr (Or.inl (onchain_of_set hfind rfl (by rw [hr])))
  · exact Or.inr (Or.inl (by rw [hps]))

lemma onchainOk_congr (hs : OnchainOk s)
    (h : s'.proposals.map (·.onchainId) = s.proposals.map (·.onchainId)) : OnchainOk s' :=
  ⟨by rw [h]; exact hs.nonneg, by rw [h]; exact hs.apart⟩

lemma onchainOk_append (hs : OnchainOk s)
    (h : s'.proposals.map (·.onchainId) = s.proposals.map (·.onchainId) ++ [none]) :
    OnchainOk s' := by
  constructor
  · rw [h]
    intro n hn
    rcases List.mem_append.1 hn with hn | hn
    · exact hs.nonneg n hn
    · simp at hn
  · rw [h, List.pairwise_append]
    refine ⟨hs.apart, List.pairwise_singleton _ _, fun a _ b hb n _ hbn => ?_⟩
    rw [List.mem_singleton.1 hb] at hbn
    simp at hbn

/-- The state after a status move that carries an on-chain id. -/
lemma onchain_set {actor pid status : String} {note : StatusNote} {clock : Clock}
    {reply : ProposalRecord × Status}
    (h : setProposalStatus actor pid status note clock.now s = .ok (reply, s')) :
    ∃ i r, MovesRecord s actor pid status clock.now i r ∧
      s'.proposals.map (·.onchainId) =
        (s.proposals.map (·.onchainId)).set i (note.onchainId.or r.onchainId) := by
  obtain ⟨i, r, hfind, hauth, htrans, hcool, rfl, rfl⟩ := setProposalStatus_ok h
  refine ⟨i, r, ⟨hfind, hauth, htrans, hcool⟩, ?_⟩
  simp only [setProposal, List.map_set, onchainId_movedRecord]

lemma onchainOk_next {w : Write} (hs : OnchainOk s) (hgood : ¬MisnamesOnchain s w) :
    OnchainOk (writeStore.next w s) := by
  refine Interface.next_preserves hs fun reply s' h => ?_
  rcases onchain_exec h with ⟨actor, pid, status, note, clock, rfl⟩ | hsame | hadded
  · obtain ⟨mid, hm, rfl⟩ := Op.exec_ok h
    obtain ⟨i, r, hmoves, hids⟩ := onchain_set hm
    have hget : (s.proposals.map (·.onchainId))[i]? = some r.onchainId := by
      simp [proposal_getElem? hmoves.found]
    cases hn : note.onchainId with
    | none =>
      rw [hn, Option.none_or] at hids
      obtain ⟨hi, hval⟩ := List.getElem?_eq_some_iff.1 hget
      rw [← hval, List.set_getElem_self] at hids
      exact onchainOk_congr (s := s) hs hids
    | some n =>
      rw [hn, Option.some_or] at hids
      have hfine : ¬(n < 0 ∨ ∃ j q, j ≠ i ∧ s.proposals[j]? = some q ∧ q.onchainId = some n) :=
        fun hbad => hgood ⟨actor, pid, status, note, clock, i, r, n, rfl, hmoves, hn, hbad⟩
      rw [not_or, not_lt] at hfine
      obtain ⟨hnonneg, hfree⟩ := hfine
      have hother : ∀ j b, j ≠ i → (s.proposals.map (·.onchainId))[j]? = some b →
          Apart (some n) b := by
        rintro j b hj hb m hm rfl
        obtain rfl : n = m := Option.some.inj hm
        rw [List.getElem?_map, Option.map_eq_some_iff] at hb
        obtain ⟨q, hq, hqn⟩ := hb
        exact hfree ⟨j, q, hj, hq, hqn⟩
      refine ⟨fun m hm => ?_, ?_⟩
      · have hmem : some m ∈ (s.proposals.map (·.onchainId)).set i (some n) := hids ▸ hm
        rcases mem_set_cases hmem with heq | hmem
        · rw [Option.some.inj heq]
          exact hnonneg
        · exact hs.nonneg m hmem
      · have hset := pairwise_set (fun _ _ => Apart.symm) hs.apart hother
        exact hids ▸ hset
  · exact onchainOk_congr hs hsame
  · exact onchainOk_append hs hadded

/-- A misnaming move leaves a negative on-chain id, or one that two records have. -/
lemma not_onchainOk_of_misnames {w : Write} (h : MisnamesOnchain s w) :
    ¬OnchainOk (writeStore.next w s) := by
  obtain ⟨actor, pid, status, note, clock, i, r, n, rfl, hmoves, hn, hbad⟩ := h
  obtain ⟨reply, s', hset⟩ := hmoves.succeeds note
  have hexec : writeStore.exec (.op ⟨.act (.setProposalStatus actor pid status note), clock⟩) s =
      .ok (reply, bump s' clock.stamp) :=
    Op.exec_of_ok ⟨.act (.setProposalStatus actor pid status note), clock⟩ hset
  rw [Interface.next_of_ok hexec]
  obtain ⟨k, q, hmoves', hids⟩ := onchain_set hset
  obtain ⟨rfl, rfl⟩ : i = k ∧ r = q := by simpa [hmoves.found] using hmoves'.found
  rw [hn, Option.some_or] at hids
  have hlt : i < (s.proposals.map (·.onchainId)).length := by
    simpa using (List.getElem?_eq_some_iff.1 (proposal_getElem? hmoves.found)).1
  rintro ⟨hnonneg, hapart⟩
  have hpart : (bump s' clock.stamp).proposals.map (·.onchainId) =
      (s.proposals.map (·.onchainId)).set i (some n) := hids
  rw [hpart] at hnonneg hapart
  rcases hbad with hneg | ⟨j, q, hj, hq, hqn⟩
  · exact absurd (hnonneg n (List.mem_set hlt _)) (not_le.2 hneg)
  · have hself : ((s.proposals.map (·.onchainId)).set i (some n))[i]? = some (some n) :=
      List.getElem?_set_self hlt
    have hother : ((s.proposals.map (·.onchainId)).set i (some n))[j]? = some (some n) := by
      rw [List.getElem?_set_ne hj.symm]
      simp [hq, hqn]
    exact pairwise_getElem? (fun _ _ => Apart.symm) hapart hj.symm hself hother n rfl rfl

-- runs

lemma idsIssued_next {w : Write} (hs : IdsIssued s) : IdsIssued (writeStore.next w s) := by
  refine Interface.next_preserves hs fun reply s' h => ?_
  rcases frame_of_exec h with ⟨o, rfl⟩ | ⟨hps, hseq, -⟩
  · obtain ⟨mid, hm, rfl⟩ := Op.exec_ok h
    have hmid := hs.mutate hm
    exact ⟨hmid.seq, hmid.nodup, hmid.issued⟩
  · exact hs.of_keepsIds ⟨hseq, by rw [hps]⟩

lemma idsIssued_runOps (hs : IdsIssued s) (writes : List Write) :
    IdsIssued (writeStore.runOps writes s) := by
  induction writes generalizing s with
  | nil => exact hs
  | cons w writes ih => exact ih (idsIssued_next hs)

lemma onchainOk_runOps {writes : List Write} (hs : OnchainOk s)
    (hgood : ∀ pre w post, writes = pre ++ w :: post →
      ¬MisnamesOnchain (writeStore.runOps pre s) w) :
    OnchainOk (writeStore.runOps writes s) := by
  induction writes generalizing s with
  | nil => exact hs
  | cons w writes ih =>
    refine ih (onchainOk_next hs (hgood [] w writes rfl)) ?_
    rintro pre v post rfl
    exact hgood (w :: pre) v post rfl

/-- In a run from a new fund the displayed ids identify their proposals throughout exactly when no
status move gives out an on-chain id that is negative or that another proposal has. -/
theorem idsIdentify_always_iff {fund : Fund} {host : Agent} {stamp : Time}
    (hcreate : createFund fund host now stamp = .ok s₀) (writes : List Write) :
    (∀ pre post, writes = pre ++ post → IdsIdentify (writeStore.runOps pre s₀)) ↔
      ∀ pre w post, writes = pre ++ w :: post → ¬MisnamesOnchain (writeStore.runOps pre s₀) w := by
  have hids : ∀ pre, IdsIssued (writeStore.runOps pre s₀) :=
    idsIssued_runOps (idsIssued_createFund hcreate)
  constructor
  · intro hall pre w post hwrites hbad
    have hnext := (idsIdentify_iff (hids _)).1 (hall (pre ++ [w]) post (by simp [hwrites]))
    rw [Interface.runOps_concat] at hnext
    exact not_onchainOk_of_misnames hbad hnext
  · rintro hgood pre post rfl
    refine (idsIdentify_iff (hids pre)).2 (onchainOk_runOps ?_ ?_)
    · simp only [createFund, bind_eq_ok, pure_eq_ok] at hcreate
      obtain ⟨-, -, name, -, rfl⟩ := hcreate
      exact ⟨by simp, List.Pairwise.nil⟩
    · rintro before w after rfl
      exact hgood before w (after ++ post) (by simp)

def serviceWrite (a : Act) (now : Time) : Write := .op ⟨.act a, ⟨now, now⟩⟩

/-- A proposal goes to the vote under the on-chain id 12. -/
def proposedWrites : List Write :=
  [serviceWrite (.claimTopic "Iris" "TSLA momentum") 1010,
    serviceWrite (.draftProposal "Iris" sampleDraft) 1020,
    serviceWrite (.setProposalStatus "Iris" "p-1" "proposed" { onchainId := some 12 }) 1030]

theorem idsIdentify_always_of_proposed :
    IdsIdentify (writeStore.runOps proposedWrites sampleState) := by
  refine (idsIdentify_always_iff createFund_sample proposedWrites).2 ?_ proposedWrites []
    (List.append_nil _).symm
  rintro pre w post hwrites ⟨actor, pid, status, note, clock, i, r, n, rfl, hmoves, hn, hbad⟩
  match pre with
  | [] => cases (List.cons.inj hwrites).1
  | [_] => cases (List.cons.inj (List.cons.inj hwrites).2).1
  | [_, _] =>
    obtain ⟨rfl, htail⟩ := List.cons.inj hwrites
    obtain ⟨rfl, hlast⟩ := List.cons.inj htail
    cases (List.cons.inj hlast).1
    obtain rfl : 12 = n := Option.some.inj hn
    have hone : (writeStore.runOps [serviceWrite (.claimTopic "Iris" "TSLA momentum") 1010,
        serviceWrite (.draftProposal "Iris" sampleDraft) 1020] sampleState).proposals.length = 1 := by
      decide +kernel
    rcases hbad with hneg | ⟨j, q, hj, hq, -⟩
    · exact absurd hneg (by decide)
    · have hi := (List.getElem?_eq_some_iff.1 (proposal_getElem? hmoves.found)).1
      have hj' := (List.getElem?_eq_some_iff.1 hq).1
      rw [hone] at hi hj'
      omega
  | _ :: _ :: _ :: _ => simp [proposedWrites] at hwrites

/-- The first proposal under 12 is vetoed, the governor is bound anew, and after the cooldown a
second one takes the same id. -/
def reboundWrites : List Write :=
  proposedWrites ++
    [serviceWrite (.setProposalStatus "Iris" "p-1" "vetoed" {}) 1040,
      .bind { governor := some "0x00000000000000000000000000000000000000f3" } 1050,
      serviceWrite (.claimTopic "Iris" "NVDA momentum") 5010,
      serviceWrite (.draftProposal "Iris" { sampleDraft with topic := "NVDA momentum" }) 5020,
      serviceWrite (.setProposalStatus "Iris" "p-2" "proposed" { onchainId := some 12 }) 5030]

theorem not_idsIdentify_always_of_rebound :
    ¬∀ pre post, reboundWrites = pre ++ post → IdsIdentify (writeStore.runOps pre sampleState) := by
  intro hall
  have hids : (writeStore.runOps reboundWrites sampleState).proposals.map (·.onchainId) =
      [some 12, some 12] := by
    decide +kernel
  have hget : ∀ k < 2, ∃ p, (writeStore.runOps reboundWrites sampleState).proposals[k]? = some p ∧
      p.onchainId = some 12 := by
    intro k hk
    have hk' : ([some 12, some 12] : List (Option ℤ))[k]? = some (some 12) := by
      obtain rfl | rfl : k = 0 ∨ k = 1 := by omega
      · rfl
      · rfl
    rw [← hids, List.getElem?_map, Option.map_eq_some_iff] at hk'
    exact hk'
  obtain ⟨p, hp, hpn⟩ := hget 0 (by decide)
  obtain ⟨q, hq, hqn⟩ := hget 1 (by decide)
  have heq := (hall reboundWrites [] (by simp)).onchain 0 1 p q 12 hp hq hpn hqn
  exact absurd heq (by decide)

end SherwoodMonitor.DisplayedIds
