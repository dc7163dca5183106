import SherwoodMonitor.TallyIntegrity

/-! The numbers of the members. An approval takes the next number; whatever else is written, and
however often an approval is asked for again, no number is skipped or given to another. -/
namespace SherwoodMonitor.MemberNumbers
open PyText Lookup Models FundState Rules Service Calls Effects FundWrites AtomicStore MemberRecords
  MembershipRequests TallyIntegrity

variable {s s' s₀ : FundState} {order : List ℕ} {i : ℕ} {m r : Member}

def numberAt (s : FundState) (i : ℕ) : Option ℤ := s.members[i]?.bind (·.memberNo)

/-- The places of the approved members, in the order of their approvals, are numbered from 1 on. -/
structure Numbered (s : FundState) (order : List ℕ) : Prop where
  once : order.Nodup
  approved : ∀ i, i ∈ order ↔ ∃ m, s.members[i]? = some m ∧ m.approved = true
  numbers : order.map (numberAt s) = (List.range order.length).map fun k : ℕ => some ((k : ℤ) + 1)
  next : s.nextMemberNo = order.length + 1

/-- A member stays in its place, with its number once it is approved and its wallet once it has
one. -/
def Kept (s s' : FundState) : Prop :=
  ∀ (i : ℕ) (m : Member), s.members[i]? = some m →
    ∃ m' : Member, s'.members[i]? = some m' ∧ m'.telegramId = m.telegramId ∧
      (m.approved = true → m'.approved = true ∧ m'.memberNo = m.memberNo) ∧
      (m.address ≠ "" → m'.address = m.address)

/-- The place of the member that a write approves. -/
def approvedAt (s : FundState) : Write → Option ℕ
  | .op ⟨.act (.approveMember actor who address tx caller), clock⟩ =>
      if (approveMember actor who address tx caller clock.now s).isOk then
        (approvalSlot s who address clock.now).map (·.1)
      else none
  | _ => none

/-- The places approved in a run, in order. -/
def approvals (s : FundState) : List Write → List ℕ
  | [] => []
  | w :: writes => (approvedAt s w).toList ++ approvals (writeStore.next w s) writes

lemma Kept.refl (s : FundState) : Kept s s :=
  fun _ m hm => ⟨m, hm, rfl, fun h => ⟨h, rfl⟩, fun _ => rfl⟩

lemma Kept.trans {s'' : FundState} (h : Kept s s') (h' : Kept s' s'') : Kept s s'' := by
  intro i m hm
  obtain ⟨m', hm', htid', hnumber', hwallet'⟩ := h i m hm
  obtain ⟨m'', hm'', htid'', hnumber'', hwallet''⟩ := h' i m' hm'
  refine ⟨m'', hm'', htid''.trans htid', fun happroved => ?_, fun hne => ?_⟩
  · obtain ⟨hstays, hno⟩ := hnumber' happroved
    obtain ⟨hstays', hno'⟩ := hnumber'' hstays
    exact ⟨hstays', hno'.trans hno⟩
  · have haddress := hwallet' hne
    rw [hwallet'' (haddress ▸ hne), haddress]

/-! ### Writing one record -/

/-- A record of the state after is the one that was written, or stood there before. -/
lemma slot_get {members : List Member} (hslot : Slot s i m members) {j : ℕ} {b : Member} :
    (members.set i r)[j]? = some b ↔ j = i ∧ b = r ∨ j ≠ i ∧ s.members[j]? = some b := by
  rcases eq_or_ne j i with rfl | hne
  · rw [hslot.self r]
    simp [eq_comm]
  · rw [hslot.other r hne]
    simp [hne]

lemma slot_before {members : List Member} (hslot : Slot s i m members) {b : Member}
    (hb : s.members[i]? = some b) : b = m := by
  cases hslot with
  | found h => exact Option.some.inj (hb.symm.trans h)
  | fresh m => exact absurd (List.getElem?_eq_some_iff.1 hb).1 (lt_irrefl _)

lemma kept_set {members : List Member} (hslot : Slot s i m members)
    (hs' : s'.members = members.set i r) (htid : r.telegramId = m.telegramId)
    (hnumber : m.approved = true → r.approved = true ∧ r.memberNo = m.memberNo)
    (haddress : m.address ≠ "" → r.address = m.address) : Kept s s' := by
  intro j b hb
  rw [hs']
  rcases eq_or_ne j i with rfl | hne
  · obtain rfl := slot_before hslot hb
    exact ⟨r, hslot.self r, htid, hnumber, haddress⟩
  · exact ⟨b, (hslot.other r hne).trans hb, rfl, fun h => ⟨h, rfl⟩, fun _ => rfl⟩

lemma kept_of_same (h : SameMembers s.members s'.members) : Kept s s' := by
  obtain ⟨f, hmembers, hf⟩ := h
  intro j b hb
  obtain ⟨n, hn⟩ := hf b
  refine ⟨f b, ?_, by rw [hn], fun happroved => ⟨by rw [hn, ← happroved], by rw [hn]⟩,
    fun _ => by rw [hn]⟩
  rw [hmembers, List.getElem?_map, hb]
  rfl

lemma numberAt_of_get (h : s.members[i]? = some m) : numberAt s i = m.memberNo := by
  rw [numberAt, h]
  rfl

lemma numberAt_congr {j : ℕ} (h : s'.members[j]? = s.members[j]?) :
    numberAt s' j = numberAt s j := by
  rw [numberAt, numberAt, h]

/-- A record written back with its approval and its number. -/
lemma Numbered.set {members : List Member} (h : Numbered s order) (hslot : Slot s i m members)
    (hs' : s'.members = members.set i r) (hnext : s'.nextMemberNo = s.nextMemberNo)
    (hfresh : s.members[i]? = none → m.approved = false)
    (happroved : r.approved = m.approved) (hnumber : r.memberNo = m.memberNo) :
    Numbered s' order := by
  have hbefore : s.members[i]? = some m ∨ s.members[i]? = none := by
    cases hi : s.members[i]? with
    | none => exact Or.inr rfl
    | some b => rw [slot_before hslot hi]; exact Or.inl rfl
  have hafter : s'.members[i]? = some r := by
    rw [hs']
    exact hslot.self r
  have hother : ∀ j, j ≠ i → s'.members[j]? = s.members[j]? := fun j hne => by
    rw [hs']
    exact hslot.other r hne
  refine ⟨h.once, fun j => ?_, ?_, hnext.trans h.next⟩
  · rw [h.approved j]
    rcases eq_or_ne j i with rfl | hne
    · rcases hbefore with hm | hnone
      · simp [hm, hafter, happroved]
      · simp [hnone, hafter, happroved, hfresh hnone]
    · rw [hother j hne]
  · rw [← h.numbers]
    refine List.map_congr_left fun j hj => ?_
    rcases eq_or_ne j i with rfl | hne
    · obtain ⟨b, hb, -⟩ := (h.approved j).1 hj
      rw [numberAt_of_get hafter, numberAt_of_get hb, slot_before hslot hb, hnumber]
    · exact numberAt_congr (hother j hne)

/-- A waiting member is approved with the next number. -/
lemma Numbered.approve {members : List Member} (h : Numbered s order)
    (hslot : Slot s i m members) (hs' : s'.members = members.set i r)
    (hnext : s'.nextMemberNo = s.nextMemberNo + 1) (hwaiting : m.approved = false)
    (happroved : r.approved = true) (hnumber : r.memberNo = some s.nextMemberNo) :
    Numbered s' (order ++ [i]) := by
  have hafter : s'.members[i]? = some r := by
    rw [hs']
    exact hslot.self r
  have hother : ∀ j, j ≠ i → s'.members[j]? = s.members[j]? := fun j hne => by
    rw [hs']
    exact hslot.other r hne
  have hnew : i ∉ order := by
    intro hi
    obtain ⟨b, hb, hbapproved⟩ := (h.approved i).1 hi
    rw [slot_before hslot hb, hwaiting] at hbapproved
    cases hbapproved
  refine ⟨?_, fun j => ?_, ?_, ?_⟩
  · rw [List.nodup_append]
    exact ⟨h.once, List.nodup_singleton i, by simpa using fun j hj => ne_of_mem_of_not_mem hj hnew⟩
  · rw [List.mem_append, List.mem_singleton]
    rcases eq_or_ne j i with rfl | hne
    · exact iff_of_true (Or.inr rfl) ⟨r, hafter, happroved⟩
    · rw [hother j hne, ← h.approved j]
      simp [hne]
  · have hold : order.map (numberAt s') = order.map (numberAt s) :=
      List.map_congr_left fun j hj => numberAt_congr (hother j (ne_of_mem_of_not_mem hj hnew))
    rw [List.map_append, hold, h.numbers, List.length_append, List.length_singleton,
      List.range_succ, List.map_append, List.map_singleton, List.map_singleton,
      numberAt_of_get hafter, hnumber, h.next]
  · rw [hnext, h.next, List.length_append, List.length_singleton]
    push_cast
    ring

/-! ### Writes and runs -/

lemma withAddress_memberNo (m : Member) (address : String) :
    (withAddress m address).memberNo = m.memberNo := by
  rw [withAddress]
  split_ifs <;> rfl

lemma withUsername_memberNo (m : Member) (username : String) :
    (withUsername m username).memberNo = m.memberNo := by
  rw [withUsername]
  split_ifs <;> rfl

lemma slotFor_fresh {found : Option (ℕ × Member)} {fresh : Member} {members : List Member}
    (h : slotFor s found fresh = (i, m, members)) (hfound : ∀ r ∈ found, s.members[r.1]? = some r.2)
    (hnone : s.members[i]? = none) : m = fresh := by
  cases found with
  | none =>
    cases h
    rfl
  | some r =>
    obtain ⟨j, b⟩ := r
    cases h
    rw [hfound _ rfl] at hnone
    cases hnone

lemma request_numbered {tid address username : String} {now : Time}
    (h : Numbered s order) (hm : requestMembership tid address username now s = .ok (r, s')) :
    Numbered s' order ∧ Kept s s' := by
  obtain ⟨i, m, members, hslot, hr, rfl⟩ := requestMembership_ok hm
  have happroved : r.approved = m.approved := by
    rw [hr, withUsername_approved, withAddress_approved]
  have hnumber : r.memberNo = m.memberNo := by
    rw [hr, withUsername_memberNo, withAddress_memberNo]
  refine ⟨h.set (slot_slotFor hslot) rfl rfl (fun hnone => ?_) happroved hnumber,
    kept_set (slot_slotFor hslot) rfl ?_ (fun hm => ⟨happroved.trans hm, hnumber⟩) fun hne => ?_⟩
  · rw [slotFor_fresh hslot (fun r hr => memberFor_getElem? hr) hnone]
  · rw [hr, withUsername_telegramId, withAddress_telegramId]
  · rw [hr, withUsername_address, withAddress_address, if_neg hne]

lemma approve_numbered {actor who address tx : String} {caller : Option String} {now : Time}
    {reply : Member × DepositorBody} (h : Numbered s order)
    (hm : approveMember actor who address tx caller now s = .ok (reply, s')) :
    ∃ i m members, approvalSlot s who address now = some (i, m, members) ∧
      Numbered s' (order ++ [i]) ∧ Kept s s' := by
  obtain ⟨i, m, members, hslot, -, hr, -, rfl⟩ := approveMember_slot hm
  have hwaiting : m.approved = false := by
    simp only [approveMember, bind_eq_ok, require_eq_ok] at hm
    obtain ⟨-, -, -, hcheck, -⟩ := hm
    obtain ⟨-, m', hm', happroved, -⟩ := checkApproveMember_ok.1 hcheck
    rw [hslot] at hm'
    obtain rfl : withAddress m address = m' := Option.some.inj hm'
    rwa [withAddress_approved] at happroved
  have happroved : reply.1.approved = true := by rw [hr]; rfl
  have hnumber : reply.1.memberNo = some s.nextMemberNo := by rw [hr]; rfl
  refine ⟨i, m, members, hslot, h.approve (slot_approvalSlot hslot) rfl rfl hwaiting happroved hnumber,
    kept_set (slot_approvalSlot hslot) rfl ?_ (fun hyes => ?_) fun hne => ?_⟩
  · rw [hr, ← withAddress_telegramId m address]
    rfl
  · rw [hwaiting] at hyes
    cases hyes
  · have haddress : (withAddress m address).address = m.address := by
      rw [withAddress_address, if_neg hne]
    rw [hr, ← haddress]
    rfl

lemma same_numbered (h : Numbered s order) (hsame : SameMembers s.members s'.members)
    (hnext : s'.nextMemberNo = s.nextMemberNo) : Numbered s' order := by
  obtain ⟨f, hmembers, hf⟩ := hsame
  have hget : ∀ j, s'.members[j]? = s.members[j]?.map f := fun j => by
    rw [hmembers, List.getElem?_map]
  have happroved : ∀ b, (f b).approved = b.approved := fun b => by
    obtain ⟨n, hn⟩ := hf b
    rw [hn]
  have hnumber : ∀ b, (f b).memberNo = b.memberNo := fun b => by
    obtain ⟨n, hn⟩ := hf b
    rw [hn]
  refine ⟨h.once, fun j => ?_, ?_, hnext.trans h.next⟩
  · rw [h.approved j, hget j]
    cases s.members[j]? <;> simp [happroved]
  · rw [← h.numbers]
    refine List.map_congr_left fun j _ => ?_
    rw [numberAt, numberAt, hget j]
    cases s.members[j]? <;> simp [hnumber]

/-- One write: an approval appends its place, and any other write leaves the order. -/
lemma numbered_next (h : Numbered s order) (w : Write) :
    Numbered (writeStore.next w s) (order ++ (approvedAt s w).toList) ∧
      Kept s (writeStore.next w s) := by
  have hfail : ∀ e, w.exec s = .error e → writeStore.next w s = s := fun e he => by
    have he' : writeStore.exec w s = .error e := he
    rw [Interface.next, he']
  by_cases happrove : ∃ actor who address tx caller clock,
      w = .op ⟨.act (.approveMember actor who address tx caller), clock⟩
  · obtain ⟨actor, who, address, tx, caller, clock, rfl⟩ := happrove
    cases hm : approveMember actor who address tx caller clock.now s with
    | error e =>
      have hexec : Write.exec (.op ⟨.act (.approveMember actor who address tx caller), clock⟩) s =
          .error e := by
        simp only [Write.exec, Op.exec, Update.mutate, Act.mutate, hm, bind, Except.bind]
        rfl
      have hnone : approvedAt s (.op ⟨.act (.approveMember actor who address tx caller), clock⟩) =
          none := by
        rw [approvedAt, hm]
        rfl
      rw [hfail e hexec, hnone, Option.toList_none, List.append_nil]
      exact ⟨h, .refl s⟩
    | ok found =>
      obtain ⟨reply, mid⟩ := found
      obtain ⟨i, m, members, hslot, hnumbered, hkept⟩ := approve_numbered h hm
      have hexec : Write.exec (.op ⟨.act (.approveMember actor who address tx caller), clock⟩) s =
          .ok (reply, bump mid clock.stamp) :=
        Op.exec_of_ok ⟨.act (.approveMember actor who address tx caller), clock⟩ hm
      have hat : approvedAt s (.op ⟨.act (.approveMember actor who address tx caller), clock⟩) =
          some i := by
        rw [approvedAt, hm, hslot]
        rfl
      rw [Interface.next_of_ok (I := writeStore) hexec, hat]
      exact ⟨⟨hnumbered.once, hnumbered.approved, hnumbered.numbers, hnumbered.next⟩, hkept⟩
  · have hnone : approvedAt s w = none := by
      rw [approvedAt.eq_def]
      split
      · next actor who address tx caller clock =>
        exact absurd ⟨actor, who, address, tx, caller, clock, rfl⟩ happrove
      · rfl
    rw [hnone, Option.toList_none, List.append_nil]
    cases hexec : w.exec s with
    | error e =>
      rw [hfail e hexec]
      exact ⟨h, .refl s⟩
    | ok found =>
      obtain ⟨reply, s'⟩ := found
      rw [Interface.next_of_ok (I := writeStore) hexec]
      rcases members_exec hexec with ⟨a, clock, rfl, ha⟩ | ⟨hsame, hnext⟩
      · obtain ⟨mid, hm, rfl⟩ := Op.exec_ok hexec
        rcases ha with ⟨tid, address, username, rfl⟩ | ⟨actor, who, address, tx, caller, rfl⟩
        · dsimp only [Update.mutate, Act.mutate] at hm
          obtain ⟨hnumbered, hkept⟩ := request_numbered h hm
          exact ⟨⟨hnumbered.once, hnumbered.approved, hnumbered.numbers, hnumbered.next⟩, hkept⟩
        · exact absurd ⟨actor, who, address, tx, caller, clock, rfl⟩ happrove
      · exact ⟨same_numbered h hsame hnext, kept_of_same hsame⟩

theorem numbered_runOps (h : Numbered s order) (writes : List Write) :
    Numbered (writeStore.runOps writes s) (order ++ approvals s writes) ∧
      Kept s (writeStore.runOps writes s) := by
  induction writes generalizing s order with
  | nil =>
    rw [approvals, List.append_nil]
    exact ⟨h, .refl s⟩
  | cons w writes ih =>
    obtain ⟨hnext, hkept⟩ := numbered_next h w
    obtain ⟨hrun, hkept'⟩ := ih hnext
    rw [List.append_assoc] at hrun
    exact ⟨hrun, hkept.trans hkept'⟩

lemma numbered_new {fund : Fund} {host : Agent} {now stamp : Time}
    (hcreate : createFund fund host now stamp = .ok s₀) : Numbered s₀ [] := by
  simp only [createFund, bind_eq_ok, pure_eq_ok] at hcreate
  obtain ⟨-, -, name, -, rfl⟩ := hcreate
  exact ⟨List.nodup_nil, by simp, rfl, rfl⟩

/-- In every run from a new fund the approved members are numbered from 1 on in the order of their
approvals, and what follows keeps every approval, every number and every wallet. -/
theorem members_numbered {fund : Fund} {host : Agent} {now stamp : Time}
    (hcreate : createFund fund host now stamp = .ok s₀) (writes more : List Write) :
    Numbered (writeStore.runOps writes s₀) (approvals s₀ writes) ∧
      Kept (writeStore.runOps writes s₀) (writeStore.runOps (writes ++ more) s₀) := by
  obtain ⟨hrun, -⟩ := numbered_runOps (numbered_new hcreate) writes
  rw [List.nil_append] at hrun
  refine ⟨hrun, ?_⟩
  rw [Interface.runOps_append]
  exact (numbered_runOps hrun more).2

def approveWrite (who address : String) : Write :=
  .op ⟨.act (.approveMember "Iris" who address "" (some "100")), ⟨2100, 2100⟩⟩

/-- Two people join; the second is approved first, then once more, and a wallet that nobody asked
with is approved after them. -/
def approvalRun : List Write :=
  [joinWrite "42" walletA "ana", joinWrite "7" walletB "bo", approveWrite "7" "",
    approveWrite "7" "", approveWrite "42" "",
    approveWrite "0x000000000000000000000000000000000000000C" ""]

theorem members_numbered_run :
    Numbered (writeStore.runOps approvalRun sampleState) [1, 0, 2] ∧
      Kept (writeStore.runOps approvalRun sampleState)
        (writeStore.runOps (approvalRun ++ approvalRun) sampleState) := by
  have horder : approvals sampleState approvalRun = [1, 0, 2] := by decide +kernel
  have hnumbered := members_numbered createFund_sample approvalRun approvalRun
  rwa [horder] at hnumbered

end SherwoodMonitor.MemberNumbers
