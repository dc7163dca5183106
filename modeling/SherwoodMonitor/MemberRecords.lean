import SherwoodMonitor.FundWrites

/-! Which member record a request or an approval is about. Both look a record up by a telegram id or
a wallet and fall back from one key to the other; both fill a wallet in only where none is stored. -/
namespace SherwoodMonitor.MemberRecords
open PyText Lookup Models FundState Rules Service ChainCard Calls Effects FundWrites AtomicStore

variable {s s' : FundState} {who tid address username : String} {now : Time} {i : ℕ} {m r : Member}

/-- `who` is the record's telegram id or wallet, up to case and surrounding space. -/
def Named (who : String) (m : Member) : Prop :=
  lookupKey m.telegramId = lookupKey who ∨ lookupKey m.address = lookupKey who

/-- What the lookup compares. -/
def goesBy (key : String) (m : Member) : Bool :=
  lower m.telegramId = key || (m.address ≠ "" && lower m.address = key)

lemma member_eq (s : FundState) (who : String) :
    s.member who =
      if lookupKey who = "" then none else locate (goesBy (lookupKey who)) s.members := rfl

lemma member_getElem? (h : s.member who = some (i, m)) : s.members[i]? = some m := by
  rw [member_eq] at h
  split_ifs at h
  exact locate_getElem? h

lemma member_goesBy (h : s.member who = some (i, m)) : goesBy (lookupKey who) m = true := by
  rw [member_eq] at h
  split_ifs at h
  exact locate_holds h

lemma goesBy_iff {key : String} : goesBy key m = true ↔
    lower m.telegramId = key ∨ m.address ≠ "" ∧ lower m.address = key := by
  simp [goesBy]

lemma named_of_goesBy (h : goesBy (lookupKey who) m = true) : Named who m :=
  (goesBy_iff.1 h).imp lookupKey_of_lower fun h => lookupKey_of_lower h.2

lemma memberFor_cases (h : memberFor s who address = some (i, m)) :
    s.member who = some (i, m) ∨
      s.member who = none ∧ address ≠ "" ∧ s.member address = some (i, m) := by
  rw [memberFor, Option.or_eq_some_iff] at h
  rcases h with h | ⟨hnone, h⟩
  · exact Or.inl h
  · split_ifs at h with haddress
    exact Or.inr ⟨hnone, haddress, h⟩

lemma memberFor_getElem? (h : memberFor s who address = some (i, m)) : s.members[i]? = some m := by
  rcases memberFor_cases h with h | ⟨-, -, h⟩
  · exact member_getElem? h
  · exact member_getElem? h

lemma memberFor_eq_none : memberFor s who address = none ↔
    s.member who = none ∧ (address ≠ "" → s.member address = none) := by
  rw [memberFor, Option.or_eq_none_iff]
  split_ifs with h <;> simp [h]

/-! ### Where a record is written -/

/-- The place and the record that an update works on: one of the fund's, or a new one. -/
inductive Slot (s : FundState) : ℕ → Member → List Member → Prop
  | found {i : ℕ} {m : Member} (h : s.members[i]? = some m) : Slot s i m s.members
  | fresh (m : Member) : Slot s s.members.length m (s.members ++ [m])

lemma Slot.lt {members : List Member} (h : Slot s i m members) : i < members.length := by
  cases h with
  | found h => exact (List.getElem?_eq_some_iff.1 h).1
  | fresh m => simp

lemma Slot.self {members : List Member} (h : Slot s i m members) (r : Member) :
    (members.set i r)[i]? = some r :=
  List.getElem?_set_self h.lt

/-- The records in the other places stay. -/
lemma Slot.other {members : List Member} (h : Slot s i m members) (r : Member) {j : ℕ}
    (hj : j ≠ i) : (members.set i r)[j]? = s.members[j]? := by
  rw [List.getElem?_set_ne hj.symm]
  cases h with
  | found h => rfl
  | fresh m =>
    rcases Nat.lt_or_gt_of_ne hj with hlt | hlt
    · exact List.getElem?_append_left hlt
    · rw [List.getElem?_eq_none (by simp; omega), List.getElem?_eq_none (by omega)]

lemma slot_slotFor {fresh : Member} {members : List Member}
    (h : slotFor s (memberFor s tid address) fresh = (i, m, members)) : Slot s i m members := by
  cases hfor : memberFor s tid address with
  | none =>
    rw [hfor] at h
    cases h
    exact .fresh _
  | some found =>
    obtain ⟨j, m'⟩ := found
    rw [hfor] at h
    cases h
    exact .found (memberFor_getElem? hfor)

/-- The record to approve, with what it is approved under. -/
lemma approvalSlot_cases {members : List Member}
    (h : approvalSlot s who address now = some (i, m, members)) :
    memberFor s who address = some (i, m) ∧ members = s.members ∨
      memberFor s who address = none ∧ i = s.members.length ∧ members = s.members ++ [m] ∧
        (isAddress who = true ∧ m = { telegramId := "", address := who, joinedAt := now } ∨
          isAddress who = false ∧ address ≠ "" ∧
            m = { telegramId := who, address, joinedAt := now }) := by
  rw [approvalSlot] at h
  split at h
  · next j m' hfor =>
    cases h
    exact Or.inl ⟨hfor, rfl⟩
  · next hnone =>
    split_ifs at h with hwho haddress
    · cases h
      exact Or.inr ⟨hnone, rfl, rfl, Or.inl ⟨hwho, rfl⟩⟩
    · cases h
      exact Or.inr ⟨hnone, rfl, rfl, Or.inr ⟨by simpa using hwho, haddress, rfl⟩⟩

lemma slot_approvalSlot {members : List Member}
    (h : approvalSlot s who address now = some (i, m, members)) : Slot s i m members := by
  rcases approvalSlot_cases h with ⟨hfor, rfl⟩ | ⟨-, rfl, rfl, -⟩
  · exact .found (memberFor_getElem? hfor)
  · exact .fresh m

/-- What an approval writes. -/
lemma approveMember_slot {actor tx : String} {caller : Option String} {r : Member × DepositorBody}
    (h : approveMember actor who address tx caller now s = .ok (r, s')) :
    ∃ i m members, approvalSlot s who address now = some (i, m, members) ∧
      isAddress (withAddress m address).address = true ∧
      r.1 = approvedMember (withAddress m address) s.nextMemberNo tx now ∧
      r.2 = ⟨s.fund.chainId, s.fund.vault, (withAddress m address).address⟩ ∧
      s' = { s with members := members.set i r.1, nextMemberNo := s.nextMemberNo + 1 } := by
  simp only [approveMember, bind_eq_ok, require_eq_ok] at h
  obtain ⟨-, -, -, happrove, h⟩ := h
  cases hslot : approvalSlot s who address now with
  | none =>
    rw [hslot] at h
    exact absurd h throw_ne_ok
  | some t =>
    obtain ⟨i, m, members⟩ := t
    obtain ⟨-, m', hm, -, haddress⟩ := checkApproveMember_ok.1 happrove
    rw [hslot] at hm
    obtain rfl : withAddress m address = m' := Option.some.inj hm
    simp only [hslot, Option.map_some, pure_eq_ok, Prod.mk.injEq] at h
    obtain ⟨rfl, rfl⟩ := h
    exact ⟨i, m, members, rfl, haddress, rfl, rfl, rfl⟩

/-! ### Approvals -/

/-- The approval is of who was named, and the body names the wallet that was passed. -/
structure RightPerson (s' : FundState) (who address : String) (r : Member × DepositorBody) :
    Prop where
  recorded : r.1 ∈ s'.members ∧ r.1.approved = true
  named : Named who r.1
  depositor : address ≠ "" → lookupKey r.2.depositor = lookupKey address

/-- The record found is who's own and its wallet, if it has one, the one passed; a new record for a
wallet is not made with another one passed. -/
def KeysAgree (s : FundState) (who address : String) : Prop :=
  match memberFor s who address with
  | some (_, m) => Named who (withAddress m address) ∧
      (address = "" ∨ m.address = "" ∨ lookupKey m.address = lookupKey address)
  | none => isAddress who = true → address = "" ∨ lookupKey who = lookupKey address

lemma withAddress_address (m : Member) (address : String) :
    (withAddress m address).address = if m.address = "" then address else m.address := by
  rw [withAddress]
  split_ifs with hfill hempty hempty
  · rfl
  · exact absurd hfill.2 hempty
  · rw [hempty]
    by_contra hne
    exact hfill ⟨Ne.symm hne, hempty⟩
  · rfl

lemma keysAgree_of_found (h : memberFor s who address = some (i, m)) : KeysAgree s who address ↔
    Named who (withAddress m address) ∧
      (address = "" ∨ m.address = "" ∨ lookupKey m.address = lookupKey address) := by
  rw [KeysAgree, h]

lemma keysAgree_of_none (h : memberFor s who address = none) : KeysAgree s who address ↔
    (isAddress who = true → address = "" ∨ lookupKey who = lookupKey address) := by
  rw [KeysAgree, h]

lemma isAddress_empty : isAddress "" = false := by decide

/-- An approval is of the right person exactly where the keys that it was given agree with the
records. -/
theorem approves_right_iff {actor tx : String} {caller : Option String}
    {r : Member × DepositorBody}
    (h : approveMember actor who address tx caller now s = .ok (r, s')) :
    RightPerson s' who address r ↔ KeysAgree s who address := by
  obtain ⟨i, m, members, hslot, -, hr, hbody, hs'⟩ := approveMember_slot h
  have hrecorded : r.1 ∈ s'.members ∧ r.1.approved = true := by
    rw [hs']
    exact ⟨List.mem_of_getElem? ((slot_approvalSlot hslot).self r.1), by rw [hr]; rfl⟩
  have hnamed : Named who r.1 ↔ Named who (withAddress m address) := by rw [hr]; rfl
  have hdepositor : r.2.depositor = if m.address = "" then address else m.address := by
    rw [hbody, ← withAddress_address]
  have hright : RightPerson s' who address r ↔ Named who (withAddress m address) ∧
      (address ≠ "" → lookupKey r.2.depositor = lookupKey address) :=
    ⟨fun h => ⟨hnamed.1 h.named, h.depositor⟩, fun h => ⟨hrecorded, hnamed.2 h.1, h.2⟩⟩
  rw [hright, hdepositor]
  rcases approvalSlot_cases hslot with ⟨hfor, -⟩ | ⟨hnone, -, -, ⟨hwho, rfl⟩ | ⟨hwho, -, rfl⟩⟩
  · rw [keysAgree_of_found hfor]
    refine and_congr Iff.rfl ?_
    split_ifs with hempty
    · simp [hempty]
    · simp only [hempty, false_or]
      exact Decidable.imp_iff_not_or.trans (by rw [not_not])
  · -- a new record for a wallet
    have hne : who ≠ "" := by
      rintro rfl
      rw [isAddress_empty] at hwho
      cases hwho
    have hnamed : Named who (withAddress { telegramId := "", address := who, joinedAt := now }
        address) := Or.inr (by rw [withAddress_address, if_neg hne])
    rw [keysAgree_of_none hnone, if_neg hne]
    simp only [hnamed, hwho, true_and, forall_const]
    exact Decidable.imp_iff_not_or.trans (by rw [not_not])
  · -- a new record for an id
    have hnamed : Named who (withAddress { telegramId := who, address, joinedAt := now } address) := by
      refine Or.inl ?_
      rw [withAddress]
      split_ifs <;> rfl
    rw [keysAgree_of_none hnone, hwho]
    simp only [hnamed, true_and, Bool.false_eq_true, false_implies, iff_true]
    intro hne
    rw [if_neg hne]

def walletA : String := "0x000000000000000000000000000000000000000A"
def walletB : String := "0x000000000000000000000000000000000000000b"

/-- Two members wait, each with a wallet. -/
def waitingState : FundState :=
  { sampleState with
    members := [{ telegramId := "42", address := walletA }, { telegramId := "7", address := walletB }] }

/-- The host approves a member under its own wallet, in another case. -/
theorem approves_right_waiting :
    ∃ r s', approveMember "Iris" "42" "0x000000000000000000000000000000000000000a" "" (some "100") 2000
      waitingState = .ok (r, s') ∧
        RightPerson s' "42" "0x000000000000000000000000000000000000000a" r := by
  have hok : (approveMember "Iris" "42" "0x000000000000000000000000000000000000000a" ""
      (some "100") 2000 waitingState).toOption.isSome = true := by decide +kernel
  cases h : approveMember "Iris" "42" "0x000000000000000000000000000000000000000a" ""
      (some "100") 2000 waitingState with
  | error e =>
    rw [h] at hok
    cases hok
  | ok approved =>
    obtain ⟨r, s'⟩ := approved
    refine ⟨r, s', rfl, (approves_right_iff h).2 ?_⟩
    rw [keysAgree_of_found (i := 0) (m := { telegramId := "42", address := walletA })
      (by decide +kernel)]
    exact ⟨Or.inl (by decide +kernel), Or.inr (Or.inr (by decide +kernel))⟩

/-- The wallet passed for a member with another one is dropped, and the wallet passed for an unknown
id has its own member approved. -/
theorem approves_wrong_waiting :
    (approveMember "Iris" "42" walletB "" (some "100") 2000 waitingState).map
        (fun p => (p.1.1.telegramId, p.1.2.depositor)) = .ok ("42", walletA) ∧
      (approveMember "Iris" "99" walletB "" (some "100") 2000 waitingState).map
        (fun p => (p.1.1.telegramId, p.1.2.depositor)) = .ok ("7", walletB) := by
  decide +kernel

end SherwoodMonitor.MemberRecords
