import SherwoodMonitor.TallyIntegrity

/-! Taps on 👍 Back it (`fund/telegram.py`). A tap reads in one transaction whether its member backs
the proposal and writes the mark in another; nothing keeps the proposal still in between. -/
namespace SherwoodMonitor.BackToggling
open PyText PyNumber Lookup Models FundState Rules Service Calls Effects FundWrites AtomicStore
  MemberRecords MembershipRequests ProposalIds StatusMoves TallyIntegrity

/-- A tap by one user: what it names, the clock of its write, and whether each of its three accesses
to the state file gets the lock in time. -/
structure Tap where
  tgId : ℤ
  proposalId : String
  clock : Clock
  reads : Bool := true
  writes : Bool := true
  answers : Bool := true

def Tap.voter (tap : Tap) : String := toString tap.tgId

/-- How far a tap got: which vote it chose, which record it wrote. -/
inductive Phase
  | waiting
  | chosen (id side : String)
  | written (record : ProposalRecord)
  | answered (state : FundState) (record : ProposalRecord)
  | unknown
  | refused (reason : String)
  | failed (e : Exc)

/-- Tapped again, the mark is taken back. -/
def sideFor (record : ProposalRecord) (voter : String) : String :=
  if voter ∈ record.backers then "clear" else "back"

/-- What the user reads when the vote is refused. -/
def voteRefusal (code reason : String) : String :=
  if code = "not_member" then
    "Only approved members can back proposals. Tap 🎟 Join on the fund card."
  else reason

/-- `LockTimeout`; the text names the lock file. -/
def lockTimeout : Exc := .raised .store "timed out waiting for lock"

/-- `toggle_backer`, one transaction at a time. -/
def Tap.next (tap : Tap) (state : FundState) : Phase → Phase × FundState
  | .waiting =>
      if tap.reads then
        match state.proposal tap.proposalId with
        | .error e => (.failed e, state)
        | .ok none => (.unknown, state)
        | .ok (some (_, record)) => (.chosen record.id (sideFor record tap.voter), state)
      else (.unknown, state) -- `_load` gives None for a state that it cannot read
  | .chosen id side =>
      if tap.writes then
        match Op.exec ⟨.act (.recordVote id tap.voter side "member" ""), tap.clock⟩ state with
        | .ok (record, state') => (.written record, state')
        | .error (.rule code reason) => (.refused (voteRefusal code reason), state)
        | .error e => (.failed e, state)
      else (.failed lockTimeout, state)
  | .written record =>
      if tap.answers then (.answered state record, state) else (.failed lockTimeout, state)
  | phase => (phase, state)

/-- The state file, and the taps at work on it, each in a worker thread. -/
structure World where
  store : FundState
  taps : List (Tap × Phase)

/-- The `k`-th tap takes its next step. -/
def World.step (w : World) (k : ℕ) : World :=
  match w.taps[k]? with
  | none => w
  | some (tap, phase) =>
      ⟨(tap.next w.store phase).2, w.taps.set k (tap, (tap.next w.store phase).1)⟩

def World.run (w : World) (order : List ℕ) : World := order.foldl World.step w

def start (state : FundState) (taps : List Tap) : World := ⟨state, taps.map (·, .waiting)⟩

/-- `x` backs the proposal. -/
def Backs (s : FundState) (id x : String) : Prop := ∃ p ∈ s.proposals, p.id = id ∧ x ∈ p.backers

instance (s : FundState) (id x : String) : Decidable (Backs s id x) :=
  inferInstanceAs (Decidable (∃ p ∈ s.proposals, p.id = id ∧ x ∈ p.backers))

/-- The proposal that the tap's write was about. -/
def Phase.target : Phase → Option String
  | .written record => some record.id
  | .answered _ record => some record.id
  | _ => none

/-- The tap ended, and gave the record back. -/
def Phase.succeeded : Phase → Option String
  | .answered _ record => some record.id
  | _ => none

def Phase.ended : Phase → Bool
  | .waiting => false
  | .chosen .. => false
  | .written .. => false
  | _ => true

/-- The user's taps on the proposal that succeeded. -/
def World.successes (w : World) (tgId : ℤ) (id : String) : ℕ :=
  w.taps.countP fun t => t.1.tgId = tgId ∧ t.2.succeeded = some id

/-- Only the mark of `x` on the proposal changed. -/
def FlipsOnly (s s' : FundState) (id x : String) : Prop :=
  ∀ id' y, Backs s' id' y ↔ if id' = id ∧ y = x then ¬Backs s id' y else Backs s id' y

def SameMarks (s s' : FundState) : Prop := ∀ id y, Backs s' id y ↔ Backs s id y

/-- A step of a tap changes no mark, or it is the tap's write and changes its own user's. -/
def StepFlips (w : World) (k : ℕ) : Prop :=
  SameMarks w.store (w.step k).store ∨
    ∃ tap id side record, w.taps[k]? = some (tap, .chosen id side) ∧
      (w.step k).taps[k]? = some (tap, .written record) ∧
      FlipsOnly w.store (w.step k).store record.id tap.voter

/-- Once all taps ended, who was no backer is one after an odd number of taps that succeeded, and who
was one after an even number. -/
def NoTapLost (s : FundState) (w : World) : Prop :=
  (∀ t ∈ w.taps, t.2.ended = true) → ∀ tgId id,
    Backs w.store id (toString tgId) ↔
      Xor (Backs s id (toString tgId)) (Odd (w.successes tgId id))

/-- When a tap gets to write, its user's mark is as it was when it read; and what was written is
answered. -/
structure Meets (w : World) (k : ℕ) : Prop where
  current : ∀ tap id side, w.taps[k]? = some (tap, .chosen id side) → tap.writes = true →
    side = if Backs w.store id tap.voter then "clear" else "back"
  answers : ∀ tap record, w.taps[k]? = some (tap, .written record) → tap.answers = true

def MeetsAll : World → List ℕ → Prop
  | _, [] => True
  | w, k :: order => Meets w k ∧ MeetsAll (w.step k) order

/-- `Meets`, read off the phase. -/
def meetsNow (w : World) (k : ℕ) : Bool :=
  match w.taps[k]? with
  | some (tap, .chosen id side) =>
      !tap.writes || side = if Backs w.store id tap.voter then "clear" else "back"
  | some (tap, .written _) => tap.answers
  | _ => true

lemma meets_iff (w : World) (k : ℕ) : meetsNow w k = true ↔ Meets w k := by
  rw [meetsNow]
  constructor
  · intro h
    refine ⟨fun tap id side hk => ?_, fun tap record hk => ?_⟩ <;> rw [hk] at h
    · intro hwrites
      simpa [hwrites] using h
    · exact h
  · intro h
    split
    · next tap id side hk =>
      cases hwrites : tap.writes with
      | false => rfl
      | true => simpa using h.current tap id side hk hwrites
    · next tap record hk => exact h.answers tap record hk
    · rfl

instance (w : World) (k : ℕ) : Decidable (Meets w k) := decidable_of_iff _ (meets_iff w k)

instance instDecidableMeetsAll : (w : World) → (order : List ℕ) → Decidable (MeetsAll w order)
  | _, [] => isTrue trivial
  | w, k :: order =>
      haveI := instDecidableMeetsAll (w.step k) order
      inferInstanceAs (Decidable (Meets w k ∧ MeetsAll (w.step k) order))

variable {s s' s₀ : FundState} {now : Time} {id x y : String} {tap : Tap} {i : ℕ}

/-! ### Members -/

/-- Who is approved has a wallet. -/
def ApprovedWallets (s : FundState) : Prop :=
  ∀ m ∈ s.members, m.approved = true → isAddress m.address = true

lemma slotFor_cases {fresh m : Member} {members : List Member} {tid address : String}
    (h : slotFor s (memberFor s tid address) fresh = (i, m, members)) : m = fresh ∨ m ∈ s.members := by
  cases hfor : memberFor s tid address with
  | none =>
    rw [hfor] at h
    cases h
    exact Or.inl rfl
  | some found =>
    obtain ⟨j, m'⟩ := found
    rw [hfor] at h
    cases h
    exact Or.inr (List.mem_of_getElem? (memberFor_getElem? hfor))

lemma approvedWallets_set {i : ℕ} {m r : Member} {members : List Member}
    (hs : ApprovedWallets s) (hslot : Slot s i m members)
    (hr : r.approved = true → isAddress r.address = true) :
    ∀ b ∈ members.set i r, b.approved = true → isAddress b.address = true := by
  intro b hb happroved
  obtain ⟨j, hj⟩ := List.getElem?_of_mem hb
  rcases eq_or_ne j i with rfl | hne
  · rw [hslot.self r] at hj
    rw [← Option.some.inj hj] at happroved ⊢
    exact hr happroved
  · rw [hslot.other r hne] at hj
    exact hs b (List.mem_of_getElem? hj) happroved

lemma approvedWallets_exec {w : Write} {r : w.Reply} (hs : ApprovedWallets s)
    (h : w.exec s = .ok (r, s')) : ApprovedWallets s' := by
  rcases members_exec h with ⟨a, clock, rfl, ha⟩ | ⟨⟨f, hmembers, hf⟩, -⟩
  · obtain ⟨mid, hm, rfl⟩ := Op.exec_ok h
    have hmid : ApprovedWallets mid := by
      rcases ha with ⟨tid, address, username, rfl⟩ | ⟨actor, who, address, tx, caller, rfl⟩ <;>
        dsimp only [Update.mutate, Act.mutate] at hm
      · obtain ⟨i, m, members, hslotFor, hr, rfl⟩ := requestMembership_ok hm
        refine approvedWallets_set hs (slot_slotFor hslotFor) fun happroved => ?_
        rw [hr, withUsername_approved, withAddress_approved] at happroved
        have hwallet : isAddress m.address = true := by
          rcases slotFor_cases hslotFor with rfl | hm
          · cases happroved
          · exact hs m hm happroved
        have hne : m.address ≠ "" := fun hempty => by
          rw [hempty, isAddress_empty] at hwallet
          cases hwallet
        rw [hr, withUsername_address, withAddress_address, if_neg hne]
        exact hwallet
      · obtain ⟨i, m, members, hslot, haddress, hr, -, rfl⟩ := approveMember_slot hm
        refine approvedWallets_set hs (slot_approvalSlot hslot) fun _ => ?_
        rw [hr]
        exact haddress
    exact hmid
  · intro m hm happroved
    rw [hmembers] at hm
    obtain ⟨m₀, hm₀, rfl⟩ := List.mem_map.1 hm
    obtain ⟨n, hn⟩ := hf m₀
    rw [hn] at happroved ⊢
    exact hs m₀ hm₀ happroved

/-- A number is no wallet. -/
lemma isAddress_toString (n : ℤ) : isAddress (toString n) = false := by
  by_contra h
  rw [Bool.not_eq_false, isAddress, Bool.and_eq_true, isHexData, ← strip_toString,
    beforeDollar_strip, strip_toString] at h
  have hhex := h.1
  split at hhex
  · next l hchars =>
    have hx : 'x' ∈ (toString n).toList := by rw [hchars]; simp
    exact absurd (toNat_of_mem_toString hx) (by decide)
  · cases hhex

/-- The mark of an approved member that a telegram id finds is the id. -/
lemma mark_eq {n : ℤ} {j : ℕ} {m : Member} (hs : ApprovedWallets s)
    (hm : s.member (toString n) = some (j, m)) (happroved : m.approved = true) :
    (if m.telegramId = "" then m.address else m.telegramId) = toString n := by
  have hkey : lookupKey (toString n) = toString n := by rw [lookupKey, strip_toString, lower_toString]
  have hgoes := goesBy_iff.1 (member_goesBy hm)
  have hne : toString n ≠ "" := fun hempty => by
    rw [member_eq, hkey, if_pos hempty] at hm
    cases hm
  rw [hkey] at hgoes
  have htid : m.telegramId = toString n := by
    refine hgoes.elim eq_of_lower_toString fun hwallet => ?_
    have haddress := hs m (List.mem_of_getElem? (member_getElem? hm)) happroved
    rw [eq_of_lower_toString hwallet.2, isAddress_toString] at haddress
    cases haddress
  rw [htid, if_neg hne]

/-! ### One vote -/

lemma backs_iff {p : ProposalRecord} (hs : IdsIssued s) (hp : p ∈ s.proposals) :
    Backs s p.id y ↔ y ∈ p.backers := by
  constructor
  · rintro ⟨q, hq, hid, hy⟩
    rwa [hs.eq_of_id hp hq hid.symm]
  · exact fun hy => ⟨p, hp, rfl, hy⟩

/-- A record written back changes the backers of its own proposal alone. -/
lemma backs_setProposal {old new : ProposalRecord} (hs : IdsIssued (setProposal s i new))
    (hold : s.proposals[i]? = some old) (hid : new.id = old.id) :
    Backs (setProposal s i new) id y ↔ if id = old.id then y ∈ new.backers else Backs s id y := by
  have hlt : i < s.proposals.length := (List.getElem?_eq_some_iff.1 hold).1
  split_ifs with hown
  · rw [hown, ← hid]
    exact backs_iff hs (List.mem_of_getElem? (List.getElem?_set_self hlt))
  · refine exists_congr fun p => ⟨?_, ?_⟩
    · rintro ⟨hp, hpid, hy⟩
      rcases mem_set_cases hp with rfl | hp
      · exact absurd (hpid.symm.trans hid) hown
      · exact ⟨hp, hpid, hy⟩
    · rintro ⟨hp, hpid, hy⟩
      obtain ⟨j, hj⟩ := List.getElem?_of_mem hp
      have hne : i ≠ j := by
        rintro rfl
        rw [hold] at hj
        exact hown (by rw [← hpid, Option.some.inj hj])
      have hkept : (s.proposals.set i new)[j]? = some p := (List.getElem?_set_ne hne).trans hj
      exact ⟨List.mem_of_getElem? hkept, hpid, hy⟩

/-- What a tap's vote writes: the user's own mark on the proposal, and nobody else's. -/
lemma vote_backs {side : String} {record : ProposalRecord} (hs : IdsIssued s)
    (hw : ApprovedWallets s) (hside : lower (strip side) = side)
    (hid : id ∈ s.proposals.map (·.id))
    (h : Op.exec ⟨.act (.recordVote id tap.voter side "member" ""), tap.clock⟩ s =
      .ok (record, s')) :
    record.id = id ∧ KeepsIds s s' ∧ ∀ id' y, Backs s' id' y ↔
      if id' = id ∧ y = tap.voter then side = "back" else Backs s id' y := by
  obtain ⟨mid, hm, rfl⟩ := Op.exec_ok h
  dsimp only [Update.mutate, Act.mutate] at hm
  have hids : IdsIssued mid := hs.mutate (u := .act (.recordVote id tap.voter side "member" "")) hm
  obtain ⟨i, old, hfind, rfl, ⟨hkind, -⟩ | ⟨-, j, m, hmember, hvote, hrecord⟩⟩ := recordVote_ok hm
  · exact absurd hkind (by decide)
  obtain ⟨p, hp, rfl⟩ := List.mem_map.1 hid
  obtain ⟨k, hk⟩ := List.getElem?_of_mem hp
  obtain ⟨rfl, rfl⟩ : i = k ∧ old = p := by
    simpa using hfind.symm.trans (hs.find hk)
  obtain ⟨⟨m', hm', happroved⟩, -⟩ := checkMemberVote_ok.1 hvote
  rw [← Option.some.inj hm'] at happroved
  have hmark : (if m.telegramId = "" then m.address else m.telegramId) = tap.voter :=
    mark_eq hw hmember happroved
  rw [hmark, hside] at hrecord
  have hrid : record.id = old.id := by rw [hrecord]; rfl
  refine ⟨hrid, ⟨rfl, map_set_of_eq hk hrid⟩, fun id' y => ?_⟩
  have hset : Backs (bump (setProposal s i record) tap.clock.stamp) id' y ↔
      if id' = old.id then y ∈ record.backers else Backs s id' y :=
    backs_setProposal hids hk hrid
  rw [hset, hrecord]
  by_cases hown : id' = old.id
  · subst hown
    rw [if_pos rfl, mem_backers_marked, backs_iff hs hp]
    rcases eq_or_ne y tap.voter with rfl | hy
    · simp
    · rw [if_neg fun h => hy h.2]
      simp only [ne_eq, hy, not_false_iff, and_true, and_false, or_false]
  · rw [if_neg hown, if_neg fun h => hown h.1]

/-! ### One step -/

/-- A step of a tap leaves the state, or it is a vote that went through. -/
lemma next_cases (state : FundState) (phase : Phase) :
    (tap.next state phase).2 = state ∧
        (∀ id side, (tap.next state phase).1 = .chosen id side → phase = .chosen id side ∨
          id ∈ state.proposals.map (·.id) ∧ (side = "back" ∨ side = "clear")) ∧
        ((tap.next state phase).1.target = phase.target ∨
          ∃ record, phase = .written record ∧ tap.answers = false) ∨
      ∃ id side record, phase = .chosen id side ∧ tap.writes = true ∧
        (tap.next state phase).1 = .written record ∧
        Op.exec ⟨.act (.recordVote id tap.voter side "member" ""), tap.clock⟩ state =
          .ok (record, (tap.next state phase).2) := by
  cases phase with
  | waiting =>
    refine Or.inl ?_
    rw [Tap.next]
    split_ifs
    · split
      · exact ⟨rfl, fun _ _ h => (nomatch h), Or.inl rfl⟩
      · exact ⟨rfl, fun _ _ h => (nomatch h), Or.inl rfl⟩
      · next i record hfind =>
        refine ⟨rfl, ?_, Or.inl rfl⟩
        rintro id side ⟨⟩
        refine Or.inr ⟨List.mem_map_of_mem (mem_of_found hfind), ?_⟩
        rw [sideFor]
        split_ifs
        · exact Or.inr rfl
        · exact Or.inl rfl
    · exact ⟨rfl, fun _ _ h => (nomatch h), Or.inl rfl⟩
  | chosen id side =>
    rw [Tap.next]
    split_ifs with hwrites
    · split
      · next record state' hexec => exact Or.inr ⟨id, side, record, rfl, hwrites, rfl, hexec⟩
      · exact Or.inl ⟨rfl, fun _ _ h => (nomatch h), Or.inl rfl⟩
      · exact Or.inl ⟨rfl, fun _ _ h => (nomatch h), Or.inl rfl⟩
    · exact Or.inl ⟨rfl, fun _ _ h => (nomatch h), Or.inl rfl⟩
  | written record =>
    refine Or.inl ?_
    rw [Tap.next]
    split_ifs with hanswers
    · exact ⟨rfl, fun _ _ h => (nomatch h), Or.inl rfl⟩
    · exact ⟨rfl, fun _ _ h => (nomatch h), Or.inr ⟨record, rfl, by simpa using hanswers⟩⟩
  | answered state record => exact Or.inl ⟨rfl, fun _ _ h => (nomatch h), Or.inl rfl⟩
  | unknown => exact Or.inl ⟨rfl, fun _ _ h => (nomatch h), Or.inl rfl⟩
  | refused reason => exact Or.inl ⟨rfl, fun _ _ h => (nomatch h), Or.inl rfl⟩
  | failed e => exact Or.inl ⟨rfl, fun _ _ h => (nomatch h), Or.inl rfl⟩

/-- The user's taps whose write on the proposal went through. -/
def World.hits (w : World) (tgId : ℤ) (id : String) : ℕ :=
  w.taps.countP fun t => t.1.tgId = tgId ∧ t.2.target = some id

/-- Up to now the taps did what they should. -/
structure Tracked (s : FundState) (w : World) : Prop where
  ids : IdsIssued w.store
  wallets : ApprovedWallets w.store
  chosen : ∀ tap id side, (tap, Phase.chosen id side) ∈ w.taps →
    id ∈ w.store.proposals.map (·.id) ∧ (side = "back" ∨ side = "clear")
  parity : ∀ tgId id, Backs w.store id (toString tgId) ↔
    Xor (Backs s id (toString tgId)) (Odd (w.hits tgId id))

variable {w : World} {k : ℕ}

lemma step_eq {phase : Phase} (hk : w.taps[k]? = some (tap, phase)) : w.step k =
    ⟨(tap.next w.store phase).2, w.taps.set k (tap, (tap.next w.store phase).1)⟩ := by
  rw [World.step, hk]

lemma step_of_none (hk : w.taps[k]? = none) : w.step k = w := by rw [World.step, hk]

/-- The count of writes goes up by one where the tap's phase starts to have a target. -/
lemma hits_set {phase phase' : Phase} (hk : w.taps[k]? = some (tap, phase)) (store : FundState)
    (tgId : ℤ) (id : String) :
    (World.mk store (w.taps.set k (tap, phase'))).hits tgId id +
        (if tap.tgId = tgId ∧ phase.target = some id then 1 else 0) =
      w.hits tgId id + if tap.tgId = tgId ∧ phase'.target = some id then 1 else 0 := by
  have hcount := @countP_set_add _ (fun t => decide (t.1.tgId = tgId ∧ t.2.target = some id))
    w.taps k _ (tap, phase') hk
  simpa only [World.hits, decide_eq_true_eq] using hcount

lemma tracked_quiet {phase : Phase} (hw : Tracked s w) (hk : w.taps[k]? = some (tap, phase))
    {phase' : Phase} (htarget : phase'.target = phase.target)
    (hchosen : ∀ id side, phase' = .chosen id side → phase = .chosen id side ∨
      id ∈ w.store.proposals.map (·.id) ∧ (side = "back" ∨ side = "clear")) :
    Tracked s ⟨w.store, w.taps.set k (tap, phase')⟩ where
  ids := hw.ids
  wallets := hw.wallets
  chosen := by
    intro t id side ht
    rcases mem_set_cases ht with heq | ht
    · obtain ⟨rfl, hphase⟩ := Prod.mk.inj heq
      refine (hchosen id side hphase.symm).elim (fun hold => ?_) fun hnew => hnew
      exact hw.chosen t id side (hold ▸ List.mem_of_getElem? hk)
    · exact hw.chosen t id side ht
  parity := by
    intro tgId id
    have hcount := @hits_set _ _ _ _ phase' hk w.store tgId id
    rw [htarget] at hcount
    rw [Nat.add_right_cancel hcount]
    exact hw.parity tgId id

/-- A vote that was chosen by the mark as it is flips the mark. -/
lemma tracked_vote {side : String} {record : ProposalRecord} (hw : Tracked s w)
    (hk : w.taps[k]? = some (tap, .chosen id side))
    (hcurrent : side = if Backs w.store id tap.voter then "clear" else "back")
    (h : Op.exec ⟨.act (.recordVote id tap.voter side "member" ""), tap.clock⟩ w.store =
      .ok (record, s')) :
    FlipsOnly w.store s' record.id tap.voter ∧
      Tracked s ⟨s', w.taps.set k (tap, .written record)⟩ := by
  obtain ⟨hid, hside⟩ := hw.chosen tap id side (List.mem_of_getElem? hk)
  have hlower : lower (strip side) = side := by
    rcases hside with rfl | rfl <;> decide +kernel
  obtain ⟨rfl, hkeeps, hbacks⟩ := vote_backs hw.ids hw.wallets hlower hid h
  have hback : side = "back" ↔ ¬Backs w.store record.id tap.voter := by
    rw [hcurrent]
    split_ifs with hmark <;> simp [hmark]
  have hflips : FlipsOnly w.store s' record.id tap.voter := by
    intro id' y
    rw [hbacks]
    split_ifs with hown
    · rw [hown.1, hown.2]
      exact hback
    · exact Iff.rfl
  refine ⟨hflips, hw.ids.of_keepsIds hkeeps, approvedWallets_exec (w := .op _) hw.wallets h, ?_, ?_⟩
  · intro t id side ht
    rw [hkeeps.2]
    rcases mem_set_cases ht with heq | ht
    · cases heq
    · exact hw.chosen t id side ht
  · intro tgId id
    have hcount := @hits_set _ _ _ _ (.written record) hk s' tgId id
    simp only [Phase.target, Option.some.injEq, reduceCtorEq, and_false, if_false, add_zero]
      at hcount
    have hown : (id = record.id ∧ toString tgId = tap.voter) ↔
        (tap.tgId = tgId ∧ record.id = id) := by
      refine ⟨fun h => ⟨(toString_inj h.2).symm, h.1.symm⟩, ?_⟩
      rintro ⟨rfl, rfl⟩
      exact ⟨rfl, rfl⟩
    rw [hflips, hcount, if_congr hown rfl rfl]
    split_ifs
    · rw [Nat.odd_add_one, hw.parity, xor_not_right, not_xor]
    · exact hw.parity tgId id

lemma tracked_step (hw : Tracked s w) (hmeets : Meets w k) :
    StepFlips w k ∧ Tracked s (w.step k) := by
  cases hk : w.taps[k]? with
  | none =>
    rw [StepFlips, step_of_none hk]
    exact ⟨Or.inl fun _ _ => Iff.rfl, hw⟩
  | some entry =>
    obtain ⟨tap, phase⟩ := entry
    rw [StepFlips, step_eq hk]
    rcases @next_cases tap w.store phase with ⟨hstate, hchosen, htarget⟩ |
      ⟨id, side, record, rfl, hwrites, hphase, hexec⟩
    · rw [hstate]
      refine ⟨Or.inl fun _ _ => Iff.rfl, tracked_quiet hw hk ?_ hchosen⟩
      refine htarget.elim (fun h => h) ?_
      rintro ⟨record, rfl, hlost⟩
      rw [hmeets.answers tap record hk] at hlost
      cases hlost
    · obtain ⟨hflips, hnext⟩ := tracked_vote hw hk (hmeets.current tap id side hk hwrites) hexec
      rw [hphase]
      refine ⟨Or.inr ⟨tap, id, side, record, hk, ?_, hflips⟩, hnext⟩
      exact List.getElem?_set_self (List.getElem?_eq_some_iff.1 hk).1

/-! ### Runs -/

lemma run_append (w : World) (order order' : List ℕ) :
    w.run (order ++ order') = (w.run order).run order' := List.foldl_append ..

lemma tracked_run {order : List ℕ} (hw : Tracked s w) (hmeets : MeetsAll w order) :
    Tracked s (w.run order) ∧ ∀ earlier k later, order = earlier ++ k :: later →
      StepFlips (w.run earlier) k := by
  induction order generalizing w with
  | nil => exact ⟨hw, fun earlier k later h => absurd h.symm (by simp)⟩
  | cons k order ih =>
    obtain ⟨hflips, hnext⟩ := tracked_step hw hmeets.1
    obtain ⟨hend, hsteps⟩ := ih hnext hmeets.2
    refine ⟨hend, fun earlier j later h => ?_⟩
    cases earlier with
    | nil =>
      obtain ⟨rfl, -⟩ := List.cons.inj h
      exact hflips
    | cons i earlier =>
      obtain ⟨rfl, hrest⟩ := List.cons.inj h
      exact hsteps earlier j later hrest

lemma tracked_start (hs : IdsIssued s) (hw : ApprovedWallets s) (taps : List Tap) :
    Tracked s (start s taps) where
  ids := hs
  wallets := hw
  chosen := by
    intro tap id side h
    obtain ⟨t, -, heq⟩ := List.mem_map.1 h
    cases heq
  parity := by
    intro tgId id
    have hhits : (start s taps).hits tgId id = 0 := by
      rw [World.hits, List.countP_eq_zero]
      intro t ht
      obtain ⟨tap, -, rfl⟩ := List.mem_map.1 ht
      simp [Phase.target]
    rw [hhits, xor_iff_iff_not]
    simp only [Nat.not_odd_zero, not_false_iff, iff_true]
    rfl

/-- Once all taps ended, those with a write are those that succeeded. -/
lemma hits_eq_successes (hended : ∀ t ∈ w.taps, t.2.ended = true) (tgId : ℤ) (id : String) :
    w.hits tgId id = w.successes tgId id := by
  refine List.countP_congr fun t ht => ?_
  have hsame : t.2.target = t.2.succeeded := by
    have hend := hended t ht
    cases hphase : t.2 with
    | written record =>
      rw [hphase] at hend
      cases hend
    | _ => rfl
  rw [hsame]

lemma idsIssued_exec {w : Write} {r : w.Reply} (hs : IdsIssued s) (h : w.exec s = .ok (r, s')) :
    IdsIssued s' := by
  rcases frame_of_exec h with ⟨o, rfl⟩ | ⟨hproposals, hseq, -⟩
  · obtain ⟨mid, hm, rfl⟩ := Op.exec_ok h
    have hmid := hs.mutate hm
    exact ⟨hmid.seq, hmid.nodup, hmid.issued⟩
  · exact hs.of_keepsIds ⟨hseq, by rw [hproposals]⟩

/-- A state that a run from a new fund reaches. -/
lemma idsIssued_runOps {fund : Fund} {host : Agent} {stamp : Time}
    (hcreate : createFund fund host now stamp = .ok s₀) (writes : List Write) :
    IdsIssued (writeStore.runOps writes s₀) :=
  @Interface.runOps_preserves _ _ writeStore (fun _ => True) IdsIssued
    (fun _ _ _ _ _ hs h => idsIssued_exec hs h) writes (fun _ _ => trivial) s₀
    (idsIssued_createFund hcreate)

lemma approvedWallets_runOps {fund : Fund} {host : Agent} {stamp : Time}
    (hcreate : createFund fund host now stamp = .ok s₀) (writes : List Write) :
    ApprovedWallets (writeStore.runOps writes s₀) := by
  have hnew : ApprovedWallets s₀ := by
    simp only [createFund, bind_eq_ok, pure_eq_ok] at hcreate
    obtain ⟨-, -, name, -, rfl⟩ := hcreate
    exact fun m hm => absurd hm List.not_mem_nil
  exact @Interface.runOps_preserves _ _ writeStore (fun _ => True) ApprovedWallets
    (fun _ _ _ _ _ hs h => approvedWallets_exec hs h) writes (fun _ _ => trivial) s₀ hnew

/-- Whatever the order, each tap fails or flips its user's mark, and no tap is lost. -/
theorem taps_flip {fund : Fund} {host : Agent} {stamp : Time}
    (hcreate : createFund fund host now stamp = .ok s₀) (writes : List Write) (taps : List Tap)
    (order : List ℕ) (hmeets : MeetsAll (start (writeStore.runOps writes s₀) taps) order) :
    (∀ earlier k later, order = earlier ++ k :: later →
        StepFlips ((start (writeStore.runOps writes s₀) taps).run earlier) k) ∧
      NoTapLost (writeStore.runOps writes s₀)
        ((start (writeStore.runOps writes s₀) taps).run order) := by
  obtain ⟨hend, hsteps⟩ := tracked_run (tracked_start (idsIssued_runOps hcreate writes)
    (approvedWallets_runOps hcreate writes) taps) hmeets
  refine ⟨hsteps, fun hended tgId id => ?_⟩
  rw [← hits_eq_successes hended]
  exact hend.parity tgId id

/-- The first writes of `tallyWrites`: a proposal is open, and nobody backs it. -/
def openWrites : List Write := tallyWrites.take 5

/-- Two taps by one member. -/
def twoTaps : List Tap := [⟨42, "p-1", ⟨2040, 2040⟩, true, true, true⟩,
  ⟨42, "p-1", ⟨2050, 2050⟩, true, true, true⟩]

def tapped (order : List ℕ) : World :=
  (start (writeStore.runOps openWrites sampleState) twoTaps).run order

/-- One tap after the other. -/
theorem taps_flip_in_turn : StepFlips (tapped [0, 0, 0, 1]) 1 ∧
    NoTapLost (writeStore.runOps openWrites sampleState) (tapped [0, 0, 0, 1, 1, 1]) := by
  obtain ⟨hsteps, hparity⟩ := taps_flip createFund_sample openWrites twoTaps [0, 0, 0, 1, 1, 1]
    (by decide +kernel)
  exact ⟨hsteps [0, 0, 0, 1] 1 [1] rfl, hparity⟩

/-- Both taps read before either writes: both succeed, and the member still backs the proposal. -/
theorem taps_lost_together : (∀ t ∈ (tapped [0, 1, 0, 1, 0, 1]).taps, t.2.ended = true) ∧
    (tapped [0, 1, 0, 1, 0, 1]).successes 42 "p-1" = 2 ∧
    ¬Backs (writeStore.runOps openWrites sampleState) "p-1" "42" ∧
    Backs (tapped [0, 1, 0, 1, 0, 1]).store "p-1" "42" ∧
    ¬NoTapLost (writeStore.runOps openWrites sampleState) (tapped [0, 1, 0, 1, 0, 1]) := by
  have hended : ∀ t ∈ (tapped [0, 1, 0, 1, 0, 1]).taps, t.2.ended = true := by decide +kernel
  have htwo : (tapped [0, 1, 0, 1, 0, 1]).successes 42 "p-1" = 2 := by decide +kernel
  have hbefore : ¬Backs (writeStore.runOps openWrites sampleState) "p-1" "42" := by decide +kernel
  have hafter : Backs (tapped [0, 1, 0, 1, 0, 1]).store "p-1" "42" := by decide +kernel
  refine ⟨hended, htwo, hbefore, hafter, fun h => ?_⟩
  have hparity : Backs (tapped [0, 1, 0, 1, 0, 1]).store "p-1" "42" ↔
      Xor (Backs (writeStore.runOps openWrites sampleState) "p-1" "42")
        (Odd ((tapped [0, 1, 0, 1, 0, 1]).successes 42 "p-1")) := h hended 42 "p-1"
  rw [htwo, xor_iff_not_iff'] at hparity
  exact absurd ((hparity.1 hafter).1 hbefore) (by decide)

end SherwoodMonitor.BackToggling
