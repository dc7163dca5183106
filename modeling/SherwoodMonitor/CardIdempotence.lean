import SherwoodMonitor.CardPass

/-! Applying a chain card a second time. The second application finds every proposal as the card
left it, so it moves none; what differs is the cooldown, when a veto of the same card has started
a local one over the value that the card carries. -/
namespace SherwoodMonitor.CardIdempotence
open PyJson PyJson.Json Models FundState Rules Service ChainCard Calls CallRuns Effects AtomicStore ProposalIds
  Cooldown CardPass Passes

variable {now : Time} {s s' : FundState} {card : Json} {c : Card} {stamps stamps' : ℕ → Time}

/-- `apply_chain_card` run alone, at a clock that stands still. -/
def applied (card : Json) (now : Time) (stamps : ℕ → Time) (s : FundState) :
    Outcome FundState Exc FundEvent ℕ := (applyChainCard card (still now stamps)).run s

/-- The state without its revision, its time of update and the times of the chain reads. -/
def viewed (s : FundState) : FundState :=
  { s with
    revision := 0
    updatedAt := 0
    proposals := s.proposals.map fun p => { p with chainSyncedAt := none } }

/-- The cooldown that a card carries. -/
def carried (card : Json) : Option (Option Time) :=
  match parseCard card with
  | .ok c =>
      if hasKey "cooldownUntil" c.fund.gate then
        (optFloat (lookup "cooldownUntil" c.fund.gate)).toOption
      else none
  | .error _ => none

/-- A card applied twice leaves what it leaves applied once and emits no status event the second
time, and the cooldown that it carries is the one that is stored. -/
structure CardLaw (card : Json) (now : Time) (stamps stamps' : ℕ → Time) (s : FundState) :
    Prop where
  again : viewed (applied card now stamps' (applied card now stamps s).store).store =
    viewed (applied card now stamps s).store
  silent : (applied card now stamps' (applied card now stamps s).store).events.any isStatus = false
  gate : ∀ till n, carried card = some till → (applied card now stamps s).result = .ok n →
    (applied card now stamps s).store.fund.cooldownUntil = till

/-- A card that carries a cooldown and has a row that moves a stored proposal to vetoed, where the
cooldown it carries ends before the local one that the veto starts. -/
def VetoOverGate (card : Json) (now : Time) (s : FundState) : Prop :=
  ∃ c period veto till, parseCard card = .ok c ∧
    govParam c.fund.gov "cooldownPeriod" s.fund.cooldownPeriod = .ok period ∧
    govParam c.fund.gov "vetoThresholdBps" s.fund.vetoThresholdBps = .ok veto ∧
    hasKey "cooldownUntil" c.fund.gate = true ∧
    optFloat (lookup "cooldownUntil" c.fund.gate) = .ok till ∧
    Vetoes (stepsOf s [] c.rows) s.proposals ∧
    ∀ u ∈ till, u < now + (max 0 period : ℤ)

-- one application

lemma cardFund_of_isEmpty {card : CardFund} (h : card.isEmpty = true) (s : FundState) :
    cardFund card s = .ok ((), s) := by
  obtain ⟨gov, gate, fee, deposits⟩ := card
  obtain ⟨⟨⟨rfl, rfl⟩, rfl⟩, rfl⟩ : ((gov = [] ∧ gate = []) ∧ fee = none) ∧ deposits = [] := by
    simpa [CardFund.isEmpty] using h
  have hmember : depositedMember [] = id := by
    funext m
    by_cases hm : m.address = "" <;> simp [depositedMember, hm]
  simp [cardFund, govParam, gateCooldown, lookup, hasKey, orEmpty, truthy, PyText.isDigitText,
    hmember, bind, Except.bind, pure, Except.pure]

lemma cardFund_frame {card : CardFund} (h : cardFund card s = .ok ((), s')) :
    s'.proposals = s.proposals ∧ KeepsIds s s' := by
  obtain ⟨period, veto, till, -, -, -, rfl⟩ := cardFund_ok h
  exact ⟨rfl, rfl, rfl⟩

lemma applied_of_unread {e : Exc} (h : parseCard card = .error e) :
    applied card now stamps s = ⟨.error e, s, []⟩ := by
  rw [applied, applyChainCard, h]
  exact Prog.run_bind_of_error rfl _

lemma applied_of_refused {e : Exc} (hparse : parseCard card = .ok c)
    (h : cardFund c.fund s = .error e) : applied card now stamps s = ⟨.error e, s, []⟩ := by
  have hempty : c.fund.isEmpty = false := by
    refine Bool.eq_false_iff.2 fun hempty => ?_
    rw [cardFund_of_isEmpty hempty] at h
    simp at h
  have hexec : fundStore.exec ⟨.cardFund c.fund, still now stamps 0⟩ s = .error e := by
    simp [fundStore, Op.exec, Update.mutate, h, bind, Except.bind]
  have hcall : (Prog.call (I := fundStore) ⟨.cardFund c.fund, still now stamps 0⟩ :
      FundProg _).run s = ⟨.error e, s, []⟩ := by
    rw [Prog.run_call, hexec]
  rw [applied, applyChainCard, hparse, lift, Prog.run_bind_of_ok (Prog.run_pure c s)]
  simp only [hempty, Bool.not_false, if_true]
  rw [Prog.run_bind_of_error hcall]
  rfl

/-- A card that reads, on a fund section that applies: the fund section's writes, then the steps. -/
lemma applied_of_ok (hs : IdsIssued s) (hparse : parseCard card = .ok c)
    (h : cardFund c.fund s = .ok ((), s')) :
    bare (applied card now stamps s).store =
        bare (afterSteps now (stepsOf s [] c.rows) s') ∧
      ((applied card now stamps s).events.any isStatus = true ↔
        Moves (stepsOf s [] c.rows) s.proposals) := by
  obtain ⟨hps, hkeeps⟩ := cardFund_frame h
  have hsteps : ∀ t : FundState, t.proposals = s.proposals →
      stepsOf t [] c.rows = stepsOf s [] c.rows := fun t ht => stepsOf_congr (by rw [ht]) [] c.rows
  have hrows : ∀ t : FundState, bare t = bare s' →
      bare ((Prog.get >>= fun state => applyRows state (still now stamps) 0 [] c.rows).run t).store =
          bare (afterSteps now (stepsOf s [] c.rows) s') ∧
        (((Prog.get >>= fun state =>
            applyRows state (still now stamps) 0 [] c.rows).run t).events.any isStatus = true ↔
          Moves (stepsOf s [] c.rows) s.proposals) := by
    intro t ht
    obtain ⟨htps, htseq⟩ : t.proposals = s'.proposals ∧ t.nextProposalSeq = s'.nextProposalSeq := by
      simp only [bare, FundState.mk.injEq] at ht
      exact ⟨ht.2.2.2.2.1, ht.2.2.2.2.2.2.2.2.1⟩
    have hids : IdsIssued t := (hs.of_keepsIds hkeeps).of_keepsIds ⟨htseq, by rw [htps]⟩
    obtain ⟨hstore, hmoves⟩ := @run_applyRows now _ _ stamps c.rows 0 [] hids rfl
    rw [hsteps t (htps.trans hps)] at hstore hmoves
    rw [Prog.run_bind_of_ok (Prog.run_get t)]
    refine ⟨?_, ?_⟩
    · rw [hstore, bare_afterSteps, ht, ← bare_afterSteps]
    · rw [List.nil_append, hmoves, htps, hps]
  rw [applied, applyChainCard, hparse, lift, Prog.run_bind_of_ok (Prog.run_pure c s)]
  cases hempty : c.fund.isEmpty with
  | true =>
    obtain rfl : s = s' := by
      rw [cardFund_of_isEmpty hempty] at h
      simpa using h
    simpa using hrows s rfl
  | false =>
    have hexec : fundStore.exec ⟨.cardFund c.fund, still now stamps 0⟩ s =
        .ok ((), bump s' (stamps 0)) := Op.exec_of_ok ⟨.cardFund c.fund, still now stamps 0⟩ h
    have hcall := @Prog.run_call_of_ok _ _ FundEvent fundStore _ _ _ _ hexec
    simp only [Bool.not_false, if_true]
    rw [Prog.run_bind_of_ok hcall]
    simpa using hrows (bump s' (stamps 0)) rfl

-- two applications

lemma govParam_again {gov : Fields} {key : String} {current n : ℤ}
    (h : govParam gov key current = .ok n) : govParam gov key n = .ok n := by
  rw [govParam] at h ⊢
  split_ifs at h ⊢ with hdigits
  · exact h
  · rfl

lemma depositedMember_again (deposits : List (String × ℤ)) (m : Member) :
    depositedMember deposits (depositedMember deposits m) = depositedMember deposits m := by
  by_cases hm : m.address = ""
  · simp [depositedMember, hm]
  · cases hfind : deposits.find? (·.1 = PyText.lower m.address) with
    | none => simp [depositedMember, hm, hfind]
    | some e => simp [depositedMember, hm, hfind]

/-- A card's fund section on a state that it was applied to, with another cooldown. -/
lemma cardFund_again {card : CardFund} (h : cardFund card s = .ok ((), s')) {t : FundState}
    {u : Option Time} (hmembers : t.members = s'.members)
    (hfund : t.fund = { s'.fund with cooldownUntil := u }) :
    cardFund card t = .ok ((), { t with fund := { s'.fund with
      cooldownUntil := if hasKey "cooldownUntil" card.gate then s'.fund.cooldownUntil else u } }) := by
  obtain ⟨period, veto, till, hperiod, hveto, hgate, rfl⟩ := cardFund_ok h
  have hgate' : gateCooldown card.gate u =
      .ok (if hasKey "cooldownUntil" card.gate then till else u) := by
    rw [gateCooldown] at hgate ⊢
    split_ifs at hgate ⊢ with hkey
    · exact hgate
    · rfl
  have hdeposits : (t.members.map (depositedMember card.depositOrder)) = t.members := by
    rw [hmembers, List.map_map]
    exact List.map_congr_left fun m _ => depositedMember_again card.depositOrder m
  have hfee : card.fee.or (card.fee.or s.fund.agentFeeBps) = card.fee.or s.fund.agentFeeBps := by
    cases card.fee <;> rfl
  rw [cardFund, hfund]
  simp only [govParam_again hperiod, govParam_again hveto, hgate', hdeposits, hfee, bind,
    Except.bind, pure, Except.pure]

lemma startCooldown_eq (fund : Fund) (now : Time) : startCooldown fund now =
    { fund with cooldownUntil := (startCooldown fund now).cooldownUntil } := by
  rw [startCooldown]
  cases fund.cooldownUntil with
  | none => rfl
  | some old => by_cases hlt : old < cooldownEnd fund now <;> simp only [hlt, if_true, if_false]

/-- What the first application stores. -/
lemma applied_fields (hs : IdsIssued s) (hparse : parseCard card = .ok c)
    (h : cardFund c.fund s = .ok ((), s')) :
    (applied card now stamps s).store.proposals =
        pass (Step.write now) (stepsOf s [] c.rows) s.proposals ∧
      (applied card now stamps s).store.fund = { s'.fund with
        cooldownUntil := (if Vetoes (stepsOf s [] c.rows) s.proposals then
          startCooldown s'.fund now else s'.fund).cooldownUntil } ∧
      (applied card now stamps s).store.members = s'.members ∧
      (applied card now stamps s).store.nextProposalSeq = s'.nextProposalSeq := by
  obtain ⟨hstore, -⟩ := @applied_of_ok now _ _ _ _ stamps hs hparse h
  obtain ⟨hps, -⟩ := cardFund_frame h
  rw [afterSteps_eq (stepsOf_distinct s [] c.rows).1, hps] at hstore
  simp only [bare, FundState.mk.injEq] at hstore
  obtain ⟨hfund, hmembers, -, -, hproposals, -, -, -, hseq, -, -⟩ := hstore
  refine ⟨hproposals, ?_, hmembers, hseq⟩
  rw [hfund]
  split_ifs with hveto
  · exact startCooldown_eq s'.fund now
  · rfl

/-- The second application sets the cooldown to the one that the card carries; that is all. -/
lemma applied_twice (hs : IdsIssued s) (hparse : parseCard card = .ok c)
    (h : cardFund c.fund s = .ok ((), s')) {once : FundState}
    (honce : once = (applied card now stamps s).store) :
    viewed (applied card now stamps' once).store = viewed { once with fund := { once.fund with
        cooldownUntil := if hasKey "cooldownUntil" c.fund.gate then s'.fund.cooldownUntil
          else once.fund.cooldownUntil } } ∧
      (applied card now stamps' once).events.any isStatus = false := by
  obtain ⟨hps, hfund, hmembers, hseq⟩ :=
    @applied_fields now _ _ _ _ stamps hs hparse h
  rw [← honce] at hps hfund hmembers hseq
  have hdis := (stepsOf_distinct s [] c.rows).1
  have hview : ∀ {γ : Type} (v : ProposalRecord → γ),
      (∀ (st : Step) p, v (st.change now p) = v p) → once.proposals.map v = s.proposals.map v := by
    intro γ v hv
    rw [hps]
    generalize stepsOf s [] c.rows = steps
    generalize s.proposals = ps
    induction steps generalizing ps with
    | nil => rfl
    | cons st steps ih => rw [pass_cons, ih, map_write st (hv st)]
  have hids : IdsIssued once :=
    hs.of_keepsIds ⟨hseq.trans (cardFund_frame h).2.1, hview _ fun st p => st.change_id p⟩
  have hsteps : stepsOf once [] c.rows = stepsOf s [] c.rows :=
    stepsOf_congr (hview _ fun st p => st.change_onchainId p) [] c.rows
  obtain ⟨hstore, hevents⟩ := @applied_of_ok now _ _ _ _ stamps' hids hparse
    (cardFund_again h hmembers hfund)
  have hstill : ¬Moves (stepsOf s [] c.rows) once.proposals := by
    rw [hps]
    exact not_moves_afterSteps hdis s.proposals
  have hfixed : pass (Step.write now) (stepsOf s [] c.rows) once.proposals = once.proposals :=
    pass_of_fixed fun st hst => by
      rw [hps]
      exact write_afterSteps hdis s.proposals hst
  rw [hsteps] at hstore hevents
  rw [afterSteps_eq hdis] at hstore
  simp only [hfixed, if_neg fun hveto => hstill (moves_of_vetoes hveto)] at hstore
  refine ⟨?_, ?_⟩
  · have hviewed := congrArg viewed hstore
    have hlast : { s'.fund with cooldownUntil := if hasKey "cooldownUntil" c.fund.gate then
          s'.fund.cooldownUntil else once.fund.cooldownUntil } =
        { once.fund with cooldownUntil := if hasKey "cooldownUntil" c.fund.gate then
          s'.fund.cooldownUntil else once.fund.cooldownUntil } := by
      rw [hfund]
    rw [← hlast]
    rw [show once.fund.cooldownUntil = _ from congrArg Fund.cooldownUntil hfund]
    exact hviewed
  · rw [← Bool.not_eq_true, hevents]
    exact hstill

/-- The law comes down to the cooldown that the first application stores. -/
lemma cardLaw_iff_stored (hs : IdsIssued s) (hparse : parseCard card = .ok c)
    (h : cardFund c.fund s = .ok ((), s')) : CardLaw card now stamps stamps' s ↔
      (hasKey "cooldownUntil" c.fund.gate = true →
        (applied card now stamps s).store.fund.cooldownUntil = s'.fund.cooldownUntil) := by
  obtain ⟨once, honce⟩ : ∃ once, once = (applied card now stamps s).store := ⟨_, rfl⟩
  obtain ⟨htwice, hsilent⟩ :=
    @applied_twice now _ _ _ _ stamps stamps' hs hparse h _ honce
  have hcarried : ∀ till, carried card = some till → hasKey "cooldownUntil" c.fund.gate = true ∧
      s'.fund.cooldownUntil = till := by
    intro till htill
    obtain ⟨period, veto, till', -, -, hgate, rfl⟩ := cardFund_ok h
    simp only [carried, hparse] at htill
    by_cases hkey : hasKey "cooldownUntil" c.fund.gate = true
    · simp only [gateCooldown, hkey, if_true] at hgate htill
      rw [hgate] at htill
      exact ⟨hkey, Option.some.inj htill⟩
    · simp [hkey] at htill
  constructor
  · intro hlaw hkey
    have hagain := hlaw.again
    rw [← honce, htwice] at hagain
    simp only [viewed, FundState.mk.injEq, hkey, if_true] at hagain
    have hcool := congrArg Fund.cooldownUntil hagain.1
    rw [← honce]
    exact hcool.symm
  · intro hstored
    rw [← honce] at hstored
    have hsame : (if hasKey "cooldownUntil" c.fund.gate then s'.fund.cooldownUntil
        else once.fund.cooldownUntil) = once.fund.cooldownUntil := by
      split_ifs with hkey
      · exact (hstored hkey).symm
      · rfl
    refine ⟨?_, ?_, fun till n htill _ => ?_⟩
    · rw [← honce, htwice, hsame]
    · rw [← honce, hsilent]
    · obtain ⟨hkey, htill⟩ := hcarried till htill
      rw [← honce, hstored hkey, htill]

lemma stored_iff {fund : Fund} {veto : Prop} [Decidable veto] :
    (if veto then startCooldown fund now else fund).cooldownUntil = fund.cooldownUntil ↔
      (veto → RunsUntil (cooldownEnd fund now) fund) := by
  by_cases hveto : veto
  · simp only [hveto, if_true, true_imp_iff]
    constructor
    · intro heq
      have hruns := runsUntil_startCooldown fund now
      rwa [RunsUntil, heq] at hruns
    · intro hruns
      rw [startCooldown_of_runsUntil hruns]
  · simp [hveto]

/-- A card whose row takes proposal 12 into review. -/
def reviewCard : Json :=
  .obj [("proposals", .obj [("open", .arr [.obj [("id", .int 12),
    ("state", .str "GuardianReview")]])])]

/-- A card that carries a cooldown until 1500 and vetoes proposal 12. -/
def rejectedCard : Json :=
  .obj [("proposeGate", .obj [("cooldownUntil", .int 1500)]),
    ("proposals", .obj [("open", .arr [.obj [("id", .int 12), ("state", .str "Rejected")]])])]

end SherwoodMonitor.CardIdempotence
