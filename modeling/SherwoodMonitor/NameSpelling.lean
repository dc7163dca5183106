import SherwoodMonitor.CallRuns

/-! How the rules compare names. A lookup strips and lowers the name it is given; the rules lower it
only, so a name with blanks around it is found and then compared as another one. -/
namespace SherwoodMonitor.NameSpelling
open PyText Lookup Models FundState Rules Service CallRuns

/-- One outcome under one code. A reason quotes the name as it was typed. -/
def Agree (v w : Verdict) : Prop := v.ok = w.ok ∧ v.code = w.code

/-- The same of a check that may raise. -/
inductive AgreeOr : Except Exc Verdict → Except Exc Verdict → Prop
  | verdicts {v w : Verdict} (h : Agree v w) : AgreeOr (.ok v) (.ok w)
  | raised (e : Exc) : AgreeOr (.error e) (.error e)

lemma Agree.rfl {v : Verdict} : Agree v v := ⟨Eq.refl _, Eq.refl _⟩

lemma agreeOr_rfl (x : Except Exc Verdict) : AgreeOr x x := by
  cases x with
  | ok v => exact .verdicts .rfl
  | error e => exact .raised e

/-- The rules that go by an agent's name say the same of two names, whatever is asked. -/
structure SameVerdicts (state : FundState) (name other : String) : Prop where
  claim : ∀ topic now, Agree (checkClaim state name topic now) (checkClaim state other topic now)
  draft : ∀ topic maxCapital maxDrawdownBps legs now,
    AgreeOr (checkDraft state name topic maxCapital maxDrawdownBps legs now)
      (checkDraft state other topic maxCapital maxDrawdownBps legs now)
  review : ∀ proposal, checkReview state name proposal = checkReview state other proposal
  proposerOrHost : ∀ record,
    requireProposerOrHost state name record = requireProposerOrHost state other record

variable {state : FundState} {name other : String} {now : Time}

/-! ### Two spellings that are lowered alike -/

lemma claimOf_congr (h : lower name = lower other) :
    claimOf state name now = claimOf state other now := by
  simp only [claimOf, h]

lemma openProposalsOf_congr (h : lower name = lower other) :
    openProposalsOf state name = openProposalsOf state other := by
  simp only [openProposalsOf, h]

lemma otherHolder_congr (h : lower name = lower other) (topic : String) :
    otherHolder state name topic now = otherHolder state other topic now := by
  simp only [otherHolder, h]

lemma otherClaims_congr (h : lower name = lower other) :
    otherClaims state name now = otherClaims state other now := by
  simp only [otherClaims, h]

/-! ### Two spellings that are looked up alike -/

lemma checkAgentCanAct_congr {i : ℕ} {a : Agent} (hname : state.agent name = some (i, a))
    (hother : state.agent other = some (i, a)) :
    checkAgentCanAct state name = checkAgentCanAct state other := by
  simp only [checkAgentCanAct, hname, hother]

lemma checkHostAction_congr (h : state.agent name = state.agent other) :
    checkHostAction state name = checkHostAction state other := by
  simp only [checkHostAction, h]

/-- An agent that was found is found under its stored name. -/
lemma agent_stored {i : ℕ} {a : Agent} (h : state.agent name = some (i, a)) :
    state.agent a.name = some (i, a) := by
  rw [FundState.agent, lookupKey_of_lower (agent_name h)]
  exact h

/-- So the rules compare the two alike only where there is nothing to strip. -/
lemma lower_stored_iff {i : ℕ} {a : Agent} (h : state.agent name = some (i, a)) :
    lower name = lower a.name ↔ strip name = name := by
  rw [agent_name h, lookupKey, eq_comm, lower_strip_eq_lower]

/-! ### Verdicts -/

lemma checkProposerGates_congr {i : ℕ} {a : Agent} (hname : state.agent name = some (i, a))
    (hother : state.agent other = some (i, a)) :
    checkProposerGates state name now = checkProposerGates state other now := by
  simp only [checkProposerGates, checkAgentCanAct_congr hname hother]

lemma agree_deny (code : String) (reason other : String) :
    Agree (deny code reason) (deny code other) :=
  ⟨rfl, rfl⟩

lemma Agree.ite {c : Prop} [Decidable c] {v v' w w' : Verdict} (h : Agree v w) (h' : Agree v' w') :
    Agree (if c then v else v') (if c then w else w') := by
  split_ifs
  · exact h
  · exact h'

lemma AgreeOr.ite {c : Prop} [Decidable c] {x x' y y' : Except Exc Verdict} (h : AgreeOr x y)
    (h' : AgreeOr x' y') : AgreeOr (if c then x else x') (if c then y else y') := by
  split_ifs
  · exact h
  · exact h'

/-- Two names of one agent that are lowered alike. -/
lemma sameVerdicts_of_lower {i : ℕ} {a : Agent} (hname : state.agent name = some (i, a))
    (hother : state.agent other = some (i, a)) (h : lower name = lower other) :
    SameVerdicts state name other where
  claim topic now := by
    simp only [checkClaim, checkProposerGates_congr hname hother, openProposalsOf_congr h,
      otherHolder_congr h, claimOf_congr h, otherClaims_congr h]
    refine .ite .rfl (.ite .rfl (.ite (agree_deny _ _ _) ?_))
    cases otherHolder state other (normalizeTopic topic) now with
    | some holder => exact .rfl
    | none =>
      cases claimOf state other now with
      | some mine => exact .ite (agree_deny _ _ _) .rfl
      | none => exact .rfl
  draft topic maxCapital maxDrawdownBps legs now := by
    simp only [checkDraft, checkProposerGates_congr hname hother, openProposalsOf_congr h,
      claimOf_congr h]
    refine .ite (agreeOr_rfl _) (.ite (.verdicts (agree_deny _ _ _)) (.ite (agreeOr_rfl _) ?_))
    cases claimOf state other now with
    | none => exact .verdicts (agree_deny _ _ _)
    | some mine => exact .ite (.verdicts (agree_deny _ _ _)) (agreeOr_rfl _)
  review proposal := by
    simp only [checkReview.eq_def, checkAgentCanAct_congr hname hother, h]
  proposerOrHost record := by
    simp only [requireProposerOrHost, checkAgentCanAct_congr hname hother,
      checkHostAction_congr (hname.trans hother.symm), h]

lemma require_inj {v w : Verdict} (h : require v = require w) (hw : w.ok = false) :
    v.ok = false ∧ v.code = w.code := by
  rw [require, require, hw] at h
  cases hv : v.ok with
  | true => simp [hv] at h
  | false =>
    rw [hv] at h
    exact ⟨rfl, (Exc.rule.inj (Except.error.inj h)).1⟩

lemma checkHostAction_code (h : (checkHostAction state name).ok = false) :
    (checkHostAction state name).code = "not_host" := by
  rw [checkHostAction] at h ⊢
  split at h
  · split_ifs at h ⊢
    · rfl
    · cases h
  · rfl

/-- The refusals of a known agent. -/
lemma checkAgentCanAct_code {i : ℕ} {a : Agent} (hname : state.agent name = some (i, a))
    (h : (checkAgentCanAct state name).ok = false) :
    (checkAgentCanAct state name).code ≠ "not_host" := by
  simp only [checkAgentCanAct, hname] at h ⊢
  split_ifs at h ⊢
  · exact (by decide : "agent_removed" ≠ "not_host")
  · exact (by decide : "agent_not_registered" ≠ "not_host")
  · cases h

/-- An agent that may act reviews its own proposal under a name that the rules take for another
one; one that may not act is refused for another reason where it acts on its own proposal. -/
lemma lower_of_sameVerdicts {i : ℕ} {a : Agent} (hname : state.agent name = some (i, a))
    (h : SameVerdicts state name a.name) : lower name = lower a.name := by
  by_contra hne
  let record : ProposalRecord := { id := "", proposerAgent := a.name, thesis := "" }
  have hcan := checkAgentCanAct_congr hname (agent_stored hname)
  cases hok : (checkAgentCanAct state a.name).ok with
  | true =>
    have hreview := congrArg Verdict.ok (h.review (some record))
    have hallowed : (checkReview state name (some record)).ok = true :=
      checkReview_ok.2 ⟨by rw [hcan, hok], record, rfl, fun h => hne h.symm,
        (by decide : Status.draft ∈ reviewableStatuses)⟩
    rw [hallowed, eq_comm] at hreview
    obtain ⟨-, p, hp, hother, -⟩ := checkReview_ok.1 hreview
    rw [← Option.some.inj hp] at hother
    exact hother rfl
  | false =>
    have hact := h.proposerOrHost record
    rw [requireProposerOrHost, requireProposerOrHost, if_neg hne, if_pos rfl] at hact
    obtain ⟨hrefused, hcode⟩ := require_inj hact hok
    rw [checkHostAction_code hrefused] at hcode
    exact checkAgentCanAct_code (agent_stored hname) hok hcode.symm

/-- A name that finds an agent gets the verdicts of the agent's stored name, for all else that the
rules are asked, if and only if it has no blanks around it. -/
theorem sameVerdicts_iff_strip {i : ℕ} {a : Agent} (h : state.agent name = some (i, a)) :
    SameVerdicts state name a.name ↔ strip name = name := by
  rw [← lower_stored_iff h]
  exact ⟨lower_of_sameVerdicts h, sameVerdicts_of_lower h (agent_stored h)⟩

theorem sameVerdicts_iff_strip_cases : SameVerdicts votingState "iRIS" "Iris" := by
  have hfound : (votingState.agent "iRIS").map (·.2.name) = some "Iris" := by decide +kernel
  obtain ⟨⟨i, a⟩, h, hname⟩ := Option.map_eq_some_iff.1 hfound
  rw [← hname]
  exact (sameVerdicts_iff_strip h).2 (by decide)

/-- With a blank the agent of an open proposal may claim another topic. -/
theorem claims_again_of_blank :
    (votingState.agent " Iris").map (·.2.name) = some "Iris" ∧
      (checkClaim votingState "Iris" "NVDA momentum" 1050).code = "agent_has_open_proposal" ∧
      (checkClaim votingState " Iris" "NVDA momentum" 1050).ok = true := by
  decide +kernel

end SherwoodMonitor.NameSpelling
