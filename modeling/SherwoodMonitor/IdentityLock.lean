import SherwoodMonitor.FundWrites

/-! What identifies a fund: its vault, governor, chat and host. Once one of these is set only the
operator's `fund_bind` changes it; the asset never changes. -/
namespace SherwoodMonitor.IdentityLock
open PyText Models Rules Service ChainCard Calls Effects AtomicStore FundWrites

variable {s s' : FundState}

/-- A text that is set stays, up to case. -/
def Stays (old new : String) : Prop := old ≠ "" → lower new = lower old

/-- What the second fund record kept of the identity of the first. -/
structure Locked (fund fund' : Fund) : Prop where
  vault : Stays fund.vault fund'.vault
  governor : Stays fund.governor fund'.governor
  telegramChatId : Stays fund.telegramChatId fund'.telegramChatId
  hostTelegramId : Stays fund.hostTelegramId fund'.hostTelegramId
  asset : fund'.asset = fund.asset

lemma Stays.rfl {t : String} : Stays t t := fun _ => Eq.refl _

lemma Stays.trans {t₁ t₂ t₃ : String} (h : Stays t₁ t₂) (h' : Stays t₂ t₃) : Stays t₁ t₃ := by
  intro hset
  have hlower := h hset
  by_cases hempty : t₂ = ""
  · rw [hempty] at hlower
    exact absurd (lower_eq_empty hlower.symm) hset
  · rw [h' hempty, hlower]

/-- A locked field that `fund_setup` writes. -/
lemma stays_of_checked {current : String} {wanted : Option String}
    (h : current = "" ∨ ∀ v ∈ wanted, lower v = lower current) :
    Stays current (wanted.getD current) := by
  intro hset
  cases wanted with
  | none => rfl
  | some v => exact h.resolve_left hset v rfl

lemma Locked.rfl {fund : Fund} : Locked fund fund :=
  ⟨Stays.rfl, Stays.rfl, Stays.rfl, Stays.rfl, Eq.refl _⟩

lemma Locked.trans {f₁ f₂ f₃ : Fund} (h : Locked f₁ f₂) (h' : Locked f₂ f₃) : Locked f₁ f₃ where
  vault := h.vault.trans h'.vault
  governor := h.governor.trans h'.governor
  telegramChatId := h.telegramChatId.trans h'.telegramChatId
  hostTelegramId := h.hostTelegramId.trans h'.hostTelegramId
  asset := h'.asset.trans h.asset

/-- The records agree on what identifies the fund. -/
lemma locked_of_eq {fund fund' : Fund} (hvault : fund'.vault = fund.vault)
    (hgov : fund'.governor = fund.governor) (hchat : fund'.telegramChatId = fund.telegramChatId)
    (hhost : fund'.hostTelegramId = fund.hostTelegramId) (hasset : fund'.asset = fund.asset) :
    Locked fund fund' :=
  ⟨fun _ => by rw [hvault], fun _ => by rw [hgov], fun _ => by rw [hchat], fun _ => by rw [hhost],
    hasset⟩

lemma locked_startCooldown (fund : Fund) (now : Time) : Locked fund (startCooldown fund now) := by
  rw [startCooldown]
  cases fund.cooldownUntil with
  | none => exact locked_of_eq rfl rfl rfl rfl rfl
  | some old =>
    by_cases hlt : old < cooldownEnd fund now
    · simp only [if_pos hlt]
      exact locked_of_eq rfl rfl rfl rfl rfl
    · simp only [if_neg hlt]
      exact Locked.rfl

/-- No service update touches the identity, those of chain reads included. -/
lemma locked_update {u : Update} {now : Time} {r : u.Reply}
    (h : u.mutate now s = .ok (r, s')) : Locked s.fund s'.fund := by
  cases u with
  | act a =>
    rcases (actFrame h).fund with hfund | hfund
    · rw [hfund]
      exact Locked.rfl
    · rw [hfund]
      exact locked_startCooldown _ _
  | cardFund card =>
    obtain ⟨period, veto, till, -, -, -, rfl⟩ := cardFund_ok h
    exact locked_of_eq rfl rfl rfl rfl rfl
  | chainStatus pid status =>
    obtain ⟨i, old, -, -, rfl⟩ := chainStatus_ok h
    by_cases hveto : status = .vetoed
    · simp only [hveto, if_true]
      exact locked_startCooldown _ _
    · simp only [hveto, if_false]
      exact Locked.rfl

/-- Any write but the operator's. -/
def Write.ByOperator : Write → Prop
  | .bind .. => True
  | _ => False

lemma locked_exec {w : Write} {r : w.Reply} (hw : ¬Write.ByOperator w)
    (h : w.exec s = .ok (r, s')) : Locked s.fund s'.fund := by
  cases w with
  | op o =>
    obtain ⟨mid, hm, rfl⟩ := Op.exec_ok h
    have hmid : Locked s.fund mid.fund := locked_update hm
    exact hmid
  | setup args stamp =>
    simp only [Write.exec, bind_eq_ok, pure_eq_ok] at h
    obtain ⟨⟨fund, mid⟩, hsetup, heq⟩ := h
    obtain ⟨-, -, hvault, hgov, hchat, hhost, cap, rfl, rfl⟩ := setupFund_ok hsetup
    cases heq
    exact ⟨stays_of_checked hvault, stays_of_checked hgov, stays_of_checked hchat,
      stays_of_checked hhost, rfl⟩
  | bind values stamp => exact absurd trivial hw

/-- In any sequence of writes without `fund_bind`, what identifies the fund stays once it is set. -/
theorem locked_of_writes {writes : List Write} (hw : ∀ w ∈ writes, ¬Write.ByOperator w)
    (s : FundState) : Locked s.fund (writeStore.runOps writes s).fund := by
  have hstep : ∀ w, ¬Write.ByOperator w → ∀ t r t', Locked s.fund t.fund →
      writeStore.exec w t = .ok (r, t') → Locked s.fund t'.fund :=
    fun w hw t r t' ht h => ht.trans (locked_exec hw h)
  exact @Interface.runOps_preserves _ _ writeStore (fun w => ¬Write.ByOperator w)
    (fun t => Locked s.fund t.fund) hstep writes hw s Locked.rfl

/-- The host agent sets up another vault, and a member asks to join. -/
def setupWrites : List Write :=
  [.setup { agent := "Iris", vault := some "0x00000000000000000000000000000000000000ff" } 1010,
    .op ⟨.act (.requestMembership "42" "" "mo"), ⟨1020, 1020⟩⟩]

theorem locked_of_setup_writes :
    Locked sampleState.fund (writeStore.runOps setupWrites sampleState).fund := by
  refine locked_of_writes ?_ sampleState
  simp [setupWrites, Write.ByOperator]

end SherwoodMonitor.IdentityLock
