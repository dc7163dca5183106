import Mathlib.Tactic
import SherwoodMonitor.Sidecar

/-! Each response goes to the one call that has its id, in every order of calls, lines and
timers. -/
namespace SherwoodMonitor.Sidecar
open PyJson Table

/-- What holds a response: the future of a call, or the buffer. -/
inductive Holder
  | call (k : ℕ)
  | buffer (id : ℤ)

namespace World

def holds (w : World) : Holder → Option Response
  | .call k => (w.calls[k]?).bind Stage.response?
  | .buffer id => w.buffer id

def holderId (w : World) : Holder → Option ℤ
  | .call k => (w.calls[k]?).bind Stage.id?
  | .buffer id => some id

end World

/-- Ids are given out once, and `_pending` has the calls that wait. -/
structure Ids (w : World) : Prop where
  bound : ∀ {k : ℕ} {s : Stage} {id : ℤ}, w.calls[k]? = some s → s.id? = some id → id < w.nextId
  distinct : ∀ {k k' : ℕ} {s s' : Stage} {id : ℤ}, w.calls[k]? = some s → w.calls[k']? = some s' →
    s.id? = some id → s'.id? = some id → k = k'
  waits : ∀ {k : ℕ} {id : ℤ}, w.pending id = some k →
    ∃ s, w.calls[k]? = some s ∧ s.open? = some id
  registered : ∀ {k : ℕ} {s : Stage} {id : ℤ}, w.calls[k]? = some s → s.open? = some id →
    w.pending id = some k

/-- A response is held in one place, under its own id. -/
structure Held (w : World) : Prop where
  own : ∀ {x : Holder} {r : Response}, w.holds x = some r → answers? r.msg = w.holderId x
  read : ∀ {x : Holder} {r : Response}, w.holds x = some r → r.line < w.lines
  once : ∀ {x y : Holder} {r r' : Response}, w.holds x = some r → w.holds y = some r' →
    r.line = r'.line → x = y

variable {w w' : World} {k : ℕ} {s s' : Stage}

lemma ids_empty : Ids {} := by
  constructor <;> intros <;> simp_all

lemma held_empty : Held {} := by
  have hnone : ∀ x, World.holds {} x = none := by
    rintro (k | id) <;> simp [World.holds]
  constructor <;> intros <;> simp_all

lemma id_of_open {id : ℤ} (h : s.open? = some id) : s.id? = some id := by
  cases s <;> simp_all [Stage.open?, Stage.id?]

lemma holds_call (hs : w.calls[k]? = some s) : w.holds (.call k) = s.response? := by
  simp [World.holds, hs]

lemma holderId_call (hs : w.calls[k]? = some s) : w.holderId (.call k) = s.id? := by
  simp [World.holderId, hs]

/-- Behind a write to one call the other calls hold what they held. -/
lemma holds_set_other (hcalls : w'.calls = w.calls.set k s') {j : ℕ} (hj : j ≠ k) :
    w'.holds (.call j) = w.holds (.call j) ∧ w'.holderId (.call j) = w.holderId (.call j) := by
  simp [World.holds, World.holderId, hcalls, List.getElem?_set_ne (Ne.symm hj)]

/-- No call takes another id. -/
lemma Ids.setCall (h : Ids w) (hs : w.calls[k]? = some s) (hid : s'.id? = s.id?)
    (hopen : s'.open? = s.open?) (hcalls : w'.calls = w.calls.set k s')
    (hpending : w'.pending = w.pending) (hnext : w'.nextId = w.nextId) : Ids w' := by
  have hold : ∀ {j : ℕ} {t' : Stage}, w'.calls[j]? = some t' →
      ∃ t, w.calls[j]? = some t ∧ t'.id? = t.id? ∧ t'.open? = t.open? := by
    intro j t' ht'
    rw [hcalls] at ht'
    rcases set_cases ht' with ⟨rfl, rfl⟩ | ⟨-, ht'⟩
    · exact ⟨s, hs, hid, hopen⟩
    · exact ⟨t', ht', rfl, rfl⟩
  constructor
  · intro j t' id ht' hi
    obtain ⟨t, ht, hti, -⟩ := hold ht'
    rw [hnext]
    exact h.bound ht (hti ▸ hi)
  · intro j j' t t' id ht ht' hi hi'
    obtain ⟨u, hu, hui, -⟩ := hold ht
    obtain ⟨u', hu', hui', -⟩ := hold ht'
    exact h.distinct hu hu' (hui ▸ hi) (hui' ▸ hi')
  · intro j id hj
    rw [hpending] at hj
    obtain ⟨t, ht, hto⟩ := h.waits hj
    by_cases hjk : j = k
    · subst hjk
      obtain rfl : s = t := Option.some.inj (hs.symm.trans ht)
      exact ⟨s', by rw [hcalls]; exact set_self hs, hopen.trans hto⟩
    · exact ⟨t, by rw [hcalls]; exact set_other hjk ht, hto⟩
  · intro j t' id ht' ho
    obtain ⟨t, ht, -, hto⟩ := hold ht'
    rw [hpending]
    exact h.registered ht (hto ▸ ho)

/-- Nothing new is held. -/
lemma Held.of_sub (h : Held w) (hsub : ∀ x r, w'.holds x = some r →
    w.holds x = some r ∧ w'.holderId x = w.holderId x) (hlines : w.lines ≤ w'.lines) : Held w' where
  own hx := by
    obtain ⟨hold, hid⟩ := hsub _ _ hx
    exact (h.own hold).trans hid.symm
  read hx := (h.read (hsub _ _ hx).1).trans_le hlines
  once hx hy hline := h.once (hsub _ _ hx).1 (hsub _ _ hy).1 hline

lemma Held.setCall (h : Held w) (hs : w.calls[k]? = some s)
    (hheld : ∀ r, s'.response? = some r → s.response? = some r ∧ s'.id? = s.id?)
    (hcalls : w'.calls = w.calls.set k s') (hbuffer : w'.buffer = w.buffer)
    (hlines : w'.lines = w.lines) : Held w' := by
  have hs' : w'.calls[k]? = some s' := by
    rw [hcalls]
    exact set_self hs
  refine h.of_sub ?_ hlines.ge
  rintro (j | id) r hx
  · by_cases hj : j = k
    · subst hj
      rw [holds_call hs'] at hx
      obtain ⟨hr, hid⟩ := hheld r hx
      exact ⟨(holds_call hs).trans hr, by rw [holderId_call hs', holderId_call hs, hid]⟩
    · obtain ⟨hholds, hid⟩ := holds_set_other hcalls hj
      exact ⟨hholds ▸ hx, hid⟩
  · refine ⟨?_, rfl⟩
    rw [World.holds, hbuffer] at hx
    exact hx

/-- A response just read is put in one place, in place of what may have been there. -/
lemma Held.put (h : Held w) {x : Holder} {r : Response} (hr : r.line = w.lines)
    (hx : w'.holds x = some r) (hid : w'.holderId x = answers? r.msg)
    (hothers : ∀ y, y ≠ x → w'.holds y = w.holds y ∧ w'.holderId y = w.holderId y)
    (hlines : w'.lines = w.lines + 1) : Held w' := by
  have hcases : ∀ {y : Holder} {r' : Response}, w'.holds y = some r' →
      y = x ∧ r' = r ∨ y ≠ x ∧ w.holds y = some r' := by
    intro y r' hy
    by_cases hyx : y = x
    · subst hyx
      exact Or.inl ⟨rfl, Option.some.inj (hy.symm.trans hx)⟩
    · exact Or.inr ⟨hyx, (hothers y hyx).1 ▸ hy⟩
  constructor
  · intro y r' hy
    rcases hcases hy with ⟨rfl, rfl⟩ | ⟨hyx, hold⟩
    · exact hid.symm
    · exact (h.own hold).trans (hothers y hyx).2.symm
  · intro y r' hy
    rcases hcases hy with ⟨rfl, rfl⟩ | ⟨-, hold⟩
    · omega
    · have hlt := h.read hold
      omega
  · intro y z r₁ r₂ hy hz hline
    rcases hcases hy with ⟨rfl, rfl⟩ | ⟨-, hold⟩ <;> rcases hcases hz with ⟨rfl, rfl⟩ | ⟨-, hold'⟩
    · rfl
    · have hlt := h.read hold'
      omega
    · have hlt := h.read hold
      omega
    · exact h.once hold hold' hline

lemma Ids.same (h : Ids w) (hcalls : w'.calls = w.calls) (hpending : w'.pending = w.pending)
    (hnext : w'.nextId = w.nextId) : Ids w' := by
  constructor
  · rw [hcalls, hnext]
    exact h.bound
  · rw [hcalls]
    exact h.distinct
  · rw [hcalls, hpending]
    exact h.waits
  · rw [hcalls, hpending]
    exact h.registered

lemma Ids.call (h : Ids w) : Ids { w with calls := w.calls ++ [.queued] } := by
  have hold : ∀ {k : ℕ} {s : Stage} {id : ℤ}, (w.calls ++ [.queued])[k]? = some s →
      s.id? = some id → w.calls[k]? = some s := by
    intro k s id hs hi
    rcases concat_cases hs with ⟨-, rfl⟩ | hs
    · cases hi
    · exact hs
  constructor
  · intro k s id hs hi
    exact h.bound (hold hs hi) hi
  · intro k k' s s' id hs hs' hi hi'
    exact h.distinct (hold hs hi) (hold hs' hi') hi hi'
  · intro k id hk
    obtain ⟨s, hs, ho⟩ := h.waits hk
    exact ⟨s, concat_old hs, ho⟩
  · intro k s id hs ho
    exact h.registered (hold hs (id_of_open ho)) ho

lemma Held.call (h : Held w) : Held { w with calls := w.calls ++ [.queued] } := by
  refine h.of_sub ?_ le_rfl
  rintro (k | id) r hx
  · obtain ⟨s, hs, hr⟩ := Option.bind_eq_some_iff.1 hx
    rcases concat_cases hs with ⟨-, rfl⟩ | hold
    · cases hr
    · exact ⟨(holds_call hold).trans hr, by rw [holderId_call hs, holderId_call hold]⟩
  · exact ⟨hx, rfl⟩

/-- The id taken is new. -/
lemma Ids.acquire (h : Ids w) (hs : w.calls[k]? = some .queued) : Ids (w.acquire k) := by
  have hself : (w.acquire k).calls[k]? = some (.draining w.nextId none) := set_self hs
  constructor
  · intro j t id ht hi
    rcases set_cases ht with ⟨rfl, rfl⟩ | ⟨-, ht⟩
    · obtain rfl := Option.some.inj hi
      exact lt_add_one w.nextId
    · exact (h.bound ht hi).trans (lt_add_one w.nextId)
  · intro j j' t t' id ht ht' hi hi'
    rcases set_cases ht with ⟨rfl, rfl⟩ | ⟨-, hu⟩ <;>
      rcases set_cases ht' with ⟨rfl, rfl⟩ | ⟨-, hu'⟩
    · rfl
    · obtain rfl := Option.some.inj hi
      exact absurd (h.bound hu' hi') (lt_irrefl _)
    · obtain rfl := Option.some.inj hi'
      exact absurd (h.bound hu hi) (lt_irrefl _)
    · exact h.distinct hu hu' hi hi'
  · intro j id hj
    by_cases hid : id = w.nextId
    · subst hid
      obtain rfl : k = j := by simpa [World.acquire] using hj
      exact ⟨_, hself, rfl⟩
    · obtain ⟨t, ht, ho⟩ := h.waits (by simpa [World.acquire, hid] using hj)
      have hjk : j ≠ k := by
        rintro rfl
        obtain rfl := Option.some.inj (hs.symm.trans ht)
        cases ho
      exact ⟨t, set_other hjk ht, ho⟩
  · intro j t id ht ho
    rcases set_cases ht with ⟨rfl, rfl⟩ | ⟨-, ht⟩
    · obtain rfl := Option.some.inj ho
      simp [World.acquire]
    · have hne : id ≠ w.nextId := (h.bound ht (id_of_open ho)).ne
      simpa [World.acquire, hne] using h.registered ht ho

lemma Held.acquire (h : Held w) (hs : w.calls[k]? = some .queued) : Held (w.acquire k) :=
  h.setCall hs (fun _ hr => by cases hr) rfl rfl rfl

/-- The future of a call that ended is no longer registered. -/
lemma Ids.finish (h : Ids w) {id : ℤ} {fut : Option Response} {c : Bool} (outcome : Outcome)
    (hs : w.calls[k]? = some (.waiting id fut c)) : Ids (w.finish k id outcome) := by
  have hold : ∀ {j : ℕ} {t : Stage} {i : ℤ}, (w.finish k id outcome).calls[j]? = some t →
      t.id? = some i → ∃ u, w.calls[j]? = some u ∧ u.id? = some i := by
    intro j t i ht hi
    rcases set_cases ht with ⟨rfl, rfl⟩ | ⟨-, ht⟩
    · exact ⟨_, hs, hi⟩
    · exact ⟨t, ht, hi⟩
  constructor
  · intro j t i ht hi
    obtain ⟨u, hu, hui⟩ := hold ht hi
    exact h.bound hu hui
  · intro j j' t t' i ht ht' hi hi'
    obtain ⟨u, hu, hui⟩ := hold ht hi
    obtain ⟨u', hu', hui'⟩ := hold ht' hi'
    exact h.distinct hu hu' hui hui'
  · intro j i hj
    have hne : i ≠ id := by
      rintro rfl
      simp [World.finish] at hj
    obtain ⟨t, ht, ho⟩ := h.waits (by simpa [World.finish, hne] using hj)
    have hjk : j ≠ k := by
      rintro rfl
      obtain rfl := Option.some.inj (hs.symm.trans ht)
      exact hne (Option.some.inj ho).symm
    exact ⟨t, set_other hjk ht, ho⟩
  · intro j t i ht ho
    rcases set_cases ht with ⟨rfl, rfl⟩ | ⟨hjk, ht⟩
    · cases ho
    · have hne : i ≠ id := fun heq => hjk (h.distinct ht hs (id_of_open ho) (by rw [heq]; rfl))
      simpa [World.finish, hne] using h.registered ht ho

lemma Held.finish (h : Held w) {id : ℤ} {fut : Option Response} {c : Bool} {outcome : Outcome}
    (hs : w.calls[k]? = some (.waiting id fut c))
    (houtcome : ∀ r, outcome = .result r → fut = some r) : Held (w.finish k id outcome) := by
  refine @Held.setCall w _ k _ (.finished id outcome) h hs (fun r hr => ⟨?_, rfl⟩) rfl rfl rfl
  cases outcome with
  | result r' =>
    obtain rfl := Option.some.inj hr
    exact houtcome r' rfl
  | timeout => cases hr

/-- What was buffered goes to the call, if its future is not done. -/
lemma Held.drained (h : Held w) {id : ℤ} {fut : Option Response}
    (hs : w.calls[k]? = some (.draining id fut)) : Held (w.drained k id fut) := by
  have hself : (w.drained k id fut).calls[k]? =
    some (.waiting id (fut.or (w.buffer id)) false) := set_self hs
  -- where each response came from
  have hcases : ∀ {x : Holder} {r : Response}, (w.drained k id fut).holds x = some r →
      w.holds x = some r ∧ x ≠ .buffer id ∧
        (w.drained k id fut).holderId x = w.holderId x ∨
      x = .call k ∧ w.holds (.buffer id) = some r := by
    rintro (j | i) r hx
    · by_cases hj : j = k
      · subst hj
        rw [holds_call hself] at hx
        cases fut with
        | none => exact Or.inr ⟨rfl, hx⟩
        | some r' =>
          refine Or.inl ⟨(holds_call hs).trans hx, Holder.noConfusion, ?_⟩
          rw [holderId_call hself, holderId_call hs]
          rfl
      · obtain ⟨hholds, hid⟩ := @holds_set_other w (w.drained k id fut) k _ rfl j hj
        exact Or.inl ⟨hholds ▸ hx, Holder.noConfusion, hid⟩
    · have hne : i ≠ id := by
        rintro rfl
        simp [World.holds, World.drained] at hx
      refine Or.inl ⟨?_, fun heq => hne (Holder.buffer.inj heq), rfl⟩
      simpa [World.holds, World.drained, hne] using hx
  constructor
  · intro x r hx
    rcases hcases hx with ⟨hold, -, hid⟩ | ⟨rfl, hold⟩
    · exact (h.own hold).trans hid.symm
    · rw [h.own hold, holderId_call hself]
      rfl
  · intro x r hx
    rcases hcases hx with ⟨hold, -⟩ | ⟨-, hold⟩ <;> exact h.read hold
  · intro x y r r' hx hy hline
    rcases hcases hx with ⟨hold, hne, -⟩ | ⟨rfl, hold⟩ <;>
      rcases hcases hy with ⟨hold', hne', -⟩ | ⟨rfl, hold'⟩
    · exact h.once hold hold' hline
    · exact absurd (h.once hold hold' hline) hne
    · exact absurd (h.once hold' hold hline.symm) hne'
    · rfl

lemma resolve_eq_some {r : Response} (h : s.resolve r = some s') :
    s'.response? = some r ∧ s'.id? = s.id? ∧ s'.open? = s.open? := by
  cases s with
  | draining id fut =>
    cases fut with
    | none =>
      obtain rfl := Option.some.inj h
      exact ⟨rfl, rfl, rfl⟩
    | some r' => cases h
  | waiting id fut c =>
    cases fut with
    | none =>
      obtain rfl := Option.some.inj h
      exact ⟨rfl, rfl, rfl⟩
    | some r' => cases h
  | _ => cases h

/-- A response is for the call registered under its id while that has none; else it is buffered. -/
lemma respond_cases (w : World) (id : ℤ) (r : Response) :
    (∃ k s s', w.pending id = some k ∧ w.calls[k]? = some s ∧ s.resolve r = some s' ∧
      w.respond id r = { w with calls := w.calls.set k s' }) ∨
    (∀ k s, w.pending id = some k → w.calls[k]? = some s → s.resolve r = none) ∧
      w.respond id r = { w with buffer := Function.update w.buffer id (some r) } := by
  rw [World.respond]
  cases hk : w.pending id with
  | none => exact Or.inr ⟨fun _ _ hk' => (nomatch hk'), rfl⟩
  | some k =>
    cases hs : w.calls[k]? with
    | none =>
      refine Or.inr ⟨fun k' s hk' hs' => ?_, by simp [hs]⟩
      obtain rfl := Option.some.inj hk'
      cases hs.symm.trans hs'
    | some s =>
      cases hr : s.resolve r with
      | none =>
        refine Or.inr ⟨fun k' s' hk' hs' => ?_, by simp [hs, hr]⟩
        obtain rfl := Option.some.inj hk'
        obtain rfl := Option.some.inj (hs.symm.trans hs')
        exact hr
      | some s' => exact Or.inl ⟨k, s, s', rfl, hs, hr, by simp [hs, hr]⟩

lemma Ids.respond (h : Ids w) (id : ℤ) (r : Response) : Ids (w.respond id r) := by
  rcases respond_cases w id r with ⟨k, s, s', -, hs, hr, heq⟩ | ⟨-, heq⟩
  · obtain ⟨-, hid, hopen⟩ := resolve_eq_some hr
    rw [heq]
    exact h.setCall hs hid hopen rfl rfl rfl
  · rw [heq]
    exact h.same rfl rfl rfl

/-- A line that was read goes on with its number. -/
lemma Held.respond (h : Held w) (hids : Ids w) {id : ℤ} {msg : Json}
    (hid : answers? msg = some id) :
    Held { w.respond id ⟨w.lines, msg⟩ with lines := w.lines + 1 } := by
  rcases respond_cases w id ⟨w.lines, msg⟩ with ⟨k, s, s', hk, hs, hr, heq⟩ | ⟨-, heq⟩
  · obtain ⟨hresponse, hsid, -⟩ := resolve_eq_some hr
    obtain ⟨t, ht, ho⟩ := hids.waits hk
    obtain rfl : s = t := Option.some.inj (hs.symm.trans ht)
    have hs' : (w.calls.set k s')[k]? = some s' := set_self hs
    rw [heq]
    refine @Held.put w _ h (.call k) ⟨w.lines, msg⟩ rfl ((holds_call hs').trans hresponse) ?_ ?_ rfl
    · rw [holderId_call hs', hsid, id_of_open ho]
      exact hid.symm
    · rintro (j | i) hne
      · exact holds_set_other rfl fun hj => hne (congrArg Holder.call hj)
      · exact ⟨rfl, rfl⟩
  · rw [heq]
    refine @Held.put w _ h (.buffer id) ⟨w.lines, msg⟩ rfl (by simp [World.holds]) hid.symm ?_ rfl
    rintro (j | i) hne
    · exact ⟨rfl, rfl⟩
    · have hi : i ≠ id := fun heq => hne (congrArg Holder.buffer heq)
      exact ⟨by simp [World.holds, hi], rfl⟩

lemma Held.lines (h : Held w) (hw : w'.calls = w.calls) (hbuffer : w'.buffer = w.buffer)
    (hlines : w.lines ≤ w'.lines) : Held w' := by
  refine h.of_sub ?_ hlines
  rintro (j | i) r hx
  · simp only [World.holds, World.holderId, hw] at hx ⊢
    exact ⟨hx, trivial⟩
  · simp only [World.holds, World.holderId, hbuffer] at hx ⊢
    exact ⟨hx, trivial⟩

/-- Only a message that answers a call changes calls or buffer. -/
lemma handle_cases (w : World) (msg : Json) :
    (∃ id, answers? msg = some id ∧ w.handle msg = w.respond id ⟨w.lines, msg⟩) ∨
    answers? msg = none ∧ ∃ reader, w.handle msg = { w with reader } := by
  rw [World.handle, answers?]
  cases classify msg with
  | raises => exact Or.inr ⟨rfl, .ended, rfl⟩
  | notification isEvent => cases isEvent <;> exact Or.inr ⟨rfl, _, rfl⟩
  | response reqId =>
    dsimp only
    cases hkey : idKey reqId with
    | none => exact Or.inr ⟨rfl, w.reader, rfl⟩
    | some id => exact Or.inl ⟨id, rfl, rfl⟩

lemma readLine_sound (hids : Ids w) (h : Held w) (line : Line) :
    Ids (w.readLine line) ∧ Held (w.readLine line) := by
  cases line with
  | json msg =>
    rw [World.readLine]
    rcases handle_cases w msg with ⟨id, hid, heq⟩ | ⟨-, reader, heq⟩
    · rw [heq]
      exact ⟨(hids.respond id _).same rfl rfl rfl, h.respond hids hid⟩
    · rw [heq]
      exact ⟨hids.same rfl rfl rfl, h.lines rfl rfl (Nat.le_succ _)⟩
  | _ => exact ⟨hids.same rfl rfl rfl, h.lines rfl rfl le_rfl⟩

variable {handsOver : Bool}

/-- In every run: no two calls, and no two places for one line. -/
lemma step_sound (hids : Ids w) (h : Held w) (move : Move) :
    Ids (w.step handsOver move) ∧ Held (w.step handsOver move) := by
  cases move with
  | call => exact ⟨hids.call, h.call⟩
  | acquire k =>
    rw [World.step]
    split
    · next hs =>
      split_ifs
      · exact ⟨hids, h⟩
      · exact ⟨hids.acquire hs, h.acquire hs⟩
    · exact ⟨hids, h⟩
  | drained k =>
    rw [World.step]
    split
    · next id fut hs =>
      exact ⟨@Ids.setCall w _ k _ (.waiting id (fut.or (w.buffer id)) false) hids hs rfl rfl rfl rfl
        rfl, h.drained hs⟩
    · exact ⟨hids, h⟩
  | timer k =>
    rw [World.step]
    split
    · next id fut hs =>
      split_ifs
      · exact ⟨hids, h⟩
      · exact ⟨@Ids.setCall w _ k _ (.waiting id fut true) hids hs rfl rfl rfl rfl rfl,
          @Held.setCall w _ k _ (.waiting id fut true) h hs (fun _ hr => ⟨hr, rfl⟩) rfl rfl rfl⟩
    · exact ⟨hids, h⟩
  | resume k =>
    rw [World.step]
    split
    · next id fut cancelled hs =>
      split_ifs
      · exact ⟨hids.finish _ hs, h.finish hs fun _ hr => by cases hr⟩
      · cases fut with
        | none => exact ⟨hids, h⟩
        | some r =>
          exact ⟨hids.finish _ hs, h.finish hs fun _ hr => congrArg some (Outcome.result.inj hr)⟩
    · exact ⟨hids, h⟩
  | read line =>
    rw [World.step]
    split_ifs
    · exact readLine_sound hids h line
    · exact ⟨hids, h⟩
  | dispatched =>
    rw [World.step]
    split_ifs
    · exact ⟨hids.same rfl rfl rfl, h.lines rfl rfl le_rfl⟩
    · exact ⟨hids, h⟩

lemma run_sound (hids : Ids w) (h : Held w) (moves : List Move) :
    Ids (w.run handsOver moves) ∧ Held (w.run handsOver moves) := by
  induction moves generalizing w with
  | nil => exact ⟨hids, h⟩
  | cons move moves ih =>
    obtain ⟨hids', h'⟩ := @step_sound w handsOver hids h move
    exact ih hids' h'

/-- The call waits, and its future has a response already. -/
def Stage.isResolved : Stage → Bool
  | .waiting _ fut false => fut.isSome
  | _ => false

/-- No timer fires between the response of a call and the call's next step. -/
def Calm (handsOver : Bool) (w : World) : Move → Prop
  | .timer k => handsOver = true ∨ ∀ s ∈ w.calls[k]?, s.isResolved = false
  | _ => True

instance (handsOver : Bool) (w : World) : (move : Move) → Decidable (Calm handsOver w move)
  | .timer _ => inferInstanceAs (Decidable (_ ∨ _))
  | .call | .acquire _ | .drained _ | .resume _ | .read _ | .dispatched => isTrue trivial

def CalmRun (handsOver : Bool) : World → List Move → Prop
  | _, [] => True
  | w, move :: moves => Calm handsOver w move ∧ CalmRun handsOver (w.step handsOver move) moves

instance decidableCalmRun (handsOver : Bool) :
    (w : World) → (moves : List Move) → Decidable (CalmRun handsOver w moves)
  | _, [] => isTrue trivial
  | w, move :: moves =>
      have := decidableCalmRun handsOver (w.step handsOver move) moves
      inferInstanceAs (Decidable (Calm handsOver w move ∧ _))

/-- The call has a response, or will find one in the buffer behind `drain`. -/
def Stage.Keeps (buffered : Option Response) : Stage → Prop
  | .draining _ fut => (fut.or buffered).isSome = true
  | s => s.Delivered

/-- A response is kept for the call with the id, or for the call that will take it. -/
structure Promised (w : World) (id : ℤ) : Prop where
  kept : ∀ {k : ℕ} {s : Stage}, w.calls[k]? = some s → s.id? = some id → s.Keeps (w.buffer id)
  early : (∀ (k : ℕ) (s : Stage), w.calls[k]? = some s → s.id? ≠ some id) →
    (w.buffer id).isSome = true

variable {id : ℤ}

lemma Promised.setCall (h : Promised w id) (hids : Ids w) (hs : w.calls[k]? = some s)
    (hcalls : w'.calls = w.calls.set k s') (hid : s'.id? = s.id?)
    (hkeeps : s.id? = some id → s.Keeps (w.buffer id) → s'.Keeps (w'.buffer id))
    (hbuffer : s.id? ≠ some id → w'.buffer id = w.buffer id) : Promised w' id where
  kept {j t} ht hi := by
    rw [hcalls] at ht
    rcases set_cases ht with ⟨rfl, rfl⟩ | ⟨hjk, ht⟩
    · rw [hid] at hi
      exact hkeeps hi (h.kept hs hi)
    · have hne : s.id? ≠ some id := fun hsi => hjk (hids.distinct ht hs hi hsi)
      rw [hbuffer hne]
      exact h.kept ht hi
  early hnone := by
    have hold : ∀ (j : ℕ) (t : Stage), w.calls[j]? = some t → t.id? ≠ some id := by
      intro j t ht hi
      by_cases hjk : j = k
      · subst hjk
        obtain rfl : s = t := Option.some.inj (hs.symm.trans ht)
        exact hnone j s' (by rw [hcalls]; exact set_self hs) (hid.trans hi)
      · exact hnone j t (by rw [hcalls]; exact set_other hjk ht) hi
    rw [hbuffer (hold k s hs)]
    exact h.early hold

lemma Promised.same (h : Promised w id) (hcalls : w'.calls = w.calls)
    (hbuffer : w'.buffer = w.buffer) : Promised w' id := by
  constructor
  · rw [hcalls, hbuffer]
    exact h.kept
  · rw [hcalls, hbuffer]
    exact h.early

lemma keeps_of_buffered (h : s.Keeps (w.buffer id)) (r : Response) : s.Keeps (some r) := by
  cases s with
  | draining i fut => cases fut <;> rfl
  | _ => exact h

lemma Promised.respond (h : Promised w id) (hids : Ids w) (id' : ℤ) (r : Response) :
    Promised (w.respond id' r) id := by
  rcases respond_cases w id' r with ⟨k, s, s', -, hs, hr, heq⟩ | ⟨-, heq⟩
  · rw [heq]
    refine h.setCall hids hs rfl (resolve_eq_some hr).2.1 (fun _ hkeeps => ?_) fun _ => rfl
    cases s with
    | draining i fut =>
      cases fut with
      | none =>
        obtain rfl := Option.some.inj hr
        rfl
      | some r' => cases hr
    | waiting i fut c =>
      cases fut with
      | none => exact absurd hkeeps.1 Bool.false_ne_true
      | some r' => cases hr
    | _ => cases hr
  · rw [heq]
    by_cases hid : id = id'
    · subst hid
      constructor
      · intro k s hs hi
        have hkeeps := keeps_of_buffered (h.kept hs hi) r
        simpa using hkeeps
      · intro _
        simp
    · constructor
      · intro k s hs hi
        have hkeeps := h.kept hs hi
        simpa [hid] using hkeeps
      · intro hnone
        have hearly := h.early hnone
        simpa [hid] using hearly

/-- A step at which no timer overtakes a response breaks no promise. -/
lemma Promised.step (h : Promised w id) (hids : Ids w) {move : Move}
    (hcalm : Calm handsOver w move) : Promised (w.step handsOver move) id := by
  cases move with
  | call =>
    constructor
    · intro k s hs hi
      rcases concat_cases hs with ⟨-, rfl⟩ | hs
      · cases hi
      · exact h.kept hs hi
    · intro hnone
      exact h.early fun k s hs => hnone k s (concat_old hs)
  | acquire k =>
    rw [World.step]
    split
    · next hs =>
      split_ifs
      · exact h
      · constructor
        · intro j t ht hi
          rcases set_cases ht with ⟨rfl, rfl⟩ | ⟨-, ht⟩
          · obtain rfl := Option.some.inj hi
            exact h.early fun i u hu hui => (hids.bound hu hui).ne rfl
          · exact h.kept ht hi
        · intro hnone
          refine h.early fun j t ht hi => ?_
          by_cases hjk : j = k
          · subst hjk
            obtain rfl := Option.some.inj (hs.symm.trans ht)
            cases hi
          · exact hnone j t (set_other hjk ht) hi
    · exact h
  | drained k =>
    rw [World.step]
    split
    · next i fut hs =>
      refine @Promised.setCall w _ k _ (.waiting i (fut.or (w.buffer i)) false) id h hids hs rfl rfl
        (fun hi hkeeps => ?_) fun hne => ?_
      · obtain rfl : i = id := Option.some.inj hi
        exact ⟨hkeeps, rfl⟩
      · have hne' : id ≠ i := fun heq => hne (congrArg some heq.symm)
        simp [World.drained, hne']
    · exact h
  | timer k =>
    rw [World.step]
    split
    · next i fut hs =>
      split_ifs with hover
      · exact h
      · refine @Promised.setCall w _ k _ (.waiting i fut true) id h hids hs rfl rfl
          (fun _ hkeeps => ?_) fun _ => rfl
        -- the timer would fire on a future that is done
        rcases hcalm with rfl | hopen
        · exact absurd hkeeps.1 (by simpa using hover)
        · cases hkeeps.1.symm.trans (hopen _ hs)
    · exact h
  | resume k =>
    rw [World.step]
    split
    · next i fut cancelled hs =>
      split_ifs with hcancelled
      · exact @Promised.setCall w _ k _ (.finished i .timeout) id h hids hs rfl rfl
          (fun _ hkeeps => absurd hkeeps.2 (by simp [hcancelled])) fun _ => rfl
      · cases fut with
        | none => exact h
        | some r =>
          exact @Promised.setCall w _ k _ (.finished i (.result r)) id h hids hs rfl rfl
            (fun _ _ => trivial) fun _ => rfl
    · exact h
  | read line =>
    rw [World.step]
    split_ifs
    · cases line with
      | json msg =>
        rw [World.readLine]
        rcases handle_cases w msg with ⟨id', -, heq⟩ | ⟨-, reader, heq⟩
        · rw [heq]
          exact (h.respond hids id' _).same rfl rfl
        · rw [heq]
          exact h.same rfl rfl
      | _ => exact h.same rfl rfl
    · exact h
  | dispatched =>
    rw [World.step]
    split_ifs
    · exact h.same rfl rfl
    · exact h

/-- Where a response is read for a call whose timer has not fired, the call will have one. -/
lemma promised_read (hids : Ids w) {msg : Json} (hid : answers? msg = some id)
    (hopen : ∀ (k : ℕ) (s : Stage), w.calls[k]? = some s → s.id? = some id → ¬ s.Expired) :
    Promised (w.readLine (.json msg)) id := by
  rw [World.readLine]
  rcases handle_cases w msg with ⟨id', hid', heq⟩ | ⟨hnone, -⟩
  · obtain rfl : id = id' := Option.some.inj (hid.symm.trans hid')
    rw [heq]
    rcases respond_cases w id ⟨w.lines, msg⟩ with ⟨k, s, s', hk, hs, hr, heq⟩ | ⟨hdone, heq⟩
    · obtain ⟨-, hsid, -⟩ := resolve_eq_some hr
      obtain ⟨u, hu, ho⟩ := hids.waits hk
      obtain rfl : s = u := Option.some.inj (hs.symm.trans hu)
      have hi : s.id? = some id := id_of_open ho
      rw [heq]
      constructor
      · intro j t ht hti
        rcases set_cases ht with ⟨rfl, rfl⟩ | ⟨hjk, ht⟩
        · cases s with
          | draining i fut =>
            cases fut with
            | none =>
              obtain rfl := Option.some.inj hr
              rfl
            | some r' => cases hr
          | waiting i fut c =>
            cases fut with
            | none =>
              obtain rfl := Option.some.inj hr
              exact ⟨rfl, by simpa [Stage.Expired] using hopen j _ hs hi⟩
            | some r' => cases hr
          | _ => cases hr
        · exact absurd (hids.distinct ht hs hti hi) hjk
      · intro hnone
        exact absurd (hsid.trans hi) (hnone k s' (set_self hs))
    · rw [heq]
      constructor
      · intro k s hs hi
        have hexpired := hopen k s hs hi
        cases s with
        | draining i fut => cases fut <;> simp [Stage.Keeps]
        | waiting i fut c =>
          obtain rfl : i = id := Option.some.inj hi
          refine ⟨?_, by simpa [Stage.Expired] using hexpired⟩
          cases fut with
          | none => cases hdone k _ (hids.registered hs rfl) hs
          | some r' => rfl
        | finished i outcome =>
          cases outcome with
          | result r' => trivial
          | timeout => exact absurd trivial hexpired
        | queued => cases hi
      · intro _
        simp
  · cases hnone.symm.trans hid

lemma calmRun_append {before after : List Move} (h : CalmRun handsOver w (before ++ after)) :
    CalmRun handsOver w before ∧ CalmRun handsOver (w.run handsOver before) after := by
  induction before generalizing w with
  | nil => exact ⟨trivial, h⟩
  | cons move moves ih =>
    obtain ⟨hmoves, hafter⟩ := ih h.2
    exact ⟨⟨h.1, hmoves⟩, hafter⟩

lemma Promised.run (h : Promised w id) (hids : Ids w) (hheld : Held w) {moves : List Move}
    (hcalm : CalmRun handsOver w moves) : Promised (w.run handsOver moves) id := by
  induction moves generalizing w with
  | nil => exact h
  | cons move moves ih =>
    obtain ⟨hids', hheld'⟩ := @step_sound w handsOver hids hheld move
    exact ih (h.step hids hcalm.1) hids' hheld' hcalm.2

lemma delivered_of_keeps {buffered : Option Response} (h : s.Keeps buffered) : s.Delivered := by
  cases s with
  | draining i fut => trivial
  | _ => exact h

/-- With a `wait_for` that hands over what came before its timer, no run loses a response. -/
lemma calmRun_handsOver (w : World) (moves : List Move) : CalmRun true w moves := by
  induction moves generalizing w with
  | nil => trivial
  | cons move moves ih =>
    refine ⟨?_, ih _⟩
    cases move with
    | timer k => exact Or.inl rfl
    | _ => trivial

/-- In every run in which no timer fires between the response of a call and the call's next
step. -/
theorem demultiplexed {moves : List Move} (h : CalmRun handsOver {} moves) :
    Demultiplexed handsOver moves where
  distinct := by
    rintro before after rfl k k' s s' id hs hs' hi hi'
    exact (run_sound ids_empty held_empty before).1.distinct hs hs' hi hi'
  own := by
    rintro before after rfl k id r hs
    have hown := (@run_sound {} handsOver ids_empty held_empty before).2.own
      (x := .call k) (r := r) (holds_call hs)
    exact hown.trans (holderId_call hs)
  once := by
    rintro before after rfl k k' id id' r r' hs hs' hline
    have honce := (@run_sound {} handsOver ids_empty held_empty before).2.once
      (x := .call k) (y := .call k') (holds_call hs) (holds_call hs') hline
    exact Holder.call.inj honce
  delivered := by
    rintro before msg after later id rfl hreader hid hopen k s hs hi
    obtain ⟨hids, hheld⟩ := @run_sound {} handsOver ids_empty held_empty before
    obtain ⟨-, hread, hafter⟩ := calmRun_append h
    have hstep : (World.run handsOver {} before).step handsOver (.read (.json msg)) =
        (World.run handsOver {} before).readLine (.json msg) := by
      rw [World.step, if_pos hreader]
    have hpromised := promised_read hids hid hopen
    rw [← hstep] at hpromised
    obtain ⟨hids', hheld'⟩ := @step_sound _ handsOver hids hheld (.read (.json msg))
    have hrun := hpromised.run hids' hheld' (calmRun_append hafter).1
    have hwhole : World.run handsOver {} (before ++ .read (.json msg) :: after) =
        ((World.run handsOver {} before).step handsOver (.read (.json msg))).run handsOver
          after := by
      simp [World.run]
    rw [hwhole] at hs
    exact delivered_of_keeps (hrun.kept hs hi)

/-- The response of the first call, as the sidecar writes it. -/
def firstResponse : Json :=
  .obj [("jsonrpc", .str "2.0"), ("id", .int 1), ("result", .obj [])]

/-- Two calls; the first one times out before its response comes, and the second one's comes while
it still drains. -/
def lateAndEarly : List Move :=
  [.call, .call, .acquire 0, .drained 0, .acquire 1, .timer 0, .resume 0,
    .read (.json (.obj [("id", .int 2), ("result", .obj [])])), .drained 1,
    .read (.json firstResponse), .timer 0, .resume 1]

theorem demultiplexed_lateAndEarly : Demultiplexed false lateAndEarly :=
  demultiplexed (by decide +kernel)

/-- The timer of a call fires when its response was read and the call has not gone on yet. -/
def overtaken : List Move :=
  [.call, .acquire 0, .drained 0, .read (.json firstResponse), .timer 0, .resume 0]

theorem response_lost : ¬ Demultiplexed false overtaken := by
  intro h
  have hopen : ∀ (k : ℕ) (s : Stage),
      (World.run false {} [.call, .acquire 0, .drained 0]).calls[k]? = some s →
      s.id? = some 1 → ¬ s.Expired := by
    intro k s hs _ hexpired
    have hcalls : (World.run false {} [.call, .acquire 0, .drained 0]).calls =
        [.waiting 1 none false] := by rfl
    rw [hcalls] at hs
    obtain rfl := List.mem_singleton.1 (List.mem_of_getElem? hs)
    cases hexpired
  exact h.delivered [.call, .acquire 0, .drained 0] firstResponse [.timer 0, .resume 0] [] 1 rfl
    (by decide +kernel) (by decide +kernel) hopen 0 (.finished 1 .timeout) (by rfl) rfl

end SherwoodMonitor.Sidecar
