import Mathlib.Data.List.Chain
import Mathlib.Tactic

/-! A store that several processes share. Each operation on it is one atomic transaction; a
process loads the store, runs operations and emits events, and its steps interleave with those of
the other processes. -/
namespace SherwoodMonitor.AtomicStore

/-- The operations of a store with states `σ`: each fails, or replies and writes a new state. -/
structure Interface (σ ε : Type) where
  Op : Type
  Reply : Op → Type
  exec : (op : Op) → σ → Except ε (Reply op × σ)

/-- What one process does. It sees whether an operation failed. -/
inductive Prog {σ ε : Type} (I : Interface σ ε) (Ev α : Type)
  | done (result : Except ε α)
  | load (k : σ → Prog I Ev α)
  | update (op : I.Op) (k : Except ε (I.Reply op) → Prog I Ev α)
  | emit (ev : Ev) (k : Prog I Ev α)

/-- A process that ran to its end, and what it left behind. -/
structure Outcome (σ ε Ev α : Type) where
  result : Except ε α
  store : σ
  events : List Ev

variable {σ ε Ev α β C : Type} {I : Interface σ ε}

/-- A failed operation writes nothing. -/
def Interface.next (I : Interface σ ε) (op : I.Op) (s : σ) : σ :=
  match I.exec op s with
  | .ok (_, s') => s'
  | .error _ => s

lemma Interface.next_of_ok {op : I.Op} {s s' : σ} {r : I.Reply op}
    (h : I.exec op s = .ok (r, s')) : I.next op s = s' := by
  simp [Interface.next, h]

lemma Interface.next_cases (op : I.Op) (s : σ) :
    I.next op s = s ∨ ∃ r, I.exec op s = .ok (r, I.next op s) := by
  cases h : I.exec op s with
  | error e => exact Or.inl (by simp [Interface.next, h])
  | ok r => exact Or.inr ⟨r.1, by simp [Interface.next, h]⟩

/-- It suffices to look at the successful runs of an operation. -/
lemma Interface.next_preserves {Inv : σ → Prop} {op : I.Op} {s : σ} (hs : Inv s)
    (hop : ∀ r s', I.exec op s = .ok (r, s') → Inv s') : Inv (I.next op s) := by
  rcases I.next_cases op s with h | ⟨r, h⟩
  · rwa [h]
  · exact hop r _ h

/-- A sequence of atomic operations. -/
def Interface.runOps (I : Interface σ ε) (ops : List I.Op) (s : σ) : σ :=
  ops.foldl (fun s op => I.next op s) s

@[simp] lemma Interface.runOps_nil (s : σ) : I.runOps [] s = s := rfl

@[simp] lemma Interface.runOps_cons (op : I.Op) (ops : List I.Op) (s : σ) :
    I.runOps (op :: ops) s = I.runOps ops (I.next op s) := rfl

lemma Interface.runOps_append (ops ops' : List I.Op) (s : σ) :
    I.runOps (ops ++ ops') s = I.runOps ops' (I.runOps ops s) := by
  simp [Interface.runOps]

lemma Interface.runOps_concat (ops : List I.Op) (op : I.Op) (s : σ) :
    I.runOps (ops ++ [op]) s = I.next op (I.runOps ops s) := by
  rw [Interface.runOps_append, Interface.runOps_cons, Interface.runOps_nil]

/-- What every successful operation of a kind preserves holds after a sequence of them. -/
lemma Interface.runOps_preserves {P : I.Op → Prop} {Inv : σ → Prop}
    (hstep : ∀ op, P op → ∀ s r s', Inv s → I.exec op s = .ok (r, s') → Inv s')
    {ops : List I.Op} (hops : ∀ op ∈ ops, P op) {s : σ} (hs : Inv s) : Inv (I.runOps ops s) := by
  induction ops generalizing s with
  | nil => exact hs
  | cons op ops ih =>
    have hnext : Inv (I.next op s) :=
      Interface.next_preserves hs fun r s' h => hstep op (hops op (by simp)) s r s' hs h
    exact ih (fun o ho => hops o (by simp [ho])) hnext

namespace Prog

def raise (e : ε) : Prog I Ev α := done (.error e)

def bind : Prog I Ev α → (α → Prog I Ev β) → Prog I Ev β
  | done (.ok a), f => f a
  | done (.error e), _ => done (.error e)
  | load k, f => load fun s => (k s).bind f
  | update op k, f => update op fun r => (k r).bind f
  | emit ev k, f => emit ev (k.bind f)

instance : Monad (Prog I Ev) where
  pure a := done (.ok a)
  bind := bind

/-- Read the store. -/
def get : Prog I Ev σ := load fun s => done (.ok s)

/-- Run one operation; its failure ends the process. -/
def call (op : I.Op) : Prog I Ev (I.Reply op) := update op done

def tell (ev : Ev) : Prog I Ev Unit := emit ev (done (.ok ()))

/-- The process alone on the store, to its end. -/
def run : Prog I Ev α → σ → Outcome σ ε Ev α
  | done result, s => ⟨result, s, []⟩
  | load k, s => (k s).run s
  | update op k, s =>
      match I.exec op s with
      | .ok (r, s') => (k (.ok r)).run s'
      | .error e => (k (.error e)).run s
  | emit ev k, s =>
      let out := k.run s
      ⟨out.result, out.store, ev :: out.events⟩

lemma run_pure (a : α) (s : σ) : (pure a : Prog I Ev α).run s = ⟨.ok a, s, []⟩ := rfl

lemma run_bind (p : Prog I Ev α) (f : α → Prog I Ev β) (s : σ) :
    (p >>= f).run s =
      match (p.run s).result with
      | .ok a => ⟨((f a).run (p.run s).store).result, ((f a).run (p.run s).store).store,
          (p.run s).events ++ ((f a).run (p.run s).store).events⟩
      | .error e => ⟨.error e, (p.run s).store, (p.run s).events⟩ := by
  change (p.bind f).run s = _
  induction p generalizing s with
  | done r => cases r <;> simp [bind, run]
  | load k ih => simpa [bind, run] using ih s s
  | update op k ih =>
    simp only [bind, run]
    cases I.exec op s with
    | error e => exact ih _ s
    | ok r => exact ih _ r.2
  | emit ev k ih =>
    simp only [bind, run, ih s]
    cases (k.run s).result <;> simp

lemma run_call (op : I.Op) (s : σ) :
    (call op : Prog I Ev _).run s =
      match I.exec op s with
      | .ok (r, s') => ⟨.ok r, s', []⟩
      | .error e => ⟨.error e, s, []⟩ := by
  rw [call, run]
  cases I.exec op s <;> rfl

lemma run_call_of_ok {op : I.Op} {s s' : σ} {r : I.Reply op} (h : I.exec op s = .ok (r, s')) :
    (call op : Prog I Ev _).run s = ⟨.ok r, s', []⟩ := by
  rw [run_call, h]

lemma run_call_of_error {op : I.Op} {s : σ} {e : ε} (h : I.exec op s = .error e) :
    (call op : Prog I Ev _).run s = ⟨.error e, s, []⟩ := by
  rw [run_call, h]

lemma run_bind_of_ok {p : Prog I Ev α} {s s' : σ} {a : α} {evs : List Ev}
    (h : p.run s = ⟨.ok a, s', evs⟩) (f : α → Prog I Ev β) :
    (p >>= f).run s = ⟨((f a).run s').result, ((f a).run s').store,
      evs ++ ((f a).run s').events⟩ := by
  rw [run_bind, h]

lemma run_bind_of_error {p : Prog I Ev α} {s s' : σ} {e : ε} {evs : List Ev}
    (h : p.run s = ⟨.error e, s', evs⟩) (f : α → Prog I Ev β) :
    (p >>= f).run s = ⟨.error e, s', evs⟩ := by
  rw [run_bind, h]

lemma run_get (s : σ) : (get : Prog I Ev σ).run s = ⟨.ok s, s, []⟩ := rfl

lemma run_tell (ev : Ev) (s : σ) : (tell ev : Prog I Ev Unit).run s = ⟨.ok (), s, [ev]⟩ := rfl

/-- Working on its result afterwards changes nothing of what a process leaves behind. -/
lemma run_bind_pure (p : Prog I Ev α) (f : α → β) (s : σ) :
    ((p >>= fun a => pure (f a)).run s).store = (p.run s).store ∧
      ((p >>= fun a => pure (f a)).run s).events = (p.run s).events := by
  rw [run_bind]
  cases (p.run s).result with
  | ok a => exact ⟨rfl, List.append_nil _⟩
  | error e => exact ⟨rfl, rfl⟩

/-- Every operation the process may run is of a kind. -/
def Uses (P : I.Op → Prop) : Prog I Ev α → Prop
  | done _ => True
  | load k => ∀ s, (k s).Uses P
  | update op k => P op ∧ ∀ r, (k r).Uses P
  | emit _ k => k.Uses P

lemma uses_bind {P : I.Op → Prop} {p : Prog I Ev α} {f : α → Prog I Ev β} (hp : p.Uses P)
    (hf : ∀ a, (f a).Uses P) : (p >>= f).Uses P := by
  change (p.bind f).Uses P
  induction p with
  | done r => cases r <;> simp [bind, Uses, hf]
  | load k ih => exact fun s => ih s (hp s)
  | update op k ih => exact ⟨hp.1, fun r => ih r (hp.2 r)⟩
  | emit ev k ih => exact ih hp

/-- A process alone leaves the store as some sequence of its operations does. -/
lemma exists_runOps {P : I.Op → Prop} {p : Prog I Ev α} (hp : p.Uses P) (s : σ) :
    ∃ ops : List I.Op, (∀ op ∈ ops, P op) ∧ (p.run s).store = I.runOps ops s := by
  induction p generalizing s with
  | done r => exact ⟨[], by simp, rfl⟩
  | load k ih => exact ih s (hp s) s
  | update op k ih =>
    cases h : I.exec op s with
    | error e =>
      obtain ⟨ops, hops, hrun⟩ := ih (.error e) (hp.2 _) s
      exact ⟨ops, hops, by simp only [run, h, hrun]⟩
    | ok r =>
      obtain ⟨ops, hops, hrun⟩ := ih (.ok r.1) (hp.2 _) r.2
      refine ⟨op :: ops, by simpa [hp.1] using hops, ?_⟩
      rw [Interface.runOps_cons, Interface.next_of_ok h, ← hrun]
      simp only [run, h]
  | emit ev k ih => exact ih hp s

/-- A process alone preserves `Inv`. -/
def Keeps (Inv : σ → Prop) (p : Prog I Ev α) : Prop := ∀ s, Inv s → Inv (p.run s).store

section Keeps

variable {Inv : σ → Prop}

lemma keeps_pure (a : α) : (pure a : Prog I Ev α).Keeps Inv := fun _ hs => hs

lemma keeps_raise (e : ε) : (raise e : Prog I Ev α).Keeps Inv := fun _ hs => hs

lemma keeps_tell (ev : Ev) : (tell ev : Prog I Ev Unit).Keeps Inv := fun _ hs => hs

lemma run_bind_store (p : Prog I Ev α) (f : α → Prog I Ev β) (s : σ) :
    ((p >>= f).run s).store =
      match (p.run s).result with
      | .ok a => ((f a).run (p.run s).store).store
      | .error _ => (p.run s).store := by
  rw [run_bind]
  cases (p.run s).result <;> rfl

lemma keeps_bind {p : Prog I Ev α} {f : α → Prog I Ev β} (hp : p.Keeps Inv)
    (hf : ∀ a, (f a).Keeps Inv) : (p >>= f).Keeps Inv := by
  intro s hs
  rw [run_bind_store]
  cases (p.run s).result with
  | ok a => exact hf a _ (hp s hs)
  | error e => exact hp s hs

/-- After a load the process knows the state it runs on. -/
lemma keeps_get_bind {f : σ → Prog I Ev α}
    (hf : ∀ s, Inv s → Inv ((f s).run s).store) : (get >>= f).Keeps Inv := by
  intro s hs
  rw [run_bind_store, run_get]
  exact hf s hs

lemma run_call_store (op : I.Op) (s : σ) :
    ((call op : Prog I Ev _).run s).store = I.next op s := by
  rw [run_call, Interface.next]
  cases I.exec op s <;> rfl

lemma keeps_call {op : I.Op} (hop : ∀ s, Inv s → Inv (I.next op s)) :
    (call op : Prog I Ev _).Keeps Inv := by
  intro s hs
  rw [run_call_store]
  exact hop s hs

end Keeps

section Ends

/-- The process can come to this end, whatever the others do to the store between its steps. -/
inductive Ends : Prog I Ev α → Except ε α → Prop
  | done (r : Except ε α) : Ends (done r) r
  | load {k : σ → Prog I Ev α} {r : Except ε α} (s : σ) (h : Ends (k s) r) : Ends (load k) r
  | update {op : I.Op} {k : Except ε (I.Reply op) → Prog I Ev α} {r : Except ε α} (s : σ)
      (h : Ends (k ((I.exec op s).map (·.1))) r) : Ends (update op k) r
  | emit {ev : Ev} {k : Prog I Ev α} {r : Except ε α} (h : Ends k r) : Ends (emit ev k) r

lemma ends_bind {p : Prog I Ev α} {f : α → Prog I Ev β} {b : β}
    (h : Ends (p >>= f) (.ok b)) : ∃ a, Ends p (.ok a) ∧ Ends (f a) (.ok b) := by
  change Ends (p.bind f) (.ok b) at h
  induction p with
  | done r =>
    cases r with
    | ok a => exact ⟨a, .done _, h⟩
    | error e => cases h
  | load k ih =>
    cases h with
    | load s h =>
      obtain ⟨a, ha, hb⟩ := ih s h
      exact ⟨a, .load s ha, hb⟩
  | update op k ih =>
    cases h with
    | update s h =>
      obtain ⟨a, ha, hb⟩ := ih _ h
      exact ⟨a, .update s ha, hb⟩
  | emit ev k ih =>
    cases h with
    | emit h =>
      obtain ⟨a, ha, hb⟩ := ih h
      exact ⟨a, .emit ha, hb⟩

lemma ends_get_bind {f : σ → Prog I Ev α} {r : Except ε α} (h : Ends (get >>= f) r) :
    ∃ s, Ends (f s) r := by
  cases h with
  | load s h => exact ⟨s, h⟩

lemma ends_call {op : I.Op} {r : I.Reply op} (h : Ends (call op : Prog I Ev _) (.ok r)) :
    ∃ s s', I.exec op s = .ok (r, s') := by
  generalize hend : (Except.ok r : Except ε (I.Reply op)) = out at h
  cases h with
  | update s h =>
    cases hexec : I.exec op s with
    | error e =>
      rw [hexec] at h
      cases h
      cases hend
    | ok found =>
      rw [hexec] at h
      cases h
      obtain rfl : r = found.1 := Except.ok.inj hend
      exact ⟨s, found.2, hexec⟩

lemma ends_pure {a b : α} (h : Ends (pure a : Prog I Ev α) (.ok b)) : a = b := by
  cases h
  rfl

/-- So does a run of the process alone. -/
lemma ends_run (p : Prog I Ev α) (s : σ) : Ends p (p.run s).result := by
  induction p generalizing s with
  | done r => exact .done r
  | load k ih => exact .load s (ih s s)
  | update op k ih =>
    rw [run]
    cases h : I.exec op s with
    | error e => exact .update s (by rw [h]; exact ih _ s)
    | ok found => exact .update s (by rw [h]; exact ih _ found.2)
  | emit ev k ih => exact .emit (ih s)

end Ends

/-- One atomic step of the process. -/
def step : Prog I Ev α → σ → Prog I Ev α × σ
  | done result, s => (done result, s)
  | load k, s => (k s, s)
  | update op k, s =>
      match I.exec op s with
      | .ok (r, s') => (k (.ok r), s')
      | .error e => (k (.error e), s)
  | emit _ k, s => (k, s)

/-- The operation that the next step of the process runs. -/
def nextOp : Prog I Ev α → Option I.Op
  | update op _ => some op
  | _ => none

lemma step_store (p : Prog I Ev α) (s : σ) :
    (p.step s).2 = match p.nextOp with | some op => I.next op s | none => s := by
  cases p with
  | update op k => simp only [step, nextOp, Interface.next]; cases I.exec op s <;> rfl
  | _ => rfl

section Within

/-- As long as the store satisfies `Inv`, each operation that the process runs is of the kind `P`, and
what it ends with is a failure or satisfies `Q`. -/
inductive Within (Inv : σ → Prop) (P : I.Op → Prop) (Q : α → Prop) : Prog I Ev α → Prop
  | done {a : α} (h : Q a) : Within Inv P Q (done (.ok a))
  | fail (e : ε) : Within Inv P Q (done (.error e))
  | load {k : σ → Prog I Ev α} (h : ∀ s, Inv s → Within Inv P Q (k s)) : Within Inv P Q (load k)
  | update {op : I.Op} {k : Except ε (I.Reply op) → Prog I Ev α} (hop : P op)
      (h : ∀ s, Inv s → Within Inv P Q (k ((I.exec op s).map (·.1)))) :
      Within Inv P Q (update op k)
  | emit {ev : Ev} {k : Prog I Ev α} (h : Within Inv P Q k) : Within Inv P Q (emit ev k)

variable {Inv : σ → Prop} {P P' : I.Op → Prop} {Q Q' : α → Prop}

lemma Within.mono {p : Prog I Ev α} (h : p.Within Inv P Q) (hP : ∀ op, P op → P' op)
    (hQ : ∀ a, Q a → Q' a) : p.Within Inv P' Q' := by
  induction h with
  | done h => exact .done (hQ _ h)
  | fail e => exact .fail e
  | load _ ih => exact .load ih
  | update hop _ ih => exact .update (hP _ hop) ih
  | emit _ ih => exact .emit ih

lemma Within.pure {a : α} (h : Q a) : (pure a : Prog I Ev α).Within Inv P Q := .done h

lemma Within.raise (e : ε) : (raise e : Prog I Ev α).Within Inv P Q := .fail e

lemma Within.tell (ev : Ev) : (tell ev : Prog I Ev Unit).Within Inv P fun _ => True :=
  .emit (.done trivial)

lemma Within.bind {R : β → Prop} {p : Prog I Ev α} {f : α → Prog I Ev β} (hp : p.Within Inv P Q)
    (hf : ∀ a, Q a → (f a).Within Inv P R) : (p >>= f).Within Inv P R := by
  change (p.bind f).Within Inv P R
  induction hp with
  | done h => exact hf _ h
  | fail e => exact .fail e
  | load _ ih => exact .load ih
  | update hop _ ih => exact .update hop ih
  | emit _ ih => exact .emit ih

lemma Within.get_bind {f : σ → Prog I Ev α} (hf : ∀ s, Inv s → (f s).Within Inv P Q) :
    (get >>= f).Within Inv P Q :=
  .load hf

/-- The reply of a call comes from a state that satisfies `Inv`. -/
lemma Within.call {op : I.Op} {Q : I.Reply op → Prop} (hop : P op)
    (hreply : ∀ s r s', Inv s → I.exec op s = .ok (r, s') → Q r) :
    (Prog.call op : Prog I Ev _).Within Inv P Q := by
  refine .update hop fun s hs => ?_
  cases hexec : I.exec op s with
  | error e => exact .fail e
  | ok r => exact .done (hreply s r.1 r.2 hs hexec)

/-- What a step leaves to do stays within the same bounds. -/
lemma Within.step {p : Prog I Ev α} {s : σ} (h : p.Within Inv P Q) (hs : Inv s) :
    (p.step s).1.Within Inv P Q := by
  cases h with
  | done h => exact .done h
  | fail e => exact .fail e
  | load h => exact h s hs
  | @update op k hop h =>
    have hk := h s hs
    rw [Prog.step]
    cases hexec : I.exec op s with
    | error e =>
      rw [hexec] at hk
      exact hk
    | ok r =>
      rw [hexec] at hk
      exact hk
  | emit h => exact h

lemma Within.nextOp {p : Prog I Ev α} {op : I.Op} (h : p.Within Inv P Q)
    (hop : p.nextOp = some op) : P op := by
  cases h with
  | update h => exact Option.some.inj hop ▸ h
  | done h => cases hop
  | fail e => cases hop
  | load h => cases hop
  | emit h => cases hop

end Within

end Prog

/-- The store and the processes at work on it. -/
structure Pool (I : Interface σ ε) (Ev α : Type) where
  store : σ
  procs : List (Prog I Ev α)

/-- A process begins a call, or a process takes its next step. One that is never moved again has
crashed. -/
inductive Move (C : Type)
  | begin (c : C)
  | go (i : ℕ)

namespace Pool

variable (prog : C → Prog I Ev α)

def step (pool : Pool I Ev α) : Move C → Pool I Ev α
  | .begin c => ⟨pool.store, pool.procs ++ [prog c]⟩
  | .go i =>
      match pool.procs[i]? with
      | none => pool
      | some p => ⟨(p.step pool.store).2, pool.procs.set i (p.step pool.store).1⟩

def opAt (pool : Pool I Ev α) : Move C → Option I.Op
  | .begin _ => none
  | .go i => pool.procs[i]?.bind Prog.nextOp

lemma step_store (pool : Pool I Ev α) (m : Move C) :
    (pool.step prog m).store =
      match pool.opAt m with | some op => I.next op pool.store | none => pool.store := by
  cases m with
  | begin c => rfl
  | go i =>
    simp only [step, opAt]
    cases pool.procs[i]? with
    | none => rfl
    | some p => exact p.step_store pool.store

/-- The stored states of a schedule, from the first on. -/
def history (pool : Pool I Ev α) : List (Move C) → List σ
  | [] => [pool.store]
  | m :: ms => pool.store :: (pool.step prog m).history ms

/-- `P` holds of every operation of a schedule, at the stored state it finds. -/
def Upholds (P : σ → I.Op → Prop) (pool : Pool I Ev α) : List (Move C) → Prop
  | [] => True
  | m :: ms => (∀ op ∈ pool.opAt m, P pool.store op) ∧ (pool.step prog m).Upholds P ms

lemma history_ne_nil (pool : Pool I Ev α) (ms : List (Move C)) : pool.history prog ms ≠ [] := by
  cases ms <;> simp [history]

lemma head?_history (pool : Pool I Ev α) (ms : List (Move C)) :
    (pool.history prog ms).head? = some pool.store := by
  cases ms <;> rfl

/-- Consecutive stored states are related exactly when each operation relates the state it finds
to the one it leaves. -/
theorem isChain_history {R : σ → σ → Prop} (hrefl : ∀ s, R s s) (pool : Pool I Ev α)
    (ms : List (Move C)) :
    (pool.history prog ms).IsChain R ↔ pool.Upholds prog (fun s op => R s (I.next op s)) ms := by
  induction ms generalizing pool with
  | nil => simp [history, Upholds]
  | cons m ms ih =>
    have hfirst : R pool.store (pool.step prog m).store ↔
        ∀ op ∈ pool.opAt m, R pool.store (I.next op pool.store) := by
      rw [step_store]
      cases pool.opAt m <;> simp [hrefl]
    rw [history, Upholds, List.isChain_cons, head?_history, ← ih, ← hfirst]
    simp

lemma Upholds.iff {P Q : σ → I.Op → Prop} (h : ∀ s op, P s op ↔ Q s op) (pool : Pool I Ev α)
    (ms : List (Move C)) : pool.Upholds prog P ms ↔ pool.Upholds prog Q ms := by
  induction ms generalizing pool with
  | nil => rfl
  | cons m ms ih => simp [Upholds, h, ih]

/-- The store and the processes after a schedule. -/
def run (pool : Pool I Ev α) (ms : List (Move C)) : Pool I Ev α := ms.foldl (step prog) pool

lemma run_cons (pool : Pool I Ev α) (m : Move C) (ms : List (Move C)) :
    pool.run prog (m :: ms) = (pool.step prog m).run prog ms := rfl

section Within

variable {Inv : σ → Prop} {P : I.Op → Prop} {Q : α → Prop} {R : σ → σ → Prop}

/-- Processes that keep within their bounds under `Inv`, over operations of `P` that keep `Inv` and
change the store by `R` only: each step of one of them does. -/
lemma step_within {pool : Pool I Ev α} {m : Move C} (hrefl : ∀ s, R s s)
    (hstep : ∀ op s r s', P op → Inv s → I.exec op s = .ok (r, s') → Inv s' ∧ R s s')
    (hs : Inv pool.store) (hprocs : ∀ p ∈ pool.procs, p.Within Inv P Q)
    (hcall : ∀ c, m = .begin c → (prog c).Within Inv P Q) :
    Inv (pool.step prog m).store ∧ R pool.store (pool.step prog m).store ∧
      ∀ p ∈ (pool.step prog m).procs, p.Within Inv P Q := by
  cases m with
  | begin c =>
    refine ⟨hs, hrefl _, fun p hp => ?_⟩
    rcases List.mem_append.1 hp with hp | hp
    · exact hprocs p hp
    · rw [List.mem_singleton.1 hp]
      exact hcall c rfl
  | go i =>
    rw [step]
    cases hi : pool.procs[i]? with
    | none => exact ⟨hs, hrefl _, hprocs⟩
    | some p =>
      have hp : p.Within Inv P Q := hprocs p (List.mem_of_getElem? hi)
      have hstore : Inv (p.step pool.store).2 ∧ R pool.store (p.step pool.store).2 := by
        rw [p.step_store]
        cases hop : p.nextOp with
        | none => exact ⟨hs, hrefl _⟩
        | some op =>
          dsimp only
          rcases I.next_cases op pool.store with h | ⟨r, h⟩
          · rw [h]
            exact ⟨hs, hrefl _⟩
          · exact hstep op _ r _ (hp.nextOp hop) hs h
      refine ⟨hstore.1, hstore.2, fun q hq => ?_⟩
      rcases List.mem_or_eq_of_mem_set hq with hq | rfl
      · exact hprocs q hq
      · exact hp.step hs

/-- The same after a whole schedule. -/
theorem run_within {pool : Pool I Ev α} {ms : List (Move C)} (hrefl : ∀ s, R s s)
    (htrans : ∀ a b c, R a b → R b c → R a c)
    (hstep : ∀ op s r s', P op → Inv s → I.exec op s = .ok (r, s') → Inv s' ∧ R s s')
    (hs : Inv pool.store) (hprocs : ∀ p ∈ pool.procs, p.Within Inv P Q)
    (hcalls : ∀ c, .begin c ∈ ms → (prog c).Within Inv P Q) :
    Inv (pool.run prog ms).store ∧ R pool.store (pool.run prog ms).store ∧
      ∀ p ∈ (pool.run prog ms).procs, p.Within Inv P Q := by
  induction ms generalizing pool with
  | nil => exact ⟨hs, hrefl _, hprocs⟩
  | cons m ms ih =>
    have hcall : ∀ c, m = .begin c → (prog c).Within Inv P Q := by
      rintro c rfl
      exact hcalls c List.mem_cons_self
    obtain ⟨hs', hR, hprocs'⟩ := step_within prog hrefl hstep hs hprocs hcall
    obtain ⟨hend, hrest, hall⟩ :=
      ih hs' hprocs' fun c hc => hcalls c (List.mem_cons_of_mem m hc)
    rw [run_cons]
    exact ⟨hend, htrans _ _ _ hR hrest, hall⟩

end Within

end Pool

section Raising

variable (raises : I.Op → σ → Option ε)

/-- The store on which an operation that would succeed may still raise. -/
def Interface.raising (I : Interface σ ε) (raises : I.Op → σ → Option ε) : Interface σ ε where
  Op := I.Op
  Reply := I.Reply
  exec op s :=
    match I.exec op s, raises op s with
    | .error e, _ => .error e
    | .ok _, some e => .error e
    | .ok r, none => .ok r

lemma Interface.raising_of_ok {op : I.Op} {s : σ} {r : I.Reply op × σ} (h : I.exec op s = .ok r)
    (hraises : raises op s = none) : (I.raising raises).exec op s = .ok r := by
  simp only [raising, h, hraises]

lemma Interface.raising_of_raises {op : I.Op} {s : σ} {r : I.Reply op × σ} {e : ε}
    (h : I.exec op s = .ok r) (hraises : raises op s = some e) :
    (I.raising raises).exec op s = .error e := by
  simp only [raising, h, hraises]

lemma Interface.raising_of_error {op : I.Op} {s : σ} {e : ε} (h : I.exec op s = .error e) :
    (I.raising raises).exec op s = .error e := by
  simp only [raising, h]

/-- The same process on such a store. -/
def Prog.raising : Prog I Ev α → Prog (I.raising raises) Ev α
  | .done result => .done result
  | .load k => .load fun s => (k s).raising
  | .update op k => .update op fun r => (k r).raising
  | .emit ev k => .emit ev k.raising

lemma Prog.raising_bind (p : Prog I Ev α) (f : α → Prog I Ev β) :
    (p >>= f).raising raises = p.raising raises >>= fun a => (f a).raising raises := by
  change (p.bind f).raising raises = (p.raising raises).bind fun a => (f a).raising raises
  induction p with
  | done r => cases r <;> rfl
  | load k ih =>
    simp only [bind, raising]
    exact congrArg Prog.load (funext ih)
  | update op k ih =>
    have hk : (fun r => ((k r).bind f).raising raises) =
        fun r => ((k r).raising raises).bind fun a => (f a).raising raises := funext ih
    simp only [bind, raising]
    exact congrArg (Prog.update (I := I.raising raises) op) hk
  | emit ev k ih =>
    simp only [bind, raising]
    exact congrArg (Prog.emit ev) ih

lemma Prog.raising_call (op : I.Op) :
    (Prog.call op : Prog I Ev _).raising raises = Prog.call (I := I.raising raises) op := by
  simp only [call, raising]
  rfl

end Raising

end SherwoodMonitor.AtomicStore
