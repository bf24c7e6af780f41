import ResolverSetup.Log
/-! Computations that change a state on their way. What they have changed when they fail stays
changed. -/
namespace ResolverSetup

def Procedure (σ ε α : Type) := σ → Traced ε α × σ

namespace Procedure

variable {σ ε α β : Type}

def pure (a : α) : Procedure σ ε α := fun s => (.pure a, s)

def bind (p : Procedure σ ε α) (f : α → Procedure σ ε β) : Procedure σ ε β := fun s =>
  match (p s).1.outcome with
  | .error e => (⟨(p s).1.log, .error e⟩, (p s).2)
  | .ok a =>
    let (x, t) := f a (p s).2
    (⟨(p s).1.log ++ x.log, x.outcome⟩, t)

instance : Monad (Procedure σ ε) where
  pure := Procedure.pure
  bind := Procedure.bind

def current : Procedure σ ε σ := fun s => (.pure s, s)

def change (g : σ → σ) : Procedure σ ε Unit := fun s => (.pure (), g s)

def perform (x : Traced ε α) : Procedure σ ε α := fun s => (x, s)

theorem pure_apply (a : α) (s : σ) : (Pure.pure a : Procedure σ ε α) s = (.pure a, s) := rfl

theorem bind_of_ok {p : Procedure σ ε α} {s : σ} {a : α} (h : (p s).1.outcome = .ok a)
    (f : α → Procedure σ ε β) :
    (p >>= f) s =
      (⟨(p s).1.log ++ (f a (p s).2).1.log, (f a (p s).2).1.outcome⟩, (f a (p s).2).2) := by
  change bind p f s = _
  simp [bind, h]

theorem bind_of_error {p : Procedure σ ε α} {s : σ} {e : ε} (h : (p s).1.outcome = .error e)
    (f : α → Procedure σ ε β) : (p >>= f) s = (⟨(p s).1.log, .error e⟩, (p s).2) := by
  change bind p f s = _
  simp [bind, h]

theorem fst_perform_bind (x : Traced ε α) (f : α → Procedure σ ε β) (s : σ) :
    ((perform x >>= f) s).1 = x >>= fun a => (f a s).1 := by
  cases h : x.outcome with
  | error e =>
    have hp : (perform x s).1.outcome = .error e := h
    rw [bind_of_error hp]
    exact (Traced.bind_of_error h fun a => (f a s).1).symm
  | ok a =>
    have hp : (perform x s).1.outcome = .ok a := h
    rw [bind_of_ok hp]
    exact (Traced.bind_of_ok h fun a => (f a s).1).symm

@[simp] theorem current_bind (f : σ → Procedure σ ε α) (s : σ) : (current >>= f) s = f s s := rfl

@[simp] theorem change_bind (g : σ → σ) (f : Unit → Procedure σ ε α) (s : σ) :
    (change g >>= f) s = f () (g s) := rfl

/-! A computation ends with a result and a state, or it fails. -/

def Ends (p : Procedure σ ε α) (s : σ) (a : α) (t : σ) : Prop :=
  (p s).1.outcome = .ok a ∧ (p s).2 = t

@[simp] theorem ends_bind_iff (p : Procedure σ ε α) (f : α → Procedure σ ε β) (s : σ) (b : β) (u : σ) :
    Ends (p >>= f) s b u ↔ ∃ a t, p.Ends s a t ∧ (f a).Ends t b u := by
  cases h : (p s).1.outcome with
  | error e => simp [Ends, bind_of_error h, h]
  | ok a =>
    simp only [Ends, bind_of_ok h, h, Except.ok.injEq]
    constructor
    · intro hb
      exact ⟨a, _, ⟨rfl, rfl⟩, hb⟩
    · rintro ⟨_, _, ⟨rfl, rfl⟩, hb⟩
      exact hb

@[simp] theorem ends_perform_iff (x : Traced ε α) (s : σ) (a : α) (t : σ) :
    (perform x).Ends s a t ↔ x.outcome = .ok a ∧ t = s := by
  rw [Ends, perform, eq_comm (a := s)]

@[simp] theorem ends_change_iff (g : σ → σ) (s : σ) (a : Unit) (t : σ) :
    (change g : Procedure σ ε Unit).Ends s a t ↔ t = g s := by
  simp [Ends, change, eq_comm]

@[simp] theorem ends_current_iff (s a t : σ) :
    (current : Procedure σ ε σ).Ends s a t ↔ a = s ∧ t = s := by
  simp [Ends, current, eq_comm]

@[simp] theorem ends_pure_iff (a b : α) (s t : σ) :
    (Pure.pure a : Procedure σ ε α).Ends s b t ↔ b = a ∧ t = s := by
  simp [Ends, pure_apply, eq_comm]

/-- A note at the end, if there are words for it. -/
theorem perform_note (x : Except ε LogEntry) (a : α) (s : σ) :
    let p := do
      let entry ← perform (.ofExcept x)
      perform (.note entry)
      return a
    (p s).1.outcome = x.map (fun _ => a) ∧ (p s).2 = s := by
  cases x with
  | error e => exact ⟨rfl, rfl⟩
  | ok entry => exact ⟨rfl, rfl⟩

/-! A procedure that leaves the state alone until little can fail any more. -/

/-- Should the procedure fail from this state, it leaves the state as it is or fails late. -/
def Unharmed (p : Procedure σ ε α) (s : σ) (late : ε → σ → Prop) : Prop :=
  ∀ e, (p s).1.outcome = .error e → (p s).2 = s ∨ late e (p s).2

namespace Unharmed
variable {s : σ} {late : ε → σ → Prop}

theorem perform {x : Traced ε α} {f : α → Procedure σ ε β}
    (h : ∀ a, x.outcome = .ok a → (f a).Unharmed s late) :
    (Procedure.perform x >>= f).Unharmed s late := by
  intro e he
  cases hx : x.outcome with
  | error d =>
    have hp : (Procedure.perform x s).1.outcome = .error d := hx
    rw [bind_of_error hp]
    exact .inl rfl
  | ok a =>
    have hp : (Procedure.perform x s).1.outcome = .ok a := hx
    rw [bind_of_ok hp] at he ⊢
    exact h a hx e he

theorem current {f : σ → Procedure σ ε α} (h : (f s).Unharmed s late) :
    (Procedure.current >>= f).Unharmed s late := h

end Unharmed

/-! A part of the state that a procedure leaves alone, however it ends. -/

def Keeps (view : σ → τ) (p : Procedure σ ε α) : Prop := ∀ s, view (p s).2 = view s

namespace Keeps
variable {view : σ → τ}

theorem bind {p : Procedure σ ε α} {f : α → Procedure σ ε β} (hp : p.Keeps view)
    (hf : ∀ a, (f a).Keeps view) : (p >>= f).Keeps view := by
  intro s
  cases h : (p s).1.outcome with
  | error e =>
    rw [bind_of_error h]
    exact hp s
  | ok a =>
    rw [bind_of_ok h]
    exact (hf a _).trans (hp s)

theorem pure (a : α) : (Pure.pure a : Procedure σ ε α).Keeps view := fun _ => rfl

theorem current : (Procedure.current : Procedure σ ε σ).Keeps view := fun _ => rfl

theorem perform (x : Traced ε α) : (Procedure.perform x : Procedure σ ε α).Keeps view :=
  fun _ => rfl

theorem change {g : σ → σ} (hg : ∀ s, view (g s) = view s) :
    (Procedure.change g : Procedure σ ε Unit).Keeps view := hg

end Keeps

end Procedure
end ResolverSetup
