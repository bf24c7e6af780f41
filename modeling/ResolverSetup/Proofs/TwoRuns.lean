import Mathlib.Data.List.Forall2
import ResolverSetup.Procedure
/-! Two runs side by side that cannot be told apart by what they log or how they fail. -/
namespace ResolverSetup
open List (Forall₂)

section
variable {ε δ α β γ η : Type} {R : α → β → Prop} {S : γ → η → Prop}

inductive OutcomesAgree (R : α → β → Prop) : Except ε α → Except ε β → Prop
  | error (e : ε) : OutcomesAgree R (.error e) (.error e)
  | ok {a : α} {b : β} (h : R a b) : OutcomesAgree R (.ok a) (.ok b)

structure Traced.Agree (R : α → β → Prop) (x : Traced ε α) (y : Traced ε β) : Prop where
  log : x.log = y.log
  outcome : OutcomesAgree R x.outcome y.outcome

namespace Traced.Agree

/-- A computation agrees with itself. -/
theorem self (x : Traced ε α) : x.Agree Eq x := by
  refine ⟨rfl, ?_⟩
  cases x.outcome with
  | error e => exact .error e
  | ok a => exact .ok rfl

theorem imp {T : α → β → Prop} {x : Traced ε α} {y : Traced ε β} (h : x.Agree R y)
    (hRT : ∀ a b, R a b → T a b) : x.Agree T y := by
  obtain ⟨log, outcome⟩ := x
  obtain ⟨log', outcome'⟩ := y
  obtain ⟨hlog, hout⟩ := h
  refine ⟨hlog, ?_⟩
  cases hout with
  | error e => exact .error e
  | ok hab => exact .ok (hRT _ _ hab)

theorem pure {a : α} {b : β} (h : R a b) : (Traced.pure a : Traced ε α).Agree R (.pure b) :=
  ⟨rfl, .ok h⟩

theorem bind {x : Traced ε α} {y : Traced ε β} (h : x.Agree R y) {f : α → Traced ε γ}
    {g : β → Traced ε η} (hfg : ∀ a b, R a b → (f a).Agree S (g b)) :
    (x >>= f).Agree S (y >>= g) := by
  change (x.bind f).Agree S (y.bind g)
  obtain ⟨log, outcome⟩ := x
  obtain ⟨log', outcome'⟩ := y
  obtain ⟨rfl, hout⟩ := h
  cases hout with
  | error e => exact ⟨rfl, .error e⟩
  | ok hab =>
    obtain ⟨hlog, hlater⟩ := hfg _ _ hab
    exact ⟨congrArg (log ++ ·) hlog, hlater⟩

theorem mapError {x : Traced ε α} {y : Traced ε β} (h : x.Agree R y) (f : ε → δ) :
    (x.mapError f).Agree R (y.mapError f) := by
  obtain ⟨log, outcome⟩ := x
  obtain ⟨log', outcome'⟩ := y
  obtain ⟨rfl, hout⟩ := h
  cases hout with
  | error e => exact ⟨rfl, .error (f e)⟩
  | ok hab => exact ⟨rfl, .ok hab⟩

theorem each {f : α → Traced ε γ} {g : β → Traced ε η}
    (hfg : ∀ a b, R a b → (f a).Agree S (g b)) {as : List α} {bs : List β}
    (h : Forall₂ R as bs) : (Traced.each f as).Agree (Forall₂ S) (Traced.each g bs) := by
  induction h with
  | nil => exact .pure .nil
  | cons hab _ ih =>
    refine .bind (hfg _ _ hab) fun c d hcd => ?_
    exact .bind ih fun cs ds hcds => .pure (.cons hcd hcds)

end Traced.Agree

/-- Procedures that begin with computations that agree do so if what follows these does. -/
theorem Procedure.agree_perform {σ : Type} {x : Traced ε α} {y : Traced ε β} (h : x.Agree R y)
    {f : α → Procedure σ ε γ} {g : β → Procedure σ ε η} {s t : σ}
    (hfg : ∀ a b, R a b → (f a s).1.Agree S (g b t).1) :
    ((perform x >>= f) s).1.Agree S ((perform y >>= g) t).1 := by
  rw [fst_perform_bind, fst_perform_bind]
  exact h.bind hfg

/-! Runs of one procedure from two states, where the second comes from the first by a change. -/

namespace Procedure
variable {σ : Type} {g : σ → σ}

/-- A procedure overlooks a change of the state: it does the same with it as without, and in the end
the change is still there. -/
def Overlooks (g : σ → σ) (p : Procedure σ ε α) : Prop := ∀ s, p (g s) = ((p s).1, g (p s).2)

namespace Overlooks

theorem pure (a : α) : (Pure.pure a : Procedure σ ε α).Overlooks g := fun _ => rfl

theorem perform (x : Traced ε α) : (Procedure.perform x : Procedure σ ε α).Overlooks g :=
  fun _ => rfl

theorem change {f : σ → σ} (hf : ∀ s, f (g s) = g (f s)) :
    (Procedure.change f : Procedure σ ε Unit).Overlooks g :=
  fun s => congrArg (Prod.mk (Traced.pure ())) (hf s)

theorem bind {p : Procedure σ ε α} {f : α → Procedure σ ε β} (hp : p.Overlooks g)
    (hf : ∀ a, (f a).Overlooks g) : (p >>= f).Overlooks g := by
  intro s
  have houtcome : (p (g s)).1.outcome = (p s).1.outcome := by rw [hp s]
  cases h : (p s).1.outcome with
  | error e => rw [bind_of_error h, bind_of_error (houtcome.trans h), hp s]
  | ok a => rw [bind_of_ok h, bind_of_ok (houtcome.trans h), hp s, hf a (p s).2]

end Overlooks
end Procedure

/-- What does not depend on the part that two bare things lack is the same. -/
theorem eq_of_bare_eq {α β : Type} {bare : α → α} {x y : α} (h : bare x = bare y) (f : α → β)
    (hf : ∀ x, f (bare x) = f x) : f x = f y := by
  rw [← hf x, h, hf y]

theorem rel_of_isSome_eq {x : Option α} {y : Option β} (h : x.isSome = y.isSome) :
    Option.Rel (fun _ _ => True) x y := by
  cases x with
  | none =>
    cases y with
    | none => exact .none
    | some b => cases h
  | some a =>
    cases y with
    | none => cases h
    | some b => exact .some trivial

theorem map_eq_of_forall₂ {f : α → γ} {g : β → γ} (hfg : ∀ a b, R a b → f a = g b)
    {as : List α} {bs : List β} (h : Forall₂ R as bs) : as.map f = bs.map g := by
  have heq : Forall₂ Eq (as.map f) (bs.map g) := by
    rw [List.forall₂_map_left_iff, List.forall₂_map_right_iff]
    exact h.imp hfg
  rwa [List.forall₂_eq_eq_eq] at heq

theorem flatMap_eq_of_forall₂ {f : α → List γ} {g : β → List γ}
    (hfg : ∀ a b, R a b → f a = g b) {as : List α} {bs : List β} (h : Forall₂ R as bs) :
    as.flatMap f = bs.flatMap g := by
  rw [List.flatMap_def, List.flatMap_def, map_eq_of_forall₂ hfg h]

end

end ResolverSetup
