import Mathlib.Data.List.Forall2
import ResolverSetup.Log
/-! Lists gone through element by element: when this succeeds, and with what. -/
namespace ResolverSetup

section
variable {α β γ : Type*} {R : α → β → Prop} {S : β → γ → Prop}

/-- Two passes over a list, element by element, are one. -/
theorem forall₂_comp_iff (as : List α) (cs : List γ) :
    (∃ bs, List.Forall₂ R as bs ∧ List.Forall₂ S bs cs) ↔
      List.Forall₂ (fun a c => ∃ b, R a b ∧ S b c) as cs := by
  constructor
  · rintro ⟨bs, hab, hbc⟩
    induction hab generalizing cs with
    | nil =>
      cases hbc
      exact .nil
    | cons h _ ih =>
      cases hbc with
      | cons g hbc => exact .cons ⟨_, h, g⟩ (ih _ hbc)
  · intro h
    induction h with
    | nil => exact ⟨[], .nil, .nil⟩
    | cons h _ ih =>
      obtain ⟨b, hab, hbc⟩ := h
      obtain ⟨bs, hs, gs⟩ := ih
      exact ⟨b :: bs, .cons hab hs, .cons hbc gs⟩

theorem forall₂_trans {T : α → γ → Prop} {as : List α} {bs : List β} {cs : List γ}
    (hR : List.Forall₂ R as bs) (hS : List.Forall₂ S bs cs)
    (hT : ∀ a b c, R a b → S b c → T a c) : List.Forall₂ T as cs := by
  have hboth := (forall₂_comp_iff as cs).mp ⟨bs, hR, hS⟩
  refine hboth.imp fun a c hac => ?_
  obtain ⟨b, hab, hbc⟩ := hac
  exact hT a b c hab hbc

theorem exists_forall₂_iff (as : List α) :
    (∃ bs, List.Forall₂ R as bs) ↔ ∀ a ∈ as, ∃ b, R a b := by
  induction as with
  | nil => exact ⟨by simp, fun _ => ⟨[], .nil⟩⟩
  | cons a as ih =>
    constructor
    · rintro ⟨bs, h⟩
      cases h with
      | cons h hs =>
        intro c hc
        rcases List.mem_cons.mp hc with rfl | hc
        · exact ⟨_, h⟩
        · exact ih.mp ⟨_, hs⟩ c hc
    · intro h
      obtain ⟨b, hb⟩ := h a (by simp)
      obtain ⟨bs, hbs⟩ := ih.mpr fun c hc => h c (by simp [hc])
      exact ⟨b :: bs, .cons hb hbs⟩

theorem exists_of_mem_right {as : List α} {bs : List β} (h : List.Forall₂ R as bs) {b : β}
    (hb : b ∈ bs) : ∃ a ∈ as, R a b := by
  induction h with
  | nil => cases hb
  | cons hr _ ih =>
    rcases List.mem_cons.mp hb with rfl | hb
    · exact ⟨_, List.mem_cons_self, hr⟩
    · obtain ⟨a, ha, hab⟩ := ih hb
      exact ⟨a, List.mem_cons_of_mem _ ha, hab⟩

/-- What holds of both or of neither, element by element, holds of all of both or not. -/
theorem forall_mem_iff_of_forall₂ {P : α → Prop} {Q : β → Prop} {as : List α} {bs : List β}
    (h : List.Forall₂ (fun a b => P a ↔ Q b) as bs) : (∀ a ∈ as, P a) ↔ ∀ b ∈ bs, Q b := by
  induction h with
  | nil => simp
  | cons hab _ ih => simp [hab, ih]

theorem forall₂_append_iff (as bs : List α) (cs : List β) :
    List.Forall₂ R (as ++ bs) cs ↔
      ∃ xs ys, List.Forall₂ R as xs ∧ List.Forall₂ R bs ys ∧ cs = xs ++ ys := by
  constructor
  · intro h
    have hx := List.forall₂_take as.length h
    have hy := List.forall₂_drop as.length h
    rw [List.take_left] at hx
    rw [List.drop_left] at hy
    exact ⟨_, _, hx, hy, (List.take_append_drop as.length cs).symm⟩
  · rintro ⟨xs, ys, hx, hy, rfl⟩
    exact List.rel_append hx hy

end

/-- Going through a list succeeds with what the elements give on their own. -/
theorem Traced.each_outcome_eq_ok_iff {f : α → Traced ε β} {R : α → β → Prop}
    (hf : ∀ a b, (f a).outcome = .ok b ↔ R a b) (as : List α) (bs : List β) :
    (each f as).outcome = .ok bs ↔ List.Forall₂ R as bs := by
  induction as generalizing bs with
  | nil => simp [each, eq_comm]
  | cons a as ih =>
    have heach : (each f (a :: as)).outcome = .ok bs ↔
        ∃ b, (f a).outcome = .ok b ∧ ∃ cs, (each f as).outcome = .ok cs ∧ b :: cs = bs := by
      rw [each]
      refine (bind_outcome_eq_ok_iff _ _ _).trans (exists_congr fun b => and_congr_right fun _ => ?_)
      refine (bind_outcome_eq_ok_iff _ _ _).trans (exists_congr fun cs => and_congr_right fun _ => ?_)
      rw [pure_outcome, Except.ok.injEq]
    rw [heach]
    constructor
    · rintro ⟨b, hb, cs, hcs, rfl⟩
      exact .cons ((hf a b).mp hb) ((ih cs).mp hcs)
    · intro h
      cases h with
      | cons hb hcs => exact ⟨_, (hf a _).mpr hb, _, (ih _).mpr hcs, rfl⟩

end ResolverSetup
