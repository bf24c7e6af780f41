import ResolverSetup.Proofs.SuccessiveBuilds
/-! What building again from the same request adds to its repositories: nothing where no mirror
matches any more, and otherwise one origin a build for those that a mirror matches. -/
namespace ResolverSetup

namespace Repository

def back? : Nat → Repository → Option Repository
  | 0, r => some r
  | k + 1, r => r.mirroredFrom?.bind (back? k)

/-- The second repository has some origins more than the first, and behind those stands a
repository that agrees with the first in all but its proxy, its credentials and its block. -/
structure Grown (k : Nat) (r s : Repository) : Prop where
  length_eq : s.origins.length = r.origins.length + k
  declared : ∃ t, s.back? k = some t ∧ t.id = r.id ∧ t.url = r.url ∧ t.layout = r.layout ∧
    t.mirroredFrom? = r.mirroredFrom?

theorem Grown.refl (r : Repository) : Grown 0 r r := ⟨rfl, r, rfl, rfl, rfl, rfl, rfl⟩

theorem length_of_mirroredFrom? {r s : Repository} (h : r.mirroredFrom? = some s) :
    r.origins.length = s.origins.length + 1 := by
  obtain ⟨e, origins⟩ := r
  cases origins with
  | nil => cases h
  | cons o os =>
    cases h
    rfl

/-- No repository stands behind itself. -/
theorem mirroredFrom?_ne_self (r : Repository) : r.mirroredFrom? ≠ some r := by
  intro h
  have hlen := length_of_mirroredFrom? h
  omega

end Repository

namespace Bindings.Effective
open Repository
variable {b : Bindings} {r s t : Repository}

theorem choose_eq (h : b.Effective r s) :
    Mirror.choose b.mirrors r.id r.layout (some r.url) = .ok none ∨
      s.mirroredFrom? = some r := by
  cases h with
  | mirrored _ _ => exact .inr rfl
  | kept hm _ => exact .inl hm

/-- What is effective already and not matched again stays as it is. -/
theorem self (h : b.Effective r s)
    (hs : Mirror.choose b.mirrors s.id s.layout (some s.url) = .ok none) : b.Effective s s := by
  cases h with
  | mirrored _ hp => simpa [Option.or_self] using Effective.kept hs hp
  | kept _ hp =>
    have hself := Effective.kept hs hp
    simpa [← Option.or_assoc] using hself

theorem grown (h : b.Effective s t) {k : Nat} (hk : Grown k r s) :
    Grown k r t ∨ Grown (k + 1) r t := by
  obtain ⟨hlen, u, hu, hsame⟩ := hk
  cases h with
  | mirrored _ _ =>
    refine .inr ⟨?_, u, hu, hsame⟩
    simp [hlen, Nat.add_assoc]
  | kept _ _ =>
    refine .inl ⟨hlen, ?_⟩
    cases k with
    | zero =>
      cases hu
      exact ⟨_, rfl, hsame⟩
    | succ k => exact ⟨u, hu, hsame⟩

end Bindings.Effective

/-- A build whose repositories no mirror matches gives them again when it is repeated, and only such
a build does. -/
theorem Builder.rebuild_same_iff {b : Builder} {q : Request} {x : Build}
    (h : (b.build q).outcome = .ok x) :
    (∃ y, (b.build x.request).outcome = .ok y ∧ ∀ f, y.repositories f = x.repositories f) ↔
      ∀ f, ∀ r ∈ x.repositories f,
        Mirror.choose x.session.bindings.mirrors r.id r.layout (some r.url) = .ok none := by
  rw [bindings_of_build h]
  constructor
  · rintro ⟨y, hy, hsame⟩ f r hr
    have hself := effective_of_rebuild h hy f
    rw [hsame f, List.forall₂_same] at hself
    rcases (hself r hr).choose_eq with hnone | hfrom
    · exact hnone
    · exact absurd hfrom r.mirroredFrom?_ne_self
  · intro hnone
    refine build_next h x.repositories fun f => List.forall₂_same.mpr ?_
    intro r hr
    obtain ⟨_, _, hrs⟩ := exists_of_mem_right (effective_of_build h f) hr
    exact hrs.self (hnone f r hr)

/-- A build that leaves the repositories of its request as they are can be repeated for ever. -/
theorem Builder.builds_of_unchanged {b : Builder} {q : Request} {x : Build}
    (h : (b.build q).outcome = .ok x) (hsame : ∀ f, x.repositories f = q.repositories f) (n : Nat)
    (y : Build) : Builds x.request (List.replicate (n + 1) b) y ↔ y = x := by
  have hreq : x.request = q := by
    rw [request_of_build h, funext hsame]
    rfl
  rw [hreq]
  have hone {z : Build} : (b.build q).outcome = .ok z ↔ z = x := by
    rw [h, Except.ok.injEq, eq_comm]
  induction n generalizing y with
  | zero =>
    constructor
    · intro hy
      cases hy with
      | first hy => exact hone.mp hy
      | next hy _ => exact absurd rfl hy.ne_nil
    · rintro rfl
      exact .first h
  | succ n ih =>
    constructor
    · intro hy
      cases hy with
      | next hz hy =>
        rw [(ih _).mp hz, hreq] at hy
        exact hone.mp hy
    · rintro rfl
      refine .next ((ih _).mpr rfl) ?_
      rw [hreq]
      exact h

/-- Each build leaves a repository with the origins that it has or with one more. -/
theorem Builds.grown {q : Request} {bs : List Builder} {x : Build} (h : Builds q bs x)
    (f : ListField) :
    List.Forall₂ (fun r s => ∃ k ≤ bs.length, Repository.Grown k r s)
      (q.repositories f) (x.repositories f) := by
  refine h.related (R := fun n r s => ∃ k ≤ n, Repository.Grown k r s) ?_ ?_ f
  · intro _ r _
    exact ⟨0, Nat.le_refl 0, .refl r⟩
  · rintro _ _ n r s t ⟨k, hk, hrs⟩ hst
    rcases hst.grown hrs with hkept | hmore
    · exact ⟨k, Nat.le_succ_of_le hk, hkept⟩
    · exact ⟨k + 1, Nat.succ_le_succ hk, hmore⟩

/-- Building again changes nothing if and only if no mirror matches what has been built; what a
mirror matches then stands behind its mirrored form, and after any number of builds the declared
repository is found behind each of them. -/
theorem rebuild_fixpoint (b : Builder) (q : Request) :
    (∀ x, (b.build q).outcome = .ok x →
      ((∃ y, (b.build x.request).outcome = .ok y ∧ ∀ f, y.repositories f = x.repositories f) ↔
        ∀ f, ∀ r ∈ x.repositories f,
          Mirror.choose x.session.bindings.mirrors r.id r.layout (some r.url) = .ok none) ∧
      ∀ y, (b.build x.request).outcome = .ok y → ∀ f, List.Forall₂ (fun r s => ∀ m,
        Mirror.choose x.session.bindings.mirrors r.id r.layout (some r.url) = .ok (some m) →
        s.mirroredFrom? = some r) (x.repositories f) (y.repositories f)) ∧
    (∀ x, (b.build q).outcome = .ok x → (∀ f, x.repositories f = q.repositories f) → ∀ n,
      (∃ y, Builds x.request (List.replicate (n + 1) b) y) ∧
      ∀ y, Builds x.request (List.replicate (n + 1) b) y →
        ∀ f, y.repositories f = x.repositories f) ∧
    ∀ n x, Builds q (List.replicate n b) x → ∀ f,
      List.Forall₂ (fun r s => ∃ k ≤ n, Repository.Grown k r s)
        (q.repositories f) (x.repositories f) := by
  refine ⟨?_, ?_, ?_⟩
  · intro x hx
    refine ⟨Builder.rebuild_same_iff hx, ?_⟩
    intro y hy f
    rw [Builder.bindings_of_build hx]
    exact (Builder.effective_of_rebuild hx hy f).imp fun r s hrs m hm => hrs.mirroredFrom?_eq hm
  · intro x hx hsame n
    refine ⟨⟨x, (Builder.builds_of_unchanged hx hsame n x).mpr rfl⟩, ?_⟩
    intro y hy f
    rw [(Builder.builds_of_unchanged hx hsame n y).mp hy]
  · intro n x hx f
    have hgrown := hx.grown f
    rwa [List.length_replicate] at hgrown

def settledRequest : Request :=
  { sampleRequest with remoteRepositories := [Bindings.sampleLocal] }

theorem build_settledRequest :
    ∃ x, (sampleBuilder.build settledRequest).outcome = .ok x ∧
      ∀ f, x.repositories f = settledRequest.repositories f := by
  have hremote : (Bindings.sampleBindings.apply settledRequest.remoteRepositories).outcome =
      .ok [Bindings.sampleLocal] :=
    (Bindings.apply_outcome_eq_ok_iff _ _ _).mpr (.cons Bindings.effective_sampleLocal .nil)
  refine ⟨_, (Builder.build_outcome_eq_ok_iff _ _ _).mpr
    ⟨_, _, _, _, _, rfl, rfl, hremote, rfl, rfl, rfl⟩, ?_⟩
  intro f
  cases f <;> rfl

/-- The sample mirror, which matches its own id, keeps the one request from settling; the other one
is settled at once. -/
theorem rebuild_samples :
    (∃ x y, (sampleBuilder.build sampleRequest).outcome = .ok x ∧
      (sampleBuilder.build x.request).outcome = .ok y ∧
      (¬ ∀ f, y.repositories f = x.repositories f) ∧
      List.Forall₂ (fun r s => ∃ k ≤ 2, Repository.Grown k r s)
        (sampleRequest.repositories .remote) (y.repositories .remote)) ∧
    ∃ x, (sampleBuilder.build settledRequest).outcome = .ok x ∧
      (∀ f, x.repositories f = settledRequest.repositories f) ∧
      ∃ y, Builds x.request [sampleBuilder, sampleBuilder] y ∧
        ∀ f, y.repositories f = x.repositories f := by
  constructor
  · obtain ⟨x, y, hx, hremote, hy⟩ := rebuild_sampleRequest
    obtain ⟨hfirst, _, hgrown⟩ := rebuild_fixpoint sampleBuilder sampleRequest
    refine ⟨x, y, hx, hy, ?_, hgrown 2 y (.next (.first hx) hy) .remote⟩
    intro hsame
    have hnone := (hfirst x hx).1.mp ⟨y, hy, hsame⟩ .remote Bindings.sampleMirrored
      (by rw [hremote]; exact List.mem_cons_self)
    rw [Builder.bindings_of_build hx] at hnone
    cases hnone
  · obtain ⟨x, hx, hsame⟩ := build_settledRequest
    obtain ⟨⟨y, hy⟩, hall⟩ := (rebuild_fixpoint sampleBuilder settledRequest).2.1 x hx hsame 1
    exact ⟨x, hx, hsame, y, hy, hall y hy⟩

end ResolverSetup
