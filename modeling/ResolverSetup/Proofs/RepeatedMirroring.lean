import ResolverSetup.Proofs.SuccessiveBuilds
/-! How many mirrors come to stand in front of a repository when its request is built again and
again. The first build binds at most one; a later one binds another where a mirror matches the
mirrored form as well. -/
namespace ResolverSetup

namespace Repository

/-- No mirror stands in front of the repository, or one that replaces no other mirror. -/
def MirroredOnce (r : Repository) : Prop :=
  r.mirroredFrom? = none ∨ ∃ o, r.mirroredFrom? = some o ∧ o.mirroredFrom? = none

theorem mirroredOnce_iff (r : Repository) : r.MirroredOnce ↔ r.origins.length ≤ 1 := by
  obtain ⟨e, origins⟩ := r
  match origins with
  | [] => simp [MirroredOnce, mirroredFrom?]
  | [o] => simp [MirroredOnce, mirroredFrom?]
  | o :: p :: os => simp [MirroredOnce, mirroredFrom?]

structure SamePlace (r s : Repository) : Prop where
  id : s.id = r.id
  url : s.url = r.url
  layout : s.layout = r.layout

theorem SamePlace.refl (r : Repository) : SamePlace r r := ⟨rfl, rfl, rfl⟩

end Repository

namespace Mirror
open Repository

def matching (ms : List Mirror) (r : Repository) : Except UrlFault (Option Mirror) :=
  choose ms r.id r.layout (some r.url)

def Rematches (ms : List Mirror) (r : Repository) : Prop :=
  ∃ m, matching ms r = .ok (some m) ∧ ∃ n, matching ms (m.standIn r) = .ok (some n)

theorem matching_eq {ms : List Mirror} {r s : Repository} (h : SamePlace r s) :
    matching ms s = matching ms r := by
  rw [matching, matching, h.id, h.url, h.layout]

/-- What has become of a repository without origins after some builds: no mirror matched it, or one
that is not matched itself once there was another build, or mirrors of mirrors. -/
inductive Mirrored (ms : List Mirror) (r : Repository) : Nat → Repository → Prop
  | never {n : Nat} {s : Repository} (hs : s.origins = []) (hplace : SamePlace r s)
      (hsettled : n = 0 ∨ matching ms r = .ok none) : Mirrored ms r n s
  | once {n : Nat} {m : Mirror} {s : Repository} (hs : s.origins.length = 1)
      (hm : matching ms r = .ok (some m)) (hplace : SamePlace (m.standIn r) s)
      (hsettled : n = 1 ∨ matching ms (m.standIn r) = .ok none) : Mirrored ms r n s
  | again {n : Nat} {s : Repository} (hs : 2 ≤ s.origins.length) (hn : 2 ≤ n)
      (hagain : Rematches ms r) : Mirrored ms r n s

variable {ms : List Mirror} {r s t : Repository} {n : Nat}

/-- One more build. -/
theorem Mirrored.step {b : Bindings} (h : Mirrored b.mirrors r n s) (hst : b.Effective s t) :
    Mirrored b.mirrors r (n + 1) t := by
  cases h with
  | never hs hplace hsettled =>
    cases hst with
    | @mirrored m p hm hp =>
      have hr : matching b.mirrors r = .ok (some m) := (matching_eq hplace).symm.trans hm
      have hfirst : n = 0 := by
        rcases hsettled with hn | hnone
        · exact hn
        · cases hnone.symm.trans hr
      refine .once (by simp [hs]) hr ⟨rfl, rfl, ?_⟩ (.inl (by omega))
      simp [standIn, Value.orElse, hplace.layout]
    | kept hm hp =>
      have hr : matching b.mirrors r = .ok none := (matching_eq hplace).symm.trans hm
      exact .never hs ⟨hplace.id, hplace.url, hplace.layout⟩ (.inr hr)
  | @once m _ hs hr hplace hsettled =>
    cases hst with
    | @mirrored m' p hm hp =>
      have hmirror : matching b.mirrors (m.standIn r) = .ok (some m') :=
        (matching_eq hplace).symm.trans hm
      have hfirst : n = 1 := by
        rcases hsettled with hn | hnone
        · exact hn
        · cases hnone.symm.trans hmirror
      exact .again (by simp [hs]) (by omega) ⟨m, hr, m', hmirror⟩
    | kept hm hp =>
      have hmirror : matching b.mirrors (m.standIn r) = .ok none :=
        (matching_eq hplace).symm.trans hm
      exact .once hs hr ⟨hplace.id, hplace.url, hplace.layout⟩ (.inr hmirror)
  | again hs hn hagain =>
    cases hst with
    | mirrored hm hp => exact .again (by simp; omega) (by omega) hagain
    | kept hm hp => exact .again hs (by omega) hagain

theorem Mirrored.mirroredOnce_iff (h : Mirrored ms r n s) (hn : 0 < n) :
    s.MirroredOnce ↔ n = 1 ∨ ¬ Rematches ms r := by
  rw [Repository.mirroredOnce_iff]
  cases h with
  | never hs hplace hsettled =>
    have hnone : matching ms r = .ok none := hsettled.resolve_left (by omega)
    have hnever : ¬ Rematches ms r := by
      rintro ⟨m, hm, _⟩
      cases hnone.symm.trans hm
    simp [hs, hnever]
  | @once m _ hs hm hplace hsettled =>
    refine iff_of_true (by omega) (hsettled.imp_right fun hnone => ?_)
    rintro ⟨m', hm', n', hn'⟩
    cases hm.symm.trans hm'
    cases hnone.symm.trans hn'
  | again hs hn hagain =>
    refine iff_of_false (by omega) ?_
    rintro (hone | hnever)
    · omega
    · exact hnever hagain

end Mirror

variable {q : Request} {bs : List Builder} {x : Build}

theorem Builds.mirrored (h : Builds q bs x)
    (hdeclared : ∀ f, ∀ r ∈ q.repositories f, r.mirroredFrom? = none) (f : ListField) :
    List.Forall₂ (fun r s => Mirror.Mirrored q.mirrors r bs.length s) (q.repositories f)
      (x.repositories f) := by
  refine h.related (R := fun n r s => Mirror.Mirrored q.mirrors r n s) ?_ ?_ f
  · intro f r hr
    have horigins := r.mirroredFrom?_eq_none_iff.mp (hdeclared f r hr)
    exact .never horigins (.refl r) (.inl rfl)
  · intro b _ n r s t hrs hst
    exact hrs.step hst

/-- After some builds from a request of unmirrored repositories, each repository is mirrored once at
most if there was one build only, or if no mirror matches the mirrored form of a declared
repository; and in no other case. -/
theorem builds_mirroredOnce_iff (h : Builds q bs x)
    (hdeclared : ∀ f, ∀ r ∈ q.repositories f, r.mirroredFrom? = none) :
    (∀ f, ∀ s ∈ x.repositories f, s.MirroredOnce) ↔
      bs.length = 1 ∨ ∀ f, ∀ r ∈ q.repositories f, ¬ Mirror.Rematches q.mirrors r := by
  have hlength : 0 < bs.length := List.length_pos_of_ne_nil h.ne_nil
  have hlist : ∀ f, (∀ s ∈ x.repositories f, s.MirroredOnce) ↔
      ∀ r ∈ q.repositories f, bs.length = 1 ∨ ¬ Mirror.Rematches q.mirrors r := by
    intro f
    refine (forall_mem_iff_of_forall₂ ((h.mirrored hdeclared f).imp fun r s hrs => ?_)).symm
    exact (hrs.mirroredOnce_iff hlength).symm
  simp only [hlist, forall_or_left]

/-- The sample mirror matches its own id. Its first build is in order, the second is not. -/
theorem builds_sampleRequest_mirroredOnce :
    (∀ f, ∀ r ∈ sampleRequest.repositories f, r.mirroredFrom? = none) ∧
    ∃ x y, Builds sampleRequest [sampleBuilder] x ∧
      (∀ f, ∀ s ∈ x.repositories f, s.MirroredOnce) ∧
      Builds sampleRequest [sampleBuilder, sampleBuilder] y ∧
      ¬ ∀ f, ∀ s ∈ y.repositories f, s.MirroredOnce := by
  obtain ⟨x, y, hx, _, hy⟩ := rebuild_sampleRequest
  have hdeclared : ∀ f, ∀ r ∈ sampleRequest.repositories f, r.mirroredFrom? = none := by
    intro f
    cases f <;> decide
  have hone : Builds sampleRequest [sampleBuilder] x := .first hx
  have htwo : Builds sampleRequest [sampleBuilder, sampleBuilder] y := .next hone hy
  refine ⟨hdeclared, x, y, hone, (builds_mirroredOnce_iff hone hdeclared).mpr (.inl rfl), htwo, ?_⟩
  rw [builds_mirroredOnce_iff htwo hdeclared]
  rintro (hlength | hnever)
  · cases hlength
  · exact hnever .remote Bindings.sampleCentral List.mem_cons_self ⟨_, rfl, _, rfl⟩

/-- A second build puts the sample mirror in front of itself. -/
theorem not_forall_builds_mirroredOnce :
    ¬ ∀ q bs x, Builds q bs x → (∀ f, ∀ r ∈ q.repositories f, r.mirroredFrom? = none) →
      ∀ f, ∀ s ∈ x.repositories f, s.MirroredOnce := by
  intro hall
  obtain ⟨x, y, hx, hremote, hy⟩ := rebuild_sampleRequest
  have hdeclared : ∀ f, ∀ r ∈ sampleRequest.repositories f, r.mirroredFrom? = none := by
    intro f
    cases f <;> decide
  have honce := hall _ _ _ (.next (.first hx) hy) hdeclared .remote
  have heffective := Builder.effective_of_rebuild hx hy .remote
  rw [hremote] at heffective
  obtain ⟨s, _, hs, _, heq⟩ := List.forall₂_cons_left_iff.mp heffective
  have hfrom := hs.mirroredFrom?_eq rfl
  rcases honce s (by rw [heq]; exact List.mem_cons_self) with hnone | ⟨o, ho, hnone⟩
  · cases hnone.symm.trans hfrom
  · cases ho.symm.trans hfrom
    cases hnone

end ResolverSetup
