import ResolverSetup.Proofs.BuildSteps
import ResolverSetup.Proofs.EffectiveForm
/-! Builds from one request, one after the other. Each starts from the repositories that the one
before has left in the request; all else in the request stays as it was. -/
namespace ResolverSetup

def Request.repositories (q : Request) : ListField → List Repository
  | .remote => q.remoteRepositories
  | .plugin => q.pluginRepositories

def Request.withRepositories (q : Request) (rs : ListField → List Repository) : Request :=
  { q with remoteRepositories := rs .remote, pluginRepositories := rs .plugin }

def Build.repositories (x : Build) (f : ListField) : List Repository :=
  (x.session.repositories f).current

def Builder.selectors (b : Builder) (q : Request) : Bindings :=
  bindings q (b.decrypter q.proxies q.servers)

/-- Successive builds that succeed, the latest builder first, and what the latest has built. -/
inductive Builds (q : Request) : List Builder → Build → Prop
  | first {b : Builder} {x : Build} (hx : (b.build q).outcome = .ok x) : Builds q [b] x
  | next {bs : List Builder} {b : Builder} {x y : Build} (hx : Builds q bs x)
      (hy : (b.build x.request).outcome = .ok y) : Builds q (b :: bs) y

variable {q : Request} {b : Builder} {bs : List Builder} {x : Build}

theorem Request.withRepositories_twice (q : Request) (rs ss : ListField → List Repository) :
    (q.withRepositories rs).withRepositories ss = q.withRepositories ss := rfl

theorem Builder.selectors_withRepositories (b : Builder) (q : Request)
    (rs : ListField → List Repository) : b.selectors (q.withRepositories rs) = b.selectors q := rfl

theorem Request.repositories_withRepositories (q : Request) (rs : ListField → List Repository)
    (f : ListField) : (q.withRepositories rs).repositories f = rs f := by
  cases f <;> rfl

namespace Builder

theorem build_outcome_eq_ok_iff (b : Builder) (q : Request) (x : Build) :
    (b.build q).outcome = .ok x ↔
      ∃ agent store remote plugin entry,
        (UserAgent.line b.host b.product.name b.product.version q.systemProperties).outcome =
          .ok agent ∧
        (LocalStore.open? b.tree b.extraStoreTypes ⟨q.localRepository, ""⟩).outcome = .ok store ∧
        ((b.selectors q).apply q.remoteRepositories).outcome = .ok remote ∧
        ((b.selectors q).apply q.pluginRepositories).outcome = .ok plugin ∧
        createdEntry store q remote plugin = .ok entry ∧
        x = ⟨(b.assemble q agent store (b.decrypter q.proxies q.servers) remote plugin).freeze,
          { q with remoteRepositories := remote, pluginRepositories := plugin }⟩ := by
  rw [ends_of_build, run_ends_iff]
  obtain ⟨s, after⟩ := x
  simp only [Build.mk.injEq]
  exact Iff.rfl

/-- A built session selects with what its builder gave it. -/
theorem bindings_of_build (h : (b.build q).outcome = .ok x) :
    x.session.bindings = b.selectors q := by
  obtain ⟨_, _, _, _, _, _, _, _, _, _, rfl⟩ := (b.build_outcome_eq_ok_iff q x).mp h
  rfl

/-- A build leaves its own repositories in the request, and changes nothing else there. -/
theorem request_of_build (h : (b.build q).outcome = .ok x) :
    x.request = q.withRepositories x.repositories := by
  obtain ⟨_, _, _, _, _, _, _, _, _, _, rfl⟩ := (b.build_outcome_eq_ok_iff q x).mp h
  rfl

theorem effective_of_build (h : (b.build q).outcome = .ok x) (f : ListField) :
    List.Forall₂ (b.selectors q).Effective (q.repositories f) (x.repositories f) := by
  obtain ⟨_, _, remote, plugin, _, _, _, hr, hp, _, rfl⟩ := (b.build_outcome_eq_ok_iff q x).mp h
  cases f with
  | remote => exact (Bindings.apply_outcome_eq_ok_iff _ _ _).mp hr
  | plugin => exact (Bindings.apply_outcome_eq_ok_iff _ _ _).mp hp

theorem effective_of_rebuild (h : (b.build q).outcome = .ok x) {y : Build}
    (hy : (b.build x.request).outcome = .ok y) (f : ListField) :
    List.Forall₂ (b.selectors q).Effective (x.repositories f) (y.repositories f) := by
  have heff := effective_of_build hy f
  rwa [request_of_build h, selectors_withRepositories,
    Request.repositories_withRepositories] at heff

/-- After a build the next one succeeds, too, where each repository has an effective form again. -/
theorem build_next (h : (b.build q).outcome = .ok x) (rs : ListField → List Repository)
    (hrs : ∀ f, List.Forall₂ (b.selectors q).Effective (x.repositories f) (rs f)) :
    ∃ y, (b.build x.request).outcome = .ok y ∧ ∀ f, y.repositories f = rs f := by
  obtain ⟨agent, store, remote, plugin, entry, ha, hs, _, _, he, rfl⟩ :=
    (b.build_outcome_eq_ok_iff q x).mp h
  have hremote := (Bindings.apply_outcome_eq_ok_iff _ _ _).mpr (hrs .remote)
  have hplugin := (Bindings.apply_outcome_eq_ok_iff _ _ _).mpr (hrs .plugin)
  -- the note about the new session tells no more of the lists than their lengths
  have hentry : createdEntry store q (rs .remote) (rs .plugin) = .ok entry := by
    rw [createdEntry, ← (hrs .remote).length_eq, ← (hrs .plugin).length_eq]
    exact he
  refine ⟨_, (b.build_outcome_eq_ok_iff _ _).mpr
    ⟨agent, store, rs .remote, rs .plugin, entry, ha, hs, hremote, hplugin, hentry, rfl⟩, ?_⟩
  intro f
  cases f <;> rfl

end Builder

theorem Builds.request_eq (h : Builds q bs x) :
    x.request = q.withRepositories x.repositories := by
  induction h with
  | first hx => exact Builder.request_of_build hx
  | next hx hy ih => rw [Builder.request_of_build hy, ih, Request.withRepositories_twice]

theorem Builds.ne_nil (h : Builds q bs x) : bs ≠ [] := by
  cases h <;> simp

/-- The latest session selects with what the latest builder gives for the first request. -/
theorem Builds.bindings_eq (h : Builds q bs x) : ∃ b ∈ bs, x.session.bindings = b.selectors q := by
  cases h with
  | first hx => exact ⟨_, by simp, Builder.bindings_of_build hx⟩
  | next hx hy =>
    refine ⟨_, List.mem_cons_self, ?_⟩
    rw [Builder.bindings_of_build hy, hx.request_eq, Builder.selectors_withRepositories]

/-- What holds of each declared repository and is carried through the builds one by one holds in
the end between what was declared and what has come of it. -/
theorem Builds.related {R : Nat → Repository → Repository → Prop} (h : Builds q bs x)
    (start : ∀ f, ∀ r ∈ q.repositories f, R 0 r r)
    (step : ∀ b ∈ bs, ∀ n r s t, R n r s → (b.selectors q).Effective s t → R (n + 1) r t)
    (f : ListField) : List.Forall₂ (R bs.length) (q.repositories f) (x.repositories f) := by
  induction h with
  | first hx =>
    have hstart := List.forall₂_same.mpr (start f)
    exact forall₂_trans hstart (Builder.effective_of_build hx f) (step _ List.mem_cons_self 0)
  | @next bs b y z hx hy ih =>
    have hbefore := ih fun c hc => step c (List.mem_cons_of_mem b hc)
    have hnow := Builder.effective_of_build hy f
    rw [hx.request_eq, Builder.selectors_withRepositories,
      Request.repositories_withRepositories] at hnow
    exact forall₂_trans hbefore hnow (step b List.mem_cons_self bs.length)

def sampleRequest : Request where
  localRepository := .ofText "/var/cache/artifacts"
  remoteRepositories := [Bindings.sampleCentral, Bindings.sampleLocal]
  pluginRepositories := []
  mirrors := Bindings.sampleBindings.mirrors
  proxies := [Bindings.sampleProxy]
  servers := [Bindings.sampleServer]
  systemProperties := []
  userProperties := []
  offline := .bool false
  interactive := .bool true
  checksumPolicy := .null
  noSnapshotUpdates := .bool false
  updateSnapshots := .bool false
  cacheNotFound := .bool true
  cacheTransferError := .bool false
  transferListener := .null
  workspaceReader := .null
  repositoryCache := .null

def sampleBuilder : Builder :=
  .standard ⟨"resolver", some "1.0"⟩ ⟨"3.11.2", "Linux", "6.1.0", .missing, .single "/root"⟩ .empty

theorem build_sampleRequest :
    ∃ x, (sampleBuilder.build sampleRequest).outcome = .ok x ∧
      x.repositories .remote = [Bindings.sampleMirrored, Bindings.sampleLocal] ∧
      x.repositories .plugin = [] := by
  have hremote : (Bindings.sampleBindings.apply sampleRequest.remoteRepositories).outcome =
      .ok [Bindings.sampleMirrored, Bindings.sampleLocal] :=
    (Bindings.apply_outcome_eq_ok_iff _ _ _).mpr
      (.cons (Bindings.effective_of_sampleMirror rfl) (.cons Bindings.effective_sampleLocal .nil))
  exact ⟨_, (Builder.build_outcome_eq_ok_iff _ _ _).mpr
    ⟨_, _, _, _, _, rfl, rfl, hremote, rfl, rfl, rfl⟩, rfl, rfl⟩

theorem rebuild_sampleRequest :
    ∃ x y, (sampleBuilder.build sampleRequest).outcome = .ok x ∧
      x.repositories .remote = [Bindings.sampleMirrored, Bindings.sampleLocal] ∧
      (sampleBuilder.build x.request).outcome = .ok y := by
  obtain ⟨x, hx, hremote, hplugin⟩ := build_sampleRequest
  have hagain : List.Forall₂ Bindings.sampleBindings.Effective
      [Bindings.sampleMirrored, Bindings.sampleLocal] _ :=
    .cons (Bindings.effective_of_sampleMirror rfl) (.cons Bindings.effective_sampleLocal .nil)
  obtain ⟨y, hy, _⟩ := Builder.build_next hx (fun | .remote => _ | .plugin => []) (by
    intro f
    cases f with
    | remote => rw [hremote]; exact hagain
    | plugin => rw [hplugin]; exact .nil)
  exact ⟨x, y, hx, hremote, hy⟩

end ResolverSetup
