import ResolverSetup.Session.Build
/-! What the steps of a build find and leave when all of them succeed. -/
namespace ResolverSetup

namespace Collaborators
open Procedure
variable {ε : Type}

theorem run_ends_iff (c : Collaborators ε) (q after : Request) (s : Session Repository) :
    c.run.Ends q s after ↔
      ∃ agent handlers store d listeners remote plugin entry,
        (c.userAgent q.systemProperties).outcome = .ok agent ∧
        c.handlers.outcome = .ok handlers ∧
        (c.openStore ⟨q.localRepository, ""⟩).outcome = .ok store ∧
        (c.decrypt q.proxies q.servers).outcome = .ok d ∧
        (c.chainListener .standardReporter).outcome = .ok listeners ∧
        ((Builder.bindings q d).apply q.remoteRepositories).outcome = .ok remote ∧
        ((Builder.bindings q d).apply q.pluginRepositories).outcome = .ok plugin ∧
        Builder.createdEntry ⟨q.localRepository, ""⟩ q remote plugin = .ok entry ∧
        s = (c.assemble q agent handlers store d listeners remote plugin).freeze ∧
        after = { q with remoteRepositories := remote, pluginRepositories := plugin } := by
  simp only [run, ends_bind_iff, ends_current_iff, ends_perform_iff, ends_change_iff,
    ends_pure_iff, Traced.mapError_outcome_eq_ok_iff, Traced.ofExcept_outcome, mapError_eq_ok_iff,
    Traced.note_outcome, Traced.notes_outcome, and_assoc, exists_and_left, exists_eq_left,
    exists_const, true_and]

end Collaborators

theorem LocalStore.eq_of_open? {tree : FileTree} {types : List String} {s t : LocalStore}
    (h : (LocalStore.open? tree types s).outcome = .ok t) : t = s := by
  rw [LocalStore.open?] at h
  split at h
  · cases h
  · cases h
  · split at h
    · cases h
      rfl
    · cases h

namespace Builder

theorem createdEntry_ok_iff (store : LocalStore) (q : Request) (remote plugin : List Repository) :
    (∃ entry, createdEntry store q remote plugin = .ok entry) ↔ q.offline.isWritable = true := by
  rw [createdEntry, exists_map_eq_ok_iff, Value.exists_written_iff]

theorem createdEntry_eq_error_iff (store : LocalStore) (q : Request)
    (remote plugin : List Repository) (f : DigitFault) :
    createdEntry store q remote plugin = .error f ↔
      q.offline.isWritable = false ∧ f = .unwritable := by
  rw [createdEntry, map_eq_error_iff, Value.written_eq_error_iff]

theorem run_ends_iff (b : Builder) (q after : Request) (s : Session Repository) :
    b.run.Ends q s after ↔
      ∃ agent store remote plugin entry,
        (UserAgent.line b.host b.product.name b.product.version q.systemProperties).outcome =
          .ok agent ∧
        (LocalStore.open? b.tree b.extraStoreTypes ⟨q.localRepository, ""⟩).outcome = .ok store ∧
        ((bindings q (b.decrypter q.proxies q.servers)).apply q.remoteRepositories).outcome =
          .ok remote ∧
        ((bindings q (b.decrypter q.proxies q.servers)).apply q.pluginRepositories).outcome =
          .ok plugin ∧
        createdEntry store q remote plugin = .ok entry ∧
        s = (b.assemble q agent store (b.decrypter q.proxies q.servers) remote plugin).freeze ∧
        after = { q with remoteRepositories := remote, pluginRepositories := plugin } := by
  simp only [run, Collaborators.run_ends_iff, collaborators, Traced.mapError_outcome_eq_ok_iff,
    Traced.pure_outcome, Except.ok.injEq]
  constructor
  · rintro ⟨agent, _, store, _, _, remote, plugin, entry, ha, rfl, hs, rfl, rfl, hr, hp, he, rfl,
      rfl⟩
    refine ⟨agent, store, remote, plugin, entry, ha, hs, hr, hp, ?_, rfl, rfl⟩
    rwa [LocalStore.eq_of_open? hs]
  · rintro ⟨agent, store, remote, plugin, entry, ha, hs, hr, hp, he, rfl, rfl⟩
    refine ⟨agent, _, store, _, _, remote, plugin, entry, ha, rfl, hs, rfl, rfl, hr, hp, ?_, rfl,
      rfl⟩
    rwa [LocalStore.eq_of_open? hs] at he

theorem ends_of_build (b : Builder) (q : Request) (x : Build) :
    (b.build q).outcome = .ok x ↔ b.run.Ends q x.session x.request := by
  have hbuild : (b.build q).outcome = (b.run q).1.outcome.map fun s => ⟨s, (b.run q).2⟩ := rfl
  rw [hbuild, map_eq_ok_iff]
  constructor
  · rintro ⟨s, hs, rfl⟩
    exact ⟨hs, rfl⟩
  · rintro ⟨hs, hafter⟩
    exact ⟨x.session, hs, by rw [hafter]⟩

end Builder
end ResolverSetup
