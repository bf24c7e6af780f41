import ResolverSetup.Proofs.BuildSteps
import ResolverSetup.Proofs.EffectiveForm
/-! When a build succeeds, and when it is the local store that stands in its way. -/
namespace ResolverSetup

namespace UserAgent

def hostKeys : List String := ["java.version", "os.name", "os.version"]

def HostWritable (properties : Table) : Prop :=
  ∀ key ∈ hostKeys, (properties.field key).isTrue = true → (properties.field key).isWritable = true

theorem propertyOr_ok_iff (properties : Table) (key word fallback : String) :
    (∃ s, propertyOr properties key word fallback = .ok s) ↔
      ((properties.field key).isTrue = true → (properties.field key).isWritable = true) := by
  rw [propertyOr]
  cases (properties.field key).isTrue with
  | false => simp
  | true => simp [mapError_eq_ok_iff, exists_map_eq_ok_iff, Value.exists_written_iff]

theorem line_ok_iff {host : Host} {version : Option String}
    (hversion : ∃ v, (productVersion host version).outcome = .ok v) (product : String)
    (properties : Table) :
    (∃ s, (line host product version properties).outcome = .ok s) ↔ HostWritable properties := by
  obtain ⟨v, hv⟩ := hversion
  have hkeys : HostWritable properties ↔
      (∃ s, propertyOr properties "java.version" "Java " ("Python " ++ host.runtime) = .ok s) ∧
      (∃ s, propertyOr properties "os.name" "" host.system = .ok s) ∧
      ∃ s, propertyOr properties "os.version" "" host.release = .ok s := by
    simp [HostWritable, hostKeys, propertyOr_ok_iff]
  rw [hkeys]
  simp only [line, Traced.bind_outcome_eq_ok_iff, Traced.mapError_outcome_eq_ok_iff,
    Traced.ofExcept_outcome, Traced.return_outcome, hv]
  constructor
  · rintro ⟨_, _, _, _, hruntime, _, hsystem, _, hrelease, _⟩
    exact ⟨⟨_, hruntime⟩, ⟨_, hsystem⟩, _, hrelease⟩
  · rintro ⟨⟨_, hruntime⟩, ⟨_, hsystem⟩, _, hrelease⟩
    exact ⟨_, _, rfl, _, hruntime, _, hsystem, _, hrelease, rfl⟩

end UserAgent

/-! The store of a build has the standard type, so only its directory counts. -/

theorem LocalStore.open?_of_blocked {tree : FileTree} {dir : Path} {f : FileTree.Fault}
    (h : tree.look dir.text = .error f) (types : List String) :
    (LocalStore.open? tree types ⟨dir, ""⟩).outcome = .error ⟨⟨dir, ""⟩, .blocked f⟩ := by
  simp only [LocalStore.open?, h]
  rfl

theorem LocalStore.open?_of_file {tree : FileTree} {dir : Path} {c : Content}
    (h : tree.look dir.text = .ok (some (.file c))) (types : List String) :
    (LocalStore.open? tree types ⟨dir, ""⟩).outcome = .error ⟨⟨dir, ""⟩, .notADirectory⟩ := by
  simp only [LocalStore.open?, h]
  rfl

theorem LocalStore.open?_of_free {tree : FileTree} {dir : Path}
    (h : tree.look dir.text = .ok none ∨ tree.look dir.text = .ok (some .directory))
    (types : List String) :
    (LocalStore.open? tree types ⟨dir, ""⟩).outcome = .ok ⟨dir, ""⟩ := by
  rcases h with h | h <;> simp only [LocalStore.open?, h] <;> rfl

namespace Builder

/-- The build fails on its store where it comes as far. What follows has faults of its own. -/
theorem run_store_iff (b : Builder) (q : Request) (f : StoreFault) :
    (b.run q).1.outcome = .error (.store f) ↔
      (∃ agent, (UserAgent.line b.host b.product.name b.product.version q.systemProperties).outcome =
        .ok agent) ∧
      (LocalStore.open? b.tree b.extraStoreTypes ⟨q.localRepository, ""⟩).outcome = .error f := by
  simp only [run, Collaborators.run, collaborators, Procedure.current_bind,
    Procedure.fst_perform_bind, Procedure.change_bind, Procedure.pure_apply,
    Traced.bind_outcome_eq_error_iff, Traced.mapError_outcome_eq_error_iff,
    Traced.mapError_outcome_eq_ok_iff, mapError_eq_error_iff, Traced.ofExcept_outcome,
    Traced.pure_outcome, Traced.note_outcome, Traced.notes_outcome, id_eq, reduceCtorEq, and_false,
    exists_false, or_false, false_or, BuildFault.store.injEq, Except.ok.injEq, exists_eq_right,
    exists_and_right, exists_eq', true_and]

theorem run_ok_iff (b : Builder) (q : Request) :
    (∃ s, (b.run q).1.outcome = .ok s) ↔
      (∃ agent, (UserAgent.line b.host b.product.name b.product.version q.systemProperties).outcome =
        .ok agent) ∧
      (∃ store, (LocalStore.open? b.tree b.extraStoreTypes ⟨q.localRepository, ""⟩).outcome =
        .ok store) ∧
      (∀ r ∈ q.remoteRepositories ++ q.pluginRepositories,
        ∃ e, (bindings q (b.decrypter q.proxies q.servers)).Effective r e) ∧
      q.offline.isWritable = true := by
  have hends : (∃ s, (b.run q).1.outcome = .ok s) ↔ ∃ s after, b.run.Ends q s after :=
    ⟨fun ⟨s, hs⟩ => ⟨s, _, hs, rfl⟩, fun ⟨s, _, hs⟩ => ⟨s, hs.1⟩⟩
  simp only [hends, run_ends_iff, List.forall_mem_append, ← Bindings.apply_succeeds_iff]
  constructor
  · rintro ⟨_, _, agent, store, remote, plugin, entry, ha, hs, hr, hp, he, _, _⟩
    exact ⟨⟨agent, ha⟩, ⟨store, hs⟩, ⟨⟨remote, hr⟩, plugin, hp⟩,
      (createdEntry_ok_iff _ _ _ _).mp ⟨entry, he⟩⟩
  · rintro ⟨⟨agent, ha⟩, ⟨store, hs⟩, ⟨⟨remote, hr⟩, plugin, hp⟩, hoffline⟩
    obtain ⟨entry, he⟩ := (createdEntry_ok_iff store q remote plugin).mpr hoffline
    exact ⟨_, _, agent, store, remote, plugin, entry, ha, hs, hr, hp, he, rfl, rfl⟩

end Builder
end ResolverSetup
