import ResolverSetup.Proofs.SuccessiveBuilds
/-! A build that fails leaves its request alone, unless it is the closing note that fails. One that
succeeds puts its repositories into the request, and changes nothing else. -/
namespace ResolverSetup

namespace Collaborators
open Procedure
variable {ε : Type}

/-- What a request looks like after the closing note has failed: it has the lists that were bound,
but there is no session for them. -/
def FailsLate (c : Collaborators ε) (q : Request) (f : ε) (after : Request) : Prop :=
  q.offline.isWritable = false ∧ f = c.fault (.digits .unwritable) ∧
    ∃ d remote plugin, (c.decrypt q.proxies q.servers).outcome = .ok d ∧
      ((Builder.bindings q d).apply q.remoteRepositories).outcome = .ok remote ∧
      ((Builder.bindings q d).apply q.pluginRepositories).outcome = .ok plugin ∧
      after = { q with remoteRepositories := remote, pluginRepositories := plugin }

/-- Whatever else fails does so before the request is written to. -/
theorem run_unharmed (c : Collaborators ε) (q : Request) : c.run.Unharmed q (c.FailsLate q) := by
  refine Unharmed.current ?_
  refine .perform fun agent _ => ?_
  refine .perform fun handlers _ => ?_
  refine .perform fun store _ => ?_
  refine .perform fun d hd => ?_
  refine .perform fun _ _ => ?_
  refine .perform fun listeners _ => ?_
  refine .perform fun remote hremote => ?_
  refine .perform fun plugin hplugin => ?_
  rw [Traced.mapError_outcome_eq_ok_iff] at hremote hplugin
  -- the lists are replaced here; all that is left is the note
  intro f hf
  right
  obtain ⟨houtcome, hafter⟩ := perform_note
    ((Builder.createdEntry ⟨q.localRepository, ""⟩ q remote plugin).mapError fun f =>
      c.fault (.digits f))
    (c.assemble q agent handlers store d listeners remote plugin).freeze
    { q with remoteRepositories := remote, pluginRepositories := plugin }
  rw [change_bind, change_bind] at hf ⊢
  rw [houtcome, map_eq_error_iff, mapError_eq_error_iff] at hf
  obtain ⟨g, hnote, rfl⟩ := hf
  rw [Builder.createdEntry_eq_error_iff] at hnote
  obtain ⟨hoffline, rfl⟩ := hnote
  exact ⟨hoffline, rfl, d, remote, plugin, hd, hremote, hplugin, hafter⟩

/-- What has been built was bound with the session's own selectors, and stands in the request. -/
theorem repositories_of_run {c : Collaborators ε} {q : Request} {s : Session Repository}
    (h : (c.run q).1.outcome = .ok s) :
    (c.run q).2 = q.withRepositories (fun f => (s.repositories f).current) ∧
      ∀ f, (s.bindings.apply (q.repositories f)).outcome = .ok (s.repositories f).current := by
  obtain ⟨agent, handlers, store, d, listeners, remote, plugin, _, _, _, _, _, _, hremote, hplugin,
    _, rfl, hafter⟩ := (c.run_ends_iff q (c.run q).2 s).mp ⟨h, rfl⟩
  refine ⟨hafter, ?_⟩
  intro f
  cases f with
  | remote => exact hremote
  | plugin => exact hplugin

theorem isWritable_of_run {c : Collaborators ε} {q : Request} {s : Session Repository}
    (h : (c.run q).1.outcome = .ok s) : q.offline.isWritable = true := by
  obtain ⟨_, _, _, _, _, _, _, entry, _, _, _, _, _, _, _, hentry, _⟩ :=
    (c.run_ends_iff q (c.run q).2 s).mp ⟨h, rfl⟩
  exact (Builder.createdEntry_ok_iff _ _ _ _).mp ⟨entry, hentry⟩

/-- A build that fails leaves the request as it was, but for one late failure: the closing note
cannot be made where the offline flag is a number too long to be written. No build with such a flag
succeeds. One that succeeds changes nothing in the request but the two lists, and binds them with
the session's own selectors. -/
theorem run_allOrNothing (c : Collaborators ε) (q : Request) :
    (∀ f, (c.run q).1.outcome = .error f → (c.run q).2 = q ∨ c.FailsLate q f (c.run q).2) ∧
    ∀ s, (c.run q).1.outcome = .ok s → q.offline.isWritable = true ∧
      (c.run q).2 = q.withRepositories (fun f => (s.repositories f).current) ∧
      ∀ f, (s.bindings.apply (q.repositories f)).outcome = .ok (s.repositories f).current :=
  ⟨c.run_unharmed q, fun _ h => ⟨isWritable_of_run h, repositories_of_run h⟩⟩

def spoiledRequest : Request :=
  { sampleRequest with pluginRepositories := [.declared "odd" "http://[odd" defaultLayout] }

theorem run_spoiledRequest_ne_ok (s : Session Repository) :
    (sampleBuilder.collaborators.run spoiledRequest).1.outcome ≠ .ok s := by
  intro h
  have hplugin := (repositories_of_run h).2 .plugin
  rw [Bindings.apply_outcome_eq_ok_iff] at hplugin
  obtain ⟨_, _, heffective, _⟩ := List.forall₂_cons_left_iff.mp hplugin
  cases heffective with
  | mirrored hm _ => cases hm
  | kept hm _ => cases hm

/-- The plugin repository spoils the build after the other list has been bound. -/
theorem run_samples_allOrNothing :
    (∃ f, (sampleBuilder.collaborators.run spoiledRequest).1.outcome = .error f) ∧
    (sampleBuilder.collaborators.run spoiledRequest).2 = spoiledRequest ∧
    ∃ s, (sampleBuilder.collaborators.run sampleRequest).1.outcome = .ok s ∧
      (sampleBuilder.collaborators.run sampleRequest).2 =
        sampleRequest.withRepositories (fun f => (s.repositories f).current) := by
  obtain ⟨hspoiled, _⟩ := run_allOrNothing sampleBuilder.collaborators spoiledRequest
  obtain ⟨_, hbuilt⟩ := run_allOrNothing sampleBuilder.collaborators sampleRequest
  obtain ⟨x, hx, _⟩ := build_sampleRequest
  obtain ⟨hs, _⟩ := (sampleBuilder.ends_of_build sampleRequest x).mp hx
  rw [Builder.run] at hs
  have hfails : ∃ f, (sampleBuilder.collaborators.run spoiledRequest).1.outcome = .error f := by
    cases h : (sampleBuilder.collaborators.run spoiledRequest).1.outcome with
    | error f => exact ⟨f, rfl⟩
    | ok s => exact absurd h (run_spoiledRequest_ne_ok s)
  obtain ⟨f, hf⟩ := hfails
  have hkept : (sampleBuilder.collaborators.run spoiledRequest).2 = spoiledRequest :=
    (hspoiled f hf).resolve_right fun hlate => absurd hlate.1 (by decide)
  exact ⟨⟨f, hf⟩, hkept, x.session, hs, (hbuilt x.session hs).2.1⟩

def endlessRequest : Request := { sampleRequest with offline := .int (Nat.pow 10 maxDigits) }

/-- The build has replaced the lists of this request when its closing note fails. -/
theorem not_forall_run_allOrNothing :
    ¬ ∀ (c : Collaborators BuildFault) (q : Request) f, (c.run q).1.outcome = .error f →
      (c.run q).2 = q := by
  intro hall
  cases h : (sampleBuilder.collaborators.run endlessRequest).1.outcome with
  | error f => exact absurd (hall _ _ f h) (by decide +kernel)
  | ok s => exact absurd (isWritable_of_run h) (by decide +kernel)

end Collaborators
end ResolverSetup
