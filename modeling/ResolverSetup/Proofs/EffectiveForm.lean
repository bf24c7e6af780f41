import ResolverSetup.Bindings
import ResolverSetup.Proofs.Pointwise
/-! Binding a list of repositories rewrites each of them on its own: the three passes together are
`Effective`, element by element. -/
namespace ResolverSetup.Bindings

def Routes (b : Bindings) (url : String) (p : Option Proxy) : Prop :=
  ∃ u, Url.ofText url = .ok u ∧ p = b.proxies.select (some u.scheme) (some u.host) ∧
    ∀ q, p = some q → isWritable q.port = true

/-- What becomes of one repository. In its mirrored form nothing is left of its proxy and its
credentials; without a mirror it keeps those for which there is no replacement. -/
inductive Effective (b : Bindings) (r : Repository) : Repository → Prop
  | mirrored {m : Mirror} {p : Option Proxy}
      (hm : Mirror.choose b.mirrors r.id r.layout (some r.url) = .ok (some m))
      (hp : b.Routes m.url p) :
      Effective b r
        { id := m.id, url := m.url, layout := if m.layout.isTrue then m.layout else r.layout,
          proxy := p, credentials := b.keyring.select m.id, blocked := m.blocked,
          origins := r.toEndpoint :: r.origins }
  | kept {p : Option Proxy}
      (hm : Mirror.choose b.mirrors r.id r.layout (some r.url) = .ok none)
      (hp : b.Routes r.url p) :
      Effective b r
        { id := r.id, url := r.url, layout := r.layout, proxy := p.or r.proxy,
          credentials := (b.keyring.select r.id).or r.credentials, blocked := r.blocked,
          origins := r.origins }

variable {b : Bindings} {r s t : Repository}

theorem Routes.unique {url : String} {p q : Option Proxy} (hp : b.Routes url p)
    (hq : b.Routes url q) : p = q := by
  obtain ⟨u, hu, hp, _⟩ := hp
  obtain ⟨v, hv, hq, _⟩ := hq
  have huv : u = v := Except.ok.inj (hu.symm.trans hv)
  rw [hp, hq, huv]

theorem Effective.unique (hs : b.Effective r s) (ht : b.Effective r t) : s = t := by
  cases hs with
  | mirrored hm hp =>
    cases ht with
    | mirrored hn hq =>
      cases hm.symm.trans hn
      rw [hp.unique hq]
    | kept hn _ => cases hm.symm.trans hn
  | kept hm hp =>
    cases ht with
    | mirrored hn _ => cases hm.symm.trans hn
    | kept _ hq => rw [hp.unique hq]

/-- Behind a mirrored repository stands the one that the mirror replaces, as it was. -/
theorem Effective.mirroredFrom?_eq (h : b.Effective r s) {m : Mirror}
    (hm : Mirror.choose b.mirrors r.id r.layout (some r.url) = .ok (some m)) :
    s.mirroredFrom? = some r := by
  cases h with
  | mirrored _ _ => rfl
  | kept hn _ => cases hm.symm.trans hn

/-- A repository whose URL cannot be read has no effective form, not even a mirrored one. -/
theorem Effective.readable (h : b.Effective r s) : ∃ u, Url.ofText r.url = .ok u := by
  cases h with
  | mirrored hm _ =>
    rw [Mirror.choose] at hm
    split at hm
    · cases hm
    · obtain ⟨_, hexternal, _⟩ := (map_eq_ok_iff _ _ _).mp hm
      obtain ⟨u, hu, _⟩ := (map_eq_ok_iff _ _ _).mp hexternal
      exact ⟨u, hu⟩
  | kept _ hp =>
    obtain ⟨u, hu, _⟩ := hp
    exact ⟨u, hu⟩

theorem mirrored?_outcome_eq_ok_iff (ms : List Mirror) (r : Repository) (o : Option Repository) :
    (Mirror.mirrored? ms r).outcome = .ok o ↔
      ∃ a, Mirror.choose ms r.id r.layout (some r.url) = .ok a ∧ a.map (·.standIn r) = o := by
  rw [Mirror.mirrored?, Traced.bind_outcome_eq_ok_iff]
  refine exists_congr fun a => and_congr_right fun _ => ?_
  cases a <;> simp

theorem usedEntry_eq_ok_iff (r : Repository) (p : Proxy) :
    (∃ e, ProxyRules.usedEntry r p = .ok e) ↔ isWritable p.port = true := by
  rw [ProxyRules.usedEntry]
  split <;> simp [*]

theorem proxyFor_outcome_eq_ok_iff (b : Bindings) (r : Repository) (o : Option Proxy) :
    (b.proxies.proxyFor r).outcome = .ok o ↔ b.Routes r.url o := by
  rw [ProxyRules.proxyFor, Traced.bind_outcome_eq_ok_iff]
  refine exists_congr fun u => ?_
  rw [Traced.ofExcept_outcome, mapError_eq_ok_iff]
  refine and_congr_right fun _ => ?_
  cases ProxyRules.select b.proxies (some u.scheme) (some u.host) with
  | none =>
    constructor
    · intro h
      cases h
      exact ⟨rfl, by simp⟩
    · rintro ⟨rfl, _⟩
      rfl
  | some p =>
    simp only [Traced.bind_outcome_eq_ok_iff, Traced.ofExcept_outcome, Traced.note_bind_outcome,
      Traced.return_outcome, Except.ok.injEq, exists_and_right, usedEntry_eq_ok_iff]
    constructor
    · rintro ⟨hw, rfl⟩
      exact ⟨rfl, fun q hq => Option.some.inj hq ▸ hw⟩
    · rintro ⟨rfl, hw⟩
      exact ⟨hw p rfl, rfl⟩

theorem credentialsFor_outcome {ε : Type} (k : Keyring) (r : Repository) :
    (k.credentialsFor r : Traced ε (Option Credentials)).outcome = .ok (k.select r.id) := by
  rw [Keyring.credentialsFor]
  cases k.select r.id <;> rfl

/-! The three passes, element by element. -/

theorem mirrorAll_outcome_eq_ok_iff (b : Bindings) (rs xs : List Repository) :
    (b.mirrorAll rs).outcome = .ok xs ↔
      List.Forall₂ (fun r x => ∃ a, Mirror.choose b.mirrors r.id r.layout (some r.url) = .ok a ∧
        x = (a.map (·.standIn r)).getD r) rs xs := by
  refine Traced.each_outcome_eq_ok_iff (fun r x => ?_) rs xs
  rw [Traced.bind_outcome_eq_ok_iff]
  constructor
  · rintro ⟨o, ho, hx⟩
    rw [Traced.mapError_outcome_eq_ok_iff, mirrored?_outcome_eq_ok_iff] at ho
    obtain ⟨a, ha, rfl⟩ := ho
    exact ⟨a, ha, (Except.ok.inj hx).symm⟩
  · rintro ⟨a, ha, rfl⟩
    refine ⟨a.map (·.standIn r), ?_, rfl⟩
    rw [Traced.mapError_outcome_eq_ok_iff, mirrored?_outcome_eq_ok_iff]
    exact ⟨a, ha, rfl⟩

theorem proxyAll_outcome_eq_ok_iff (b : Bindings) (rs xs : List Repository) :
    (b.proxyAll rs).outcome = .ok xs ↔
      List.Forall₂ (fun r x => ∃ p, b.Routes r.url p ∧ x = r.withProxy (p.or r.proxy)) rs xs := by
  refine Traced.each_outcome_eq_ok_iff (fun r x => ?_) rs xs
  rw [Traced.bind_outcome_eq_ok_iff]
  refine exists_congr fun p => ?_
  rw [proxyFor_outcome_eq_ok_iff]
  refine and_congr_right fun _ => ?_
  cases p with
  | none => exact Except.ok.injEq r x ▸ eq_comm
  | some p => exact Except.ok.injEq _ x ▸ eq_comm

theorem unlockAll_outcome_eq_ok_iff (b : Bindings) (rs xs : List Repository) :
    (b.unlockAll rs).outcome = .ok xs ↔
      List.Forall₂ (fun r x =>
        x = r.withCredentials ((b.keyring.select r.id).or r.credentials)) rs xs := by
  refine Traced.each_outcome_eq_ok_iff (fun r x => ?_) rs xs
  simp only [Traced.bind_outcome_eq_ok_iff, credentialsFor_outcome, Except.ok.injEq,
    exists_eq_left']
  cases b.keyring.select r.id with
  | none => exact Except.ok.injEq r x ▸ eq_comm
  | some c => exact Except.ok.injEq _ x ▸ eq_comm

/-- One repository through the three passes. -/
theorem effective_iff (b : Bindings) (r s : Repository) :
    b.Effective r s ↔
      ∃ x, (∃ a, Mirror.choose b.mirrors r.id r.layout (some r.url) = .ok a ∧
        x = (a.map (·.standIn r)).getD r) ∧
      ∃ y, (∃ p, b.Routes x.url p ∧ y = x.withProxy (p.or x.proxy)) ∧
        s = y.withCredentials ((b.keyring.select y.id).or y.credentials) := by
  constructor
  · intro h
    cases h with
    | mirrored hm hp =>
      refine ⟨_, ⟨_, hm, rfl⟩, _, ⟨_, hp, rfl⟩, ?_⟩
      simp [Mirror.standIn, Repository.withProxy, Repository.withCredentials, Value.orElse,
        Repository.chain]
    | kept hm hp => exact ⟨_, ⟨_, hm, rfl⟩, _, ⟨_, hp, rfl⟩, rfl⟩
  · rintro ⟨x, ⟨a, ha, rfl⟩, y, ⟨p, hp, rfl⟩, rfl⟩
    cases a with
    | none => exact .kept ha hp
    | some m =>
      have h := Effective.mirrored ha hp
      simpa [Mirror.standIn, Repository.withProxy, Repository.withCredentials, Value.orElse,
        Repository.chain] using h

theorem apply_outcome_eq_ok_iff (b : Bindings) (rs out : List Repository) :
    (b.apply rs).outcome = .ok out ↔ List.Forall₂ b.Effective rs out := by
  have hpass : (b.apply rs).outcome = .ok out ↔
      ∃ xs, (b.mirrorAll rs).outcome = .ok xs ∧
      ∃ ys, (b.proxyAll xs).outcome = .ok ys ∧ (b.unlockAll ys).outcome = .ok out := by
    simp only [apply, Traced.bind_outcome_eq_ok_iff, Traced.note_bind_outcome,
      Traced.return_outcome, Except.ok.injEq, exists_eq_right]
  rw [hpass]
  simp only [mirrorAll_outcome_eq_ok_iff, proxyAll_outcome_eq_ok_iff, unlockAll_outcome_eq_ok_iff,
    forall₂_comp_iff, ← effective_iff]

theorem apply_succeeds_iff (b : Bindings) (rs : List Repository) :
    (∃ out, (b.apply rs).outcome = .ok out) ↔ ∀ r ∈ rs, ∃ s, b.Effective r s := by
  simp only [apply_outcome_eq_ok_iff]
  exact exists_forall₂_iff rs

theorem apply_fails_iff (b : Bindings) (rs : List Repository) :
    (∃ f, (b.apply rs).outcome = .error f) ↔ ∃ r ∈ rs, ∀ s, ¬ b.Effective r s := by
  have hok := b.apply_succeeds_iff rs
  cases h : (b.apply rs).outcome with
  | ok out =>
    have hall := hok.mp ⟨out, h⟩
    simpa using hall
  | error f =>
    have hnone : ¬ ∀ r ∈ rs, ∃ s, b.Effective r s := by
      rw [← hok, h]
      simp
    simpa using hnone

/-- Binding a list is binding each of its repositories on its own. -/
theorem apply_pointwise (b : Bindings) :
    (∀ rs, (∃ f, (b.apply rs).outcome = .error f) ↔
      ∃ r ∈ rs, ∃ f, (b.apply [r]).outcome = .error f) ∧
    (∀ rs out, (b.apply rs).outcome = .ok out →
      List.Forall₂ (fun r s => (b.apply [r]).outcome = .ok [s] ∧ b.Effective r s) rs out) ∧
    (∀ r s t, b.Effective r s → b.Effective r t → s = t) ∧
    (∀ r s m, b.Effective r s →
      Mirror.choose b.mirrors r.id r.layout (some r.url) = .ok (some m) →
      s.mirroredFrom? = some r) ∧
    ∀ front back out, (b.apply (front ++ back)).outcome = .ok out ↔
      ∃ x y, (b.apply front).outcome = .ok x ∧ (b.apply back).outcome = .ok y ∧ out = x ++ y := by
  refine ⟨?_, ?_, fun r s t => Effective.unique, fun r s m h => h.mirroredFrom?_eq, ?_⟩
  · intro rs
    simp [apply_fails_iff]
  · intro rs out h
    rw [apply_outcome_eq_ok_iff] at h
    refine h.imp fun r s hrs => ⟨?_, hrs⟩
    rw [apply_outcome_eq_ok_iff]
    exact .cons hrs .nil
  · intro front back out
    simp only [apply_outcome_eq_ok_iff]
    exact forall₂_append_iff front back out

def sampleProxy : Proxy :=
  ⟨"https", "proxy.example.com", 3128, none, none, some "*.local", none⟩

def sampleServer : Server :=
  ⟨"own", some "reader", some (.text "word"), none, none, none, none, none⟩

def sampleBindings : Bindings where
  mirrors := [⟨"own", "https://own.example.com/all", "*,!local", .text "", none, true⟩]
  proxies := .ofProxies [sampleProxy]
  keyring := .ofServers [sampleServer]

def sampleCentral : Repository := .declared "central" "https://repo.example.com/maven" defaultLayout

def sampleLocal : Repository := .declared "local" "https://files.local/maven" defaultLayout

def sampleMirrored : Repository :=
  ⟨⟨"own", "https://own.example.com/all", defaultLayout, some sampleProxy,
    some ⟨some "reader", some (.text "word"), none, none⟩, true⟩, [sampleCentral.toEndpoint]⟩

theorem isWritable_samplePort : isWritable 3128 = true := by decide +kernel

/-- The sample mirror with the sample proxy takes the place of whatever it matches. -/
theorem effective_of_sampleMirror {r : Repository}
    (h : Mirror.choose sampleBindings.mirrors r.id r.layout (some r.url) =
      .ok (some ⟨"own", "https://own.example.com/all", "*,!local", .text "", none, true⟩)) :
    sampleBindings.Effective r
      ⟨⟨"own", "https://own.example.com/all", r.layout, some sampleProxy,
        some ⟨some "reader", some (.text "word"), none, none⟩, true⟩, r.chain⟩ := by
  refine .mirrored h ⟨⟨"https", "own.example.com"⟩, rfl, rfl, ?_⟩
  rintro q ⟨⟩
  exact isWritable_samplePort

theorem effective_sampleLocal : sampleBindings.Effective sampleLocal sampleLocal := by
  refine .kept rfl ⟨⟨"https", "files.local"⟩, rfl, rfl, ?_⟩
  rintro q ⟨⟩

theorem apply_sampleRepositories :
    (sampleBindings.apply [sampleCentral, sampleLocal]).outcome =
      .ok [sampleMirrored, sampleLocal] ∧
    (sampleBindings.apply [sampleCentral]).outcome = .ok [sampleMirrored] ∧
    sampleMirrored.mirroredFrom? = some sampleCentral := by
  have hcentral : sampleBindings.Effective sampleCentral sampleMirrored :=
    effective_of_sampleMirror rfl
  have h : (sampleBindings.apply [sampleCentral, sampleLocal]).outcome =
      .ok [sampleMirrored, sampleLocal] :=
    (apply_outcome_eq_ok_iff _ _ _).mpr (.cons hcentral (.cons effective_sampleLocal .nil))
  obtain ⟨_, hforall, _, hfrom, _⟩ := apply_pointwise sampleBindings
  cases hforall _ _ h with
  | cons hone _ => exact ⟨h, hone.1, hfrom _ _ _ hcentral rfl⟩

end ResolverSetup.Bindings
