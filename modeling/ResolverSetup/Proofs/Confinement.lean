import ResolverSetup.Proofs.SuccessiveBuilds
/-! Proxies and credentials stay with the endpoint that they were selected for, over any number of
builds from one request. -/
namespace ResolverSetup

namespace Endpoint

def Served (b : Bindings) (e : Endpoint) : Prop :=
  e.credentials = b.keyring.select e.id ∧
    ∃ u, Url.ofText e.url = .ok u ∧ e.proxy = b.proxies.select (some u.scheme) (some u.host)

def Confined (b : Bindings) (e : Endpoint) : Prop :=
  (e.credentials = none ∨ e.credentials = b.keyring.select e.id) ∧
    (e.proxy = none ∨
      ∃ u, Url.ofText e.url = .ok u ∧ e.proxy = b.proxies.select (some u.scheme) (some u.host))

theorem Served.confined {b : Bindings} {e : Endpoint} (h : e.Served b) : e.Confined b :=
  ⟨.inr h.1, .inr h.2⟩

end Endpoint

namespace Keyring
variable {servers : List Server} {id : String} {c : Credentials}

/-- What is found after servers were added is one of theirs, or was there before. -/
theorem mem_of_select_foldl_add {k : Keyring}
    (h : (servers.foldl (fun k s => k.add s.id s.credentials) k).select id = some c) :
    (∃ s ∈ servers, s.id = id ∧ s.credentials = some c) ∨ k.select id = some c := by
  induction servers generalizing k with
  | nil => exact .inr h
  | cons s servers ih =>
    rcases ih h with ⟨t, ht, hid, hc⟩ | hk
    · exact .inl ⟨t, List.mem_cons_of_mem s ht, hid, hc⟩
    · rw [select_add] at hk
      by_cases hs : s.id = id
      · rw [if_pos hs] at hk
        exact .inl ⟨s, List.mem_cons_self, hs, hk⟩
      · rw [if_neg hs] at hk
        exact .inr hk

theorem mem_of_select_ofServers (h : (ofServers servers).select id = some c) :
    ∃ s ∈ servers, s.id = id ∧ s.credentials = some c := by
  rcases mem_of_select_foldl_add h with hs | hempty
  · exact hs
  · cases hempty

end Keyring

namespace Bindings.Effective
variable {b : Bindings} {r s : Repository}

/-- Binding a confined endpoint settles it. -/
theorem served (h : b.Effective r s) (hr : r.toEndpoint.Confined b) : s.toEndpoint.Served b := by
  cases h with
  | mirrored _ hp =>
    obtain ⟨u, hu, rfl, _⟩ := hp
    exact ⟨rfl, u, hu, rfl⟩
  | kept _ hp =>
    obtain ⟨u, hu, rfl, _⟩ := hp
    obtain ⟨hc, hproxy⟩ := hr
    refine ⟨?_, u, hu, ?_⟩
    · rcases hc with hc | hc <;> simp [hc]
    · rcases hproxy with hn | ⟨v, hv, hs⟩
      · simp [hn]
      · cases hu.symm.trans hv
        simp [hs]

theorem origins_eq (h : b.Effective r s) : s.origins = r.origins ∨ s.origins = r.chain := by
  cases h with
  | mirrored _ _ => exact .inr rfl
  | kept _ _ => exact .inl rfl

/-- One binding keeps all endpoints of a repository confined. -/
theorem confined (h : b.Effective r s) (hr : ∀ e ∈ r.chain, e.Confined b) :
    ∀ e ∈ s.chain, e.Confined b := by
  intro e he
  rcases List.mem_cons.mp he with rfl | ho
  · exact (h.served (hr _ List.mem_cons_self)).confined
  · rcases h.origins_eq with hs | hs
    · exact hr e (List.mem_cons_of_mem _ (hs ▸ ho))
    · exact hr e (hs ▸ ho)

end Bindings.Effective

/-- What builds keep, when all of their sessions select alike. -/
theorem Builds.confined {q : Request} {bs : List Builder} {x : Build} {b : Bindings}
    (h : Builds q bs x) (hselect : ∀ c ∈ bs, c.selectors q = b)
    (hdeclared : ∀ f, ∀ r ∈ q.repositories f, ∀ e ∈ r.chain, e.Confined b) (f : ListField) :
    ∀ r ∈ x.repositories f, (∀ e ∈ r.chain, e.Confined b) ∧ r.toEndpoint.Served b := by
  have hrun := h.related
    (R := fun n _ s => (∀ e ∈ s.chain, e.Confined b) ∧ (0 < n → s.toEndpoint.Served b))
    (fun f r hr => ⟨hdeclared f r hr, by simp⟩)
    (by
      intro c hc n _ s t hs ht
      rw [hselect c hc] at ht
      exact ⟨ht.confined hs.1, fun _ => ht.served (hs.1 _ List.mem_cons_self)⟩) f
  intro r hr
  obtain ⟨_, _, hconfined, hserved⟩ := exists_of_mem_right hrun hr
  exact ⟨hconfined, hserved (List.length_pos_of_ne_nil h.ne_nil)⟩

/-- After any number of builds the session selects among the mirrors of the request and the proxies
and servers that are decrypted. Each repository has exactly what is selected for it, and what it
replaces has nothing else, so credentials stand under the id of their own server. -/
theorem builds_confined {q : Request} {bs : List Builder} {x : Build} {proxies : List Proxy}
    {servers : List Server} (h : Builds q bs x)
    (hdeclared : ∀ f, ∀ r ∈ q.repositories f,
      r.mirroredFrom? = none ∧ r.proxy = none ∧ r.credentials = none)
    (hdecrypt : ∀ b ∈ bs, (b.decrypter q.proxies q.servers).proxies = proxies ∧
      (b.decrypter q.proxies q.servers).servers = servers) :
    x.session.bindings = ⟨q.mirrors, .ofProxies proxies, .ofServers servers⟩ ∧
    ∀ f, ∀ r ∈ x.repositories f,
      r.toEndpoint.Served x.session.bindings ∧
      (∀ e ∈ r.origins, e.Confined x.session.bindings) ∧
      ∀ e ∈ r.chain, ∀ c, e.credentials = some c →
        ∃ s ∈ servers, s.id = e.id ∧ s.credentials = some c := by
  have hselect : ∀ b ∈ bs, b.selectors q = ⟨q.mirrors, .ofProxies proxies, .ofServers servers⟩ := by
    intro b hb
    obtain ⟨hp, hs⟩ := hdecrypt b hb
    rw [Builder.selectors, Builder.bindings, hp, hs]
  obtain ⟨b, hb, hbindings⟩ := h.bindings_eq
  rw [hbindings, hselect b hb]
  have hbare : ∀ f, ∀ r ∈ q.repositories f, ∀ e ∈ r.chain,
      e.Confined ⟨q.mirrors, .ofProxies proxies, .ofServers servers⟩ := by
    intro f r hr e he
    obtain ⟨hfrom, hproxy, hcredentials⟩ := hdeclared f r hr
    have horigins := r.mirroredFrom?_eq_none_iff.mp hfrom
    have her : e = r.toEndpoint := by simpa [Repository.chain, horigins] using he
    rw [her]
    exact ⟨.inl hcredentials, .inl hproxy⟩
  refine ⟨rfl, fun f r hr => ?_⟩
  obtain ⟨hchain, hserved⟩ := h.confined hselect hbare f r hr
  refine ⟨hserved, fun e he => hchain e (List.mem_cons_of_mem _ he), ?_⟩
  intro e he c hc
  rcases (hchain e he).1 with hnone | hown
  · rw [hnone] at hc
    cases hc
  · exact Keyring.mem_of_select_ofServers (hown.symm.trans hc)

theorem sampleRequest_confined :
    ∃ x, Builds sampleRequest [sampleBuilder, sampleBuilder] x ∧
      (∀ f, ∀ r ∈ sampleRequest.repositories f,
        r.mirroredFrom? = none ∧ r.proxy = none ∧ r.credentials = none) ∧
      x.session.bindings = ⟨sampleRequest.mirrors, .ofProxies [Bindings.sampleProxy],
        .ofServers [Bindings.sampleServer]⟩ ∧
      ∀ f, ∀ r ∈ x.repositories f,
        r.toEndpoint.Served x.session.bindings ∧
        ∀ e ∈ r.origins, e.Confined x.session.bindings := by
  obtain ⟨w, x, hw, _, hwx⟩ := rebuild_sampleRequest
  have hx : Builds sampleRequest [sampleBuilder, sampleBuilder] x := .next (.first hw) hwx
  have hdeclared : ∀ f, ∀ r ∈ sampleRequest.repositories f,
      r.mirroredFrom? = none ∧ r.proxy = none ∧ r.credentials = none := by
    intro f
    cases f <;> decide
  have hdecrypt : ∀ b ∈ [sampleBuilder, sampleBuilder],
      (b.decrypter sampleRequest.proxies sampleRequest.servers).proxies =
        [Bindings.sampleProxy] ∧
      (b.decrypter sampleRequest.proxies sampleRequest.servers).servers =
        [Bindings.sampleServer] := by
    intro b hb
    have hsame : b = sampleBuilder := by simpa using hb
    rw [hsame]
    exact ⟨rfl, rfl⟩
  obtain ⟨hbindings, h⟩ := builds_confined hx hdeclared hdecrypt
  exact ⟨x, hx, hdeclared, hbindings, fun f r hr => ⟨(h f r hr).1, (h f r hr).2.1⟩⟩

end ResolverSetup
