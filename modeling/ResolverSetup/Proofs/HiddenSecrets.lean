import ResolverSetup.Proofs.EffectiveForm
import ResolverSetup.Proofs.KeyringHistory
import ResolverSetup.Proofs.ProxyPrecedence
import ResolverSetup.Proofs.TwoRuns
/-! The texts of records do not show passwords and passphrases: not those of a repository with all
that stands behind it, and not those of the repositories that are made from it. -/
namespace ResolverSetup
open List (Forall₂)

/-! Records without their secrets. -/

def Credentials.masked (c : Credentials) : Credentials :=
  { c with password := none, passphrase := none }

def Proxy.masked (p : Proxy) : Proxy := { p with password := none }

def Server.masked (s : Server) : Server := { s with password := none, passphrase := none }

def Endpoint.masked (e : Endpoint) : Endpoint :=
  { e with proxy := e.proxy.map Proxy.masked, credentials := e.credentials.map Credentials.masked }

def Repository.masked (r : Repository) : Repository :=
  ⟨r.toEndpoint.masked, r.origins.map Endpoint.masked⟩

theorem Credentials.text_masked (c : Credentials) : c.masked.text = c.text := rfl

theorem Proxy.text_masked (p : Proxy) : p.masked.text = p.text := rfl

theorem Server.text_masked (s : Server) : s.masked.text = s.text := rfl

theorem Endpoint.textOver_masked (e : Endpoint) (behind : Except DigitFault String) :
    e.masked.textOver behind = e.textOver behind := by
  have hproxy : (e.proxy.map Proxy.masked).map Proxy.text = e.proxy.map Proxy.text := by
    rw [Option.map_map]
    rfl
  have hcredentials : (e.credentials.map Credentials.masked).map Credentials.text =
      e.credentials.map Credentials.text := by
    rw [Option.map_map]
    rfl
  simp only [textOver, masked, hproxy, hcredentials]

theorem Repository.chain_masked (r : Repository) : r.masked.chain = r.chain.map Endpoint.masked :=
  rfl

theorem Repository.text_masked (r : Repository) : r.masked.text = r.text := by
  rw [text, text, chain_masked]
  -- from the far end of the chain, so that the same text stands behind each endpoint
  induction r.chain with
  | nil => rfl
  | cons e es ih => rw [List.map_cons, List.foldr_cons, List.foldr_cons, ih, e.textOver_masked]

theorem Repository.text_eq {r s : Repository} (h : r.masked = s.masked) : r.text = s.text :=
  eq_of_bare_eq h text text_masked

/-! Credentials that are made of a proxy or of a server. -/

theorem Credentials.masked_of_ofParts? {u k : Option String} {p f : Option Value} {c : Credentials}
    (h : ofParts? u p k f = some c) : c.masked = ⟨u, none, k, none⟩ := by
  rw [ofParts?] at h
  split at h
  · cases h
  · cases h
    rfl

theorem Server.masked_credentials {s t : Server} (h : s.masked = t.masked) {c d : Credentials}
    (hc : s.credentials = some c) (hd : t.credentials = some d) : c.masked = d.masked := by
  have hname : s.username = t.username := eq_of_bare_eq h Server.username fun _ => rfl
  have hkey : s.privateKey = t.privateKey := eq_of_bare_eq h Server.privateKey fun _ => rfl
  rw [Credentials.masked_of_ofParts? hc, Credentials.masked_of_ofParts? hd, hname, hkey]

theorem Proxy.masked_credentials {p q : Proxy} (h : p.masked = q.masked) {c d : Credentials}
    (hc : p.credentials = some c) (hd : q.credentials = some d) : c.masked = d.masked := by
  have hname : p.username = q.username := eq_of_bare_eq h Proxy.username fun _ => rfl
  rw [Credentials.masked_of_ofParts? hc, Credentials.masked_of_ofParts? hd, hname]

/-! Selectors that differ in the secrets of what they select. -/

def ProxyRule.masked (r : ProxyRule) : ProxyRule := { r with proxy := r.proxy.masked }

/-- Bindings that are the same but for secrets. Whether there are credentials for an id may depend
on the secrets. -/
structure Bindings.SameButSecrets (b b' : Bindings) : Prop where
  mirrors : b.mirrors = b'.mirrors
  proxies : b.proxies.map ProxyRule.masked = b'.proxies.map ProxyRule.masked
  keyring : ∀ id c c', b.keyring.select id = some c → b'.keyring.select id = some c' →
    c.masked = c'.masked

theorem ProxyRules.select_masked (rules : ProxyRules) (protocol host : Option String) :
    select (rules.map ProxyRule.masked) protocol host =
      (rules.select protocol host).map Proxy.masked := by
  have hserves : (fun r : ProxyRule => r.serves protocol host) ∘ ProxyRule.masked =
      fun r => r.serves protocol host := rfl
  rw [select, List.find?_map, hserves, Option.map_map, select, Option.map_map]
  rfl

theorem ProxyRules.ofProxies_masked (ps : List Proxy) :
    (ofProxies ps).map ProxyRule.masked = ofProxies (ps.map Proxy.masked) := by
  have hrules : ∀ qs : List Proxy, ofProxies qs = qs.map ProxyRule.ofProxy := by
    intro qs
    rw [ofProxies_eq, addAll_eq, List.nil_append, List.map_map]
    rfl
  rw [hrules, hrules, List.map_map, List.map_map]
  rfl

theorem Keyring.masked_select_ofServers {ss ss' : List Server}
    (h : ss.map Server.masked = ss'.map Server.masked) {id : String} {c c' : Credentials}
    (hc : (ofServers ss).select id = some c) (hc' : (ofServers ss').select id = some c') :
    c.masked = c'.masked := by
  have hlast : ∀ ts : List Server, (lastOf? (·.id == id) ts).map Server.masked =
      lastOf? (·.id == id) (ts.map Server.masked) := by
    intro ts
    rw [lastOf?_map]
    rfl
  have hsame := (hlast ss).trans ((congrArg _ h).trans (hlast ss').symm)
  rw [select_ofServers, Option.bind_eq_some_iff] at hc hc'
  obtain ⟨s, hs, hc⟩ := hc
  obtain ⟨s', hs', hc'⟩ := hc'
  rw [hs, hs', Option.map_some, Option.map_some, Option.some.injEq] at hsame
  exact Server.masked_credentials hsame hc hc'

namespace Bindings

theorem sameButSecrets_of_masked (mirrors : List Mirror) {ps ps' : List Proxy}
    {ss ss' : List Server} (hp : ps.map Proxy.masked = ps'.map Proxy.masked)
    (hs : ss.map Server.masked = ss'.map Server.masked) :
    SameButSecrets ⟨mirrors, .ofProxies ps, .ofServers ss⟩
      ⟨mirrors, .ofProxies ps', .ofServers ss'⟩ where
  mirrors := rfl
  proxies := by rw [ProxyRules.ofProxies_masked, ProxyRules.ofProxies_masked, hp]
  keyring _ _ _ hc hc' := Keyring.masked_select_ofServers hs hc hc'

namespace SameButSecrets
variable {b b' : Bindings}

theorem refl (b : Bindings) : b.SameButSecrets b where
  mirrors := rfl
  proxies := rfl
  keyring _ _ _ hc hc' := by rw [Option.some.inj (hc.symm.trans hc')]

theorem routes (h : b.SameButSecrets b') {url : String} {p : Option Proxy} (hp : b.Routes url p) :
    ∃ p', b'.Routes url p' ∧ p.map Proxy.masked = p'.map Proxy.masked := by
  obtain ⟨u, hu, hselect, hwritable⟩ := hp
  have hmasked : p.map Proxy.masked =
      (b'.proxies.select (some u.scheme) (some u.host)).map Proxy.masked := by
    rw [hselect, ← ProxyRules.select_masked, h.proxies, ProxyRules.select_masked]
  refine ⟨_, ⟨u, hu, rfl, fun q hq => ?_⟩, hmasked⟩
  rw [hq, Option.map_some, Option.map_eq_some_iff] at hmasked
  obtain ⟨q₀, hq₀, hsame⟩ := hmasked
  have hport : q₀.port = q.port := eq_of_bare_eq hsame Proxy.port fun _ => rfl
  rw [← hport]
  exact hwritable q₀ hq₀

theorem masked_select (h : b.SameButSecrets b') {id : String}
    (hboth : (b.keyring.select id).isSome = (b'.keyring.select id).isSome) :
    (b.keyring.select id).map Credentials.masked =
      (b'.keyring.select id).map Credentials.masked := by
  have hsame := h.keyring id
  generalize b.keyring.select id = c at hboth hsame ⊢
  generalize b'.keyring.select id = c' at hboth hsame ⊢
  cases rel_of_isSome_eq hboth with
  | none => rfl
  | some _ => rw [Option.map_some, Option.map_some, hsame _ _ rfl rfl]

/-- One repository. Credentials show as such in its effective form, so there have to be some for
its id in both bindings or in neither. -/
theorem effective (h : b.SameButSecrets b') {r r' e : Repository} (hr : r.masked = r'.masked)
    (he : b.Effective r e) :
    ∃ e', b'.Effective r' e' ∧ e.id = e'.id ∧
      ((b.keyring.select e.id).isSome = (b'.keyring.select e.id).isSome → e.masked = e'.masked) := by
  have hid : r.id = r'.id := eq_of_bare_eq hr (·.id) fun _ => rfl
  have hurl : r.url = r'.url := eq_of_bare_eq hr (·.url) fun _ => rfl
  have hlayout : r.layout = r'.layout := eq_of_bare_eq hr (·.layout) fun _ => rfl
  have hblocked : r.blocked = r'.blocked := eq_of_bare_eq hr (·.blocked) fun _ => rfl
  have hproxy : r.proxy.map Proxy.masked = r'.proxy.map Proxy.masked := congrArg (·.proxy) hr
  have hcredentials : r.credentials.map Credentials.masked = r'.credentials.map Credentials.masked :=
    congrArg (·.credentials) hr
  have horigins : r.origins.map Endpoint.masked = r'.origins.map Endpoint.masked :=
    congrArg (·.origins) hr
  have hchain : r.chain.map Endpoint.masked = r'.chain.map Endpoint.masked :=
    congrArg Repository.chain hr
  cases he with
  | mirrored hm hp =>
    obtain ⟨p', hp', hsame⟩ := h.routes hp
    rw [h.mirrors, hid, hlayout, hurl] at hm
    refine ⟨_, .mirrored hm hp', rfl, fun hboth => ?_⟩
    have hselect := h.masked_select hboth
    simp only [Repository.masked, Endpoint.masked, hsame, hselect, hlayout]
    exact congrArg _ hchain
  | kept hm hp =>
    obtain ⟨p', hp', hsame⟩ := h.routes hp
    rw [h.mirrors, hid, hlayout, hurl] at hm
    rw [hurl] at hp'
    refine ⟨_, .kept hm hp', hid, fun hboth => ?_⟩
    have hselect := h.masked_select hboth
    rw [hid] at hselect
    simp only [Repository.masked, Endpoint.masked, Option.map_or, hsame, hselect, hproxy,
      hcredentials, hid, hurl, hlayout, hblocked]
    exact congrArg _ horigins

theorem apply (h : b.SameButSecrets b') {rs rs' es : List Repository}
    (hrs : rs.map Repository.masked = rs'.map Repository.masked)
    (hes : (b.apply rs).outcome = .ok es) :
    ∃ es', (b'.apply rs').outcome = .ok es' ∧ Forall₂ (fun e e' => e.id = e'.id ∧
      ((b.keyring.select e.id).isSome = (b'.keyring.select e.id).isSome →
        e.masked = e'.masked)) es es' := by
  simp only [apply_outcome_eq_ok_iff] at hes ⊢
  induction hes generalizing rs' with
  | nil =>
    rw [List.map_nil, eq_comm, List.map_eq_nil_iff] at hrs
    rw [hrs]
    exact ⟨[], .nil, .nil⟩
  | cons he _ ih =>
    rw [List.map_cons, eq_comm, List.map_eq_cons_iff] at hrs
    obtain ⟨r', rs', rfl, hr, hrs⟩ := hrs
    obtain ⟨e', he', hsame⟩ := h.effective hr.symm he
    obtain ⟨es', hes', hall⟩ := ih hrs.symm
    exact ⟨e' :: es', .cons he' hes', .cons hsame hall⟩

end SameButSecrets
end Bindings

/-- Records that are the same but for their passwords and passphrases print alike. So do
repositories over all that stands behind them, the repositories that take their place, and the
credentials that proxies and servers give. -/
theorem texts_hide_secrets :
    (∀ c d : Credentials, c.masked = d.masked → c.text = d.text) ∧
    (∀ p q : Proxy, p.masked = q.masked → p.text = q.text ∧
      ∀ c d, p.credentials = some c → q.credentials = some d → c.text = d.text) ∧
    (∀ s t : Server, s.masked = t.masked → s.text = t.text ∧
      ∀ c d, s.credentials = some c → t.credentials = some d → c.text = d.text) ∧
    (∀ r s : Repository, r.masked = s.masked → r.text = s.text) ∧
    (∀ (b : Bindings) (rs rs' es : List Repository),
      rs.map Repository.masked = rs'.map Repository.masked → (b.apply rs).outcome = .ok es →
      ∃ es', (b.apply rs').outcome = .ok es' ∧ es.map Repository.text = es'.map Repository.text) ∧
    (∀ (b b' : Bindings) (rs rs' es : List Repository), b.SameButSecrets b' →
      rs.map Repository.masked = rs'.map Repository.masked → (b.apply rs).outcome = .ok es →
      ∃ es', (b'.apply rs').outcome = .ok es' ∧ Forall₂ (fun e e' => e.id = e'.id ∧
        ((b.keyring.select e.id).isSome = (b'.keyring.select e.id).isSome →
          e.text = e'.text)) es es') ∧
    ∀ (mirrors : List Mirror) (ps ps' : List Proxy) (ss ss' : List Server),
      ps.map Proxy.masked = ps'.map Proxy.masked → ss.map Server.masked = ss'.map Server.masked →
      Bindings.SameButSecrets ⟨mirrors, .ofProxies ps, .ofServers ss⟩
        ⟨mirrors, .ofProxies ps', .ofServers ss'⟩ := by
  have hcredentials : ∀ c d : Credentials, c.masked = d.masked → c.text = d.text :=
    fun c d h => eq_of_bare_eq h Credentials.text Credentials.text_masked
  refine ⟨hcredentials, ?proxies, ?servers, fun r s => Repository.text_eq, ?sameBindings,
    ?bindings, fun mirrors ps ps' ss ss' => Bindings.sameButSecrets_of_masked mirrors⟩
  case proxies =>
    intro p q h
    have htext : p.text = q.text := eq_of_bare_eq h Proxy.text Proxy.text_masked
    exact ⟨htext, fun c d hc hd => hcredentials c d (Proxy.masked_credentials h hc hd)⟩
  case servers =>
    intro s t h
    have htext : s.text = t.text := eq_of_bare_eq h Server.text Server.text_masked
    exact ⟨htext, fun c d hc hd => hcredentials c d (Server.masked_credentials h hc hd)⟩
  case sameBindings =>
    intro b rs rs' es hrs hes
    obtain ⟨es', hes', hall⟩ := (Bindings.SameButSecrets.refl b).apply hrs hes
    exact ⟨es', hes', map_eq_of_forall₂ (fun e e' he => Repository.text_eq (he.2 rfl)) hall⟩
  case bindings =>
    intro b b' rs rs' es h hrs hes
    obtain ⟨es', hes', hall⟩ := h.apply hrs hes
    exact ⟨es', hes', hall.imp fun e e' he => ⟨he.1, fun hb => Repository.text_eq (he.2 hb)⟩⟩

namespace Bindings

def otherBindings : Bindings where
  mirrors := sampleBindings.mirrors
  proxies := .ofProxies [{ sampleProxy with password := some (.text "other") }]
  keyring := .ofServers [{ sampleServer with password := none, passphrase := some .null }]

def otherMirrored : Repository :=
  ⟨{ sampleMirrored.toEndpoint with
      proxy := some { sampleProxy with password := some (.text "other") }
      credentials := some ⟨some "reader", none, none, some (.text "phrase")⟩ },
    sampleMirrored.origins⟩

end Bindings

open Bindings in
theorem texts_hide_otherSecrets :
    sampleMirrored.text = otherMirrored.text ∧ sampleMirrored ≠ otherMirrored ∧
    (sampleBindings.apply [sampleMirrored]).outcome =
      .ok [⟨sampleMirrored.toEndpoint, sampleMirrored.chain⟩] ∧
    ∃ e, (otherBindings.apply [otherMirrored]).outcome = .ok [e] ∧
      (⟨sampleMirrored.toEndpoint, sampleMirrored.chain⟩ : Repository).text = e.text := by
  obtain ⟨_, _, _, hrepository, _, hbindings, hmade⟩ := texts_hide_secrets
  have hmasked : sampleMirrored.masked = otherMirrored.masked := rfl
  have hsame : sampleBindings.SameButSecrets otherBindings := hmade _ _ _ _ _ rfl rfl
  have hforms : sampleBindings.Effective sampleMirrored
      ⟨sampleMirrored.toEndpoint, sampleMirrored.chain⟩ := effective_of_sampleMirror rfl
  have hout := (apply_outcome_eq_ok_iff sampleBindings [sampleMirrored] _).mpr (.cons hforms .nil)
  have hlists : [sampleMirrored].map Repository.masked = [otherMirrored].map Repository.masked := rfl
  obtain ⟨es, hes, hall⟩ := hbindings _ _ _ _ _ hsame hlists hout
  cases hall with
  | cons he hnil =>
    cases hnil
    exact ⟨hrepository _ _ hmasked, by decide, hout, _, hes, he.2 rfl⟩

end ResolverSetup
