import ResolverSetup.CommandLine
import ResolverSetup.Proofs.SuccessiveBuilds
import ResolverSetup.Proofs.TwoRuns
/-! What credentials are shows nowhere: builds from requests that differ in nothing else log, fail
and print alike. -/
namespace ResolverSetup
open List (Forall₂)

/-! Requests that only differ in their credentials. -/

/-- Of a secret, a build may tell whether there is one and whether it is sealed. -/
structure SecretsAgree (v w : Option Value) : Prop where
  isSome_eq : v.isSome = w.isSome
  isSealed_eq : Decryption.isSealed v = Decryption.isSealed w

def Proxy.bare (p : Proxy) : Proxy := { p with username := none, password := none }

structure Proxy.LowEq (p p' : Proxy) : Prop where
  bare : p.bare = p'.bare
  username : p.username.isSome = p'.username.isSome
  password : SecretsAgree p.password p'.password

def Server.bare (s : Server) : Server :=
  { s with username := none, password := none, privateKey := none, passphrase := none }

structure Server.LowEq (s s' : Server) : Prop where
  bare : s.bare = s'.bare
  username : s.username.isSome = s'.username.isSome
  password : SecretsAgree s.password s'.password
  privateKey : s.privateKey.isSome = s'.privateKey.isSome
  passphrase : SecretsAgree s.passphrase s'.passphrase

theorem Server.LowEq.isSome_credentials {s s' : Server} (h : s.LowEq s') :
    s.credentials.isSome = s'.credentials.isSome := by
  rw [credentials, credentials, Credentials.isSome_ofParts?, Credentials.isSome_ofParts?,
    h.username, h.password.isSome_eq, h.privateKey]

structure Request.LowEq (q q' : Request) : Prop where
  others : { q with proxies := [], servers := [] } = { q' with proxies := [], servers := [] }
  proxies : Forall₂ Proxy.LowEq q.proxies q'.proxies
  servers : Forall₂ Server.LowEq q.servers q'.servers

theorem Request.LowEq.eq_with {q q' : Request} (h : q.LowEq q') :
    q' = { q with proxies := q'.proxies, servers := q'.servers } := by
  have hothers := congrArg (fun r => { r with proxies := q'.proxies, servers := q'.servers }) h.others
  exact hothers.symm

/-! What a decrypter that only reports says of them. -/

namespace Decryption

theorem proxyProblems_eq {p p' : Proxy} (h : p.LowEq p') : proxyProblems p = proxyProblems p' := by
  have hlabel : p.label = p'.label := eq_of_bare_eq h.bare Proxy.label fun _ => rfl
  rw [proxyProblems, proxyProblems, h.password.isSealed_eq, hlabel]

theorem serverProblems_eq {s s' : Server} (h : s.LowEq s') :
    serverProblems s = serverProblems s' := by
  have hid : s.id = s'.id := eq_of_bare_eq h.bare Server.id fun _ => rfl
  simp only [serverProblems, h.password.isSealed_eq, h.passphrase.isSealed_eq, hid]

theorem problems_passthrough_eq {ps ps' : List Proxy} {ss ss' : List Server}
    (hp : Forall₂ Proxy.LowEq ps ps') (hs : Forall₂ Server.LowEq ss ss') :
    (passthrough ps ss).problems = (passthrough ps' ss').problems := by
  have hproxies := flatMap_eq_of_forall₂ (fun _ _ h => proxyProblems_eq h) hp
  have hservers := flatMap_eq_of_forall₂ (fun _ _ h => serverProblems_eq h) hs
  exact congrArg₂ (· ++ ·) hproxies hservers

end Decryption

theorem serverProperties_eq {ss ss' : List Server} (h : Forall₂ Server.LowEq ss ss') :
    serverProperties ss = serverProperties ss' := by
  have hsame : ∀ s s' : Server, s.LowEq s' → s.properties = s'.properties :=
    fun _ _ hs => eq_of_bare_eq hs.bare Server.properties fun _ => rfl
  rw [serverProperties, serverProperties, flatMap_eq_of_forall₂ hsame h]

/-! Selectors that were made of them. -/

structure ProxyRule.LowEq (r r' : ProxyRule) : Prop where
  proxy : r.proxy.LowEq r'.proxy
  excluded : r.excluded = r'.excluded

theorem ProxyRule.LowEq.serves_eq {r r' : ProxyRule} (h : r.LowEq r')
    (protocol host : Option String) : r.serves protocol host = r'.serves protocol host := by
  have hprotocol : r.proxy.protocol = r'.proxy.protocol :=
    eq_of_bare_eq h.proxy.bare Proxy.protocol fun _ => rfl
  rw [serves, serves, excludes, excludes, hprotocol, h.excluded]

structure Bindings.LowEq (b b' : Bindings) : Prop where
  mirrors : b.mirrors = b'.mirrors
  proxies : Forall₂ ProxyRule.LowEq b.proxies b'.proxies
  keyring : ∀ id, (b.keyring.select id).isSome = (b'.keyring.select id).isSome

theorem ProxyRules.ofProxies_lowEq {ps ps' : List Proxy} (h : Forall₂ Proxy.LowEq ps ps') :
    Forall₂ ProxyRule.LowEq (ofProxies ps) (ofProxies ps') := by
  refine List.rel_foldl (fun rules rules' hrules p p' hp => ?_) .nil h
  have hexcluded : p.nonProxyHosts = p'.nonProxyHosts :=
    eq_of_bare_eq hp.bare Proxy.nonProxyHosts fun _ => rfl
  exact List.rel_append hrules (.cons ⟨hp, congrArg HostPattern.listOf hexcluded⟩ .nil)

theorem Keyring.isSome_select_ofServers {ss ss' : List Server} (h : Forall₂ Server.LowEq ss ss') :
    ∀ id, ((ofServers ss).select id).isSome = ((ofServers ss').select id).isSome := by
  refine List.rel_foldl
    (P := fun k k' : Keyring => ∀ id, (k.select id).isSome = (k'.select id).isSome)
    (fun k k' hk s s' hs id => ?_) (fun id => rfl) h
  have hid : s.id = s'.id := eq_of_bare_eq hs.bare Server.id fun _ => rfl
  rw [select_add, select_add, hid]
  by_cases hown : s'.id = id
  · simpa [hown] using hs.isSome_credentials
  · simpa [hown] using hk id

theorem Builder.bindings_lowEq (q : Request) {ps ps' : List Proxy} {ss ss' : List Server}
    (hp : Forall₂ Proxy.LowEq ps ps') (hs : Forall₂ Server.LowEq ss ss')
    (problems problems' : List String) :
    (Builder.bindings q ⟨ps, ss, problems⟩).LowEq (Builder.bindings q ⟨ps', ss', problems'⟩) where
  mirrors := rfl
  proxies := ProxyRules.ofProxies_lowEq hp
  keyring := Keyring.isSome_select_ofServers hs

/-! Repositories that are bound with such selectors. -/

structure Repository.LowEq (r r' : Repository) : Prop where
  id : r.id = r'.id
  url : r.url = r'.url
  layout : r.layout = r'.layout
  blocked : r.blocked = r'.blocked
  origins : r.origins = r'.origins
  proxy : Option.Rel Proxy.LowEq r.proxy r'.proxy
  credentials : r.credentials.isSome = r'.credentials.isSome

theorem Proxy.LowEq.refl (p : Proxy) : p.LowEq p := ⟨rfl, rfl, rfl, rfl⟩

theorem Repository.LowEq.refl (r : Repository) : r.LowEq r := by
  refine ⟨rfl, rfl, rfl, rfl, rfl, ?_, rfl⟩
  cases r.proxy with
  | none => exact .none
  | some p => exact .some (.refl p)

theorem Repository.LowEq.label_eq {r r' : Repository} (h : r.LowEq r') : r.label = r'.label := by
  rw [label, label, h.id, h.url]

namespace Bindings.LowEq
variable {b b' : Bindings}

theorem select_agree {rules rules' : ProxyRules} (h : Forall₂ ProxyRule.LowEq rules rules')
    (protocol host : Option String) :
    Option.Rel Proxy.LowEq (rules.select protocol host) (rules'.select protocol host) := by
  induction h with
  | nil => exact .none
  | @cons rule rule' _ _ hrule _ ih =>
    have hserves := hrule.serves_eq protocol host
    by_cases hs : rule'.serves protocol host
    · simpa [ProxyRules.select, hserves, hs] using Option.Rel.some hrule.proxy
    · simpa [ProxyRules.select, hserves, hs] using ih

theorem proxyFor_agree (h : b.LowEq b') (r : Repository) :
    (b.proxies.proxyFor r).Agree (Option.Rel Proxy.LowEq) (b'.proxies.proxyFor r) := by
  refine .bind (.self _) ?_
  rintro url _ rfl
  have hselect := select_agree h.proxies (some url.scheme) (some url.host)
  generalize b.proxies.select (some url.scheme) (some url.host) = p at hselect ⊢
  generalize b'.proxies.select (some url.scheme) (some url.host) = p' at hselect ⊢
  cases hselect with
  | none => exact .pure .none
  | some hp =>
    have hentry := eq_of_bare_eq hp.bare (ProxyRules.usedEntry r) fun _ => rfl
    dsimp only
    rw [hentry]
    refine .bind (.self _) ?_
    rintro entry _ rfl
    exact .bind (.self _) fun _ _ _ => .pure (.some hp)

theorem proxyAll_agree (h : b.LowEq b') (rs : List Repository) :
    (b.proxyAll rs).Agree (Forall₂ Repository.LowEq) (b'.proxyAll rs) := by
  refine .each (R := Eq) ?_ (List.forall₂_same.mpr fun _ _ => rfl)
  rintro r _ rfl
  refine .bind (h.proxyFor_agree r) fun p p' hp => ?_
  cases hp with
  | none => exact .pure (.refl r)
  | some hp => exact .pure { Repository.LowEq.refl r with proxy := .some hp }

theorem credentialsFor_agree (h : b.LowEq b') {r r' : Repository} (hr : r.LowEq r') :
    (b.keyring.credentialsFor r : Traced RouteFault _).Agree
      (fun c c' => c.isSome = c'.isSome) (b'.keyring.credentialsFor r') := by
  have hselect := h.keyring r'.id
  rw [Keyring.credentialsFor, Keyring.credentialsFor, hr.id]
  generalize b.keyring.select r'.id = c at hselect ⊢
  generalize b'.keyring.select r'.id = c' at hselect ⊢
  cases rel_of_isSome_eq hselect with
  | none => exact .pure rfl
  | some _ => exact .bind (.self _) fun _ _ _ => .pure rfl

theorem unlockAll_agree (h : b.LowEq b') {rs rs' : List Repository}
    (hrs : Forall₂ Repository.LowEq rs rs') :
    (b.unlockAll rs).Agree (Forall₂ Repository.LowEq) (b'.unlockAll rs') := by
  refine .each (fun r r' hr => ?_) hrs
  refine .bind (h.credentialsFor_agree hr) fun c c' hc => ?_
  cases rel_of_isSome_eq hc with
  | none => exact .pure hr
  | some _ => exact .pure { hr with credentials := rfl }

theorem apply_agree (h : b.LowEq b') (rs : List Repository) :
    (b.apply rs).Agree (Forall₂ Repository.LowEq) (b'.apply rs) := by
  have hmirrored : b.mirrorAll rs = b'.mirrorAll rs := by rw [mirrorAll, mirrorAll, h.mirrors]
  rw [apply, apply, hmirrored]
  refine .bind (.self _) ?_
  rintro ms _ rfl
  refine .bind (h.proxyAll_agree ms) fun ps ps' hps => ?_
  refine .bind (h.unlockAll_agree hps) fun us us' hus => ?_
  rw [map_eq_of_forall₂ (fun _ _ hr => hr.label_eq) hus]
  exact .bind (.self _) fun _ _ _ => .pure hus

end Bindings.LowEq

/-! Sessions that are built with them. -/

def Session.bare (s : Session Repository) : Session Repository :=
  { s with
    bindings := .empty
    remoteRepositories := .owned []
    pluginRepositories := .owned [] }

structure Session.LowEq (s s' : Session Repository) : Prop where
  bare : s.bare = s'.bare
  configProperties : s.configProperties.current = s'.configProperties.current
  remote : Forall₂ Repository.LowEq s.remoteRepositories.current s'.remoteRepositories.current
  plugin : Forall₂ Repository.LowEq s.pluginRepositories.current s'.pluginRepositories.current

theorem Repository.LowEq.summaryLine_eq {r r' : Repository} (h : r.LowEq r') :
    r.summaryLine = r'.summaryLine := by
  have hfrom : r.mirroredFrom? = r'.mirroredFrom? := by
    rw [mirroredFrom?, mirroredFrom?, h.origins]
  have hproxy := h.proxy
  have hcredentials := h.credentials
  rw [summaryLine, summaryLine, h.id, h.url, hfrom]
  generalize r.credentials = c at hcredentials ⊢
  generalize r'.credentials = c' at hcredentials ⊢
  generalize r.proxy = p at hproxy ⊢
  generalize r'.proxy = p' at hproxy ⊢
  refine congrArg₂ (· ++ ·) (congrArg₂ (· ++ ·) rfl ?_) ?_
  · cases hproxy with
    | none => rfl
    | some hp => exact congrArg (" via " ++ ·) (eq_of_bare_eq hp.bare Proxy.address fun _ => rfl)
  · cases rel_of_isSome_eq hcredentials with
    | none => rfl
    | some _ => rfl

theorem Session.LowEq.summary_eq {s s' : Session Repository} (h : s.LowEq s') :
    s.summary = s'.summary := by
  have hstore := eq_of_bare_eq h.bare Session.store fun _ => rfl
  have hoffline := eq_of_bare_eq h.bare Session.offline fun _ => rfl
  have hupdate := eq_of_bare_eq h.bare Session.updatePolicy fun _ => rfl
  have herrors := eq_of_bare_eq h.bare Session.errorPolicy fun _ => rfl
  have hremote := map_eq_of_forall₂ (fun _ _ hr => hr.summaryLine_eq) h.remote
  have hplugin := map_eq_of_forall₂ (fun _ _ hr => hr.summaryLine_eq) h.plugin
  rw [summary, summary, hstore, hoffline, hupdate, herrors, hremote, hplugin]

namespace Collaborators
variable {ε : Type}

theorem createdEntry_eq (store : LocalStore) (q : Request)
    {remote remote' plugin plugin' : List Repository}
    (hremote : Forall₂ Repository.LowEq remote remote')
    (hplugin : Forall₂ Repository.LowEq plugin plugin') :
    Builder.createdEntry store q remote plugin = Builder.createdEntry store q remote' plugin' := by
  rw [Builder.createdEntry, Builder.createdEntry, hremote.length_eq, hplugin.length_eq]

theorem assemble_lowEq (c : Collaborators ε) (q : Request) (agent : String)
    (handlers : List Artifact.Handler) (store : LocalStore) (listeners : List Listener)
    {ps ps' : List Proxy} {ss ss' : List Server} (hs : Forall₂ Server.LowEq ss ss')
    {remote remote' plugin plugin' : List Repository}
    (hremote : Forall₂ Repository.LowEq remote remote')
    (hplugin : Forall₂ Repository.LowEq plugin plugin') :
    (c.assemble q agent handlers store (Decryption.passthrough ps ss) listeners remote
      plugin).freeze.LowEq
    (c.assemble { q with proxies := ps', servers := ss' } agent handlers store
      (Decryption.passthrough ps' ss') listeners remote' plugin').freeze := by
  have hproperties : Builder.configProperties agent q (Decryption.passthrough ps ss) =
      Builder.configProperties agent q (Decryption.passthrough ps' ss') := by
    rw [Builder.configProperties, Builder.configProperties]
    exact congrArg _ (serverProperties_eq hs)
  -- the properties are all that a bare session takes from the servers
  have hbare := congrArg (fun t =>
    { (c.assemble q agent handlers store (Decryption.passthrough ps ss) listeners remote
        plugin).freeze.bare with configProperties := (Holding.owned t).detach }) hproperties
  exact ⟨hbare, hproperties, hremote, hplugin⟩

theorem run_agree_with (c : Collaborators ε)
    (hdecrypt : c.decrypt = fun ps ss => .pure (Decryption.passthrough ps ss)) {q : Request}
    {ps : List Proxy} {ss : List Server} (hproxies : Forall₂ Proxy.LowEq q.proxies ps)
    (hservers : Forall₂ Server.LowEq q.servers ss) :
    (c.run q).1.Agree Session.LowEq (c.run { q with proxies := ps, servers := ss }).1 := by
  rw [run, Procedure.current_bind, Procedure.current_bind, hdecrypt]
  refine Procedure.agree_perform (.self _) ?_
  rintro agent _ rfl
  refine Procedure.agree_perform (.self _) ?_
  rintro handlers _ rfl
  refine Procedure.agree_perform (.self _) ?_
  rintro store _ rfl
  refine Procedure.agree_perform (R := fun d d' => d = Decryption.passthrough q.proxies q.servers ∧
    d' = Decryption.passthrough ps ss) (.pure ⟨rfl, rfl⟩) ?_
  rintro _ _ ⟨rfl, rfl⟩
  have hproblems := Decryption.problems_passthrough_eq hproxies hservers
  rw [Builder.problemEntries, Builder.problemEntries, hproblems]
  refine Procedure.agree_perform (.self _) fun _ _ _ => ?_
  refine Procedure.agree_perform (.self _) ?_
  rintro listeners _ rfl
  have hbindings := Builder.bindings_lowEq q hproxies hservers
  refine Procedure.agree_perform ((hbindings _ _ |>.apply_agree _).mapError _)
    fun remote remote' hremote => ?_
  refine Procedure.agree_perform ((hbindings _ _ |>.apply_agree _).mapError _)
    fun plugin plugin' hplugin => ?_
  rw [Procedure.change_bind, Procedure.change_bind, Procedure.change_bind, Procedure.change_bind,
    createdEntry_eq _ _ hremote hplugin]
  refine Procedure.agree_perform (.self _) ?_
  rintro entry _ rfl
  refine Procedure.agree_perform (.self _) fun _ _ _ => ?_
  exact .pure (c.assemble_lowEq q agent handlers store listeners hservers hremote hplugin)

theorem run_agree (c : Collaborators ε)
    (hdecrypt : c.decrypt = fun ps ss => .pure (Decryption.passthrough ps ss)) {q q' : Request}
    (h : q.LowEq q') : (c.run q).1.Agree Session.LowEq (c.run q').1 := by
  rw [h.eq_with]
  exact c.run_agree_with hdecrypt h.proxies h.servers

end Collaborators

theorem CommandLine.report_eq (w : World) (logging : Logging) (console : String)
    {x x' : Traced BuildFault (Session Repository)} (h : x.Agree Session.LowEq x') :
    report w logging console x = report w logging console x' := by
  obtain ⟨log, outcome⟩ := x
  obtain ⟨log', outcome'⟩ := x'
  obtain ⟨rfl, hout⟩ := h
  cases hout with
  | error e => rfl
  | ok hs => simp only [report, summaryText, hs.summary_eq]

/-- Builds from requests that differ in their credentials alone log the same, and both fail alike
or both give sessions that differ in credentials alone. The command line cannot tell them apart. -/
theorem Collaborators.credentials_unobservable {ε : Type} (c : Collaborators ε)
    (hdecrypt : c.decrypt = fun ps ss => .pure (Decryption.passthrough ps ss)) {q q' : Request}
    (h : q.LowEq q') :
    (c.run q).1.Agree (fun s s' => s.LowEq s' ∧ s.summary = s'.summary) (c.run q').1 ∧
    ∀ w settings logging console, CommandLine.buildAndReport w settings logging console q =
      CommandLine.buildAndReport w settings logging console q' := by
  refine ⟨(c.run_agree hdecrypt h).imp fun s s' hs => ⟨hs, hs.summary_eq⟩, ?_⟩
  intro w settings logging console
  exact CommandLine.report_eq w logging console (Collaborators.run_agree _ rfl h)

def guardedRequest (user : String) (word phrase : Value) : Request :=
  { sampleRequest with
    proxies := [{ Bindings.sampleProxy with username := some user, password := some word }]
    servers := [⟨"own", some user, some word, some user, some phrase, none, none, none⟩] }

theorem guardedRequest_lowEq {user user' : String} {word word' phrase phrase' : Value}
    (hword : Decryption.isEncrypted word = Decryption.isEncrypted word')
    (hphrase : Decryption.isEncrypted phrase = Decryption.isEncrypted phrase') :
    (guardedRequest user word phrase).LowEq (guardedRequest user' word' phrase') where
  others := rfl
  proxies := .cons ⟨rfl, rfl, ⟨rfl, hword⟩⟩ .nil
  servers := .cons ⟨rfl, rfl, ⟨rfl, hword⟩, rfl, ⟨rfl, hphrase⟩⟩ .nil

def sealedRequest : Request := guardedRequest "reader" (.text "\x7bsealed\x7d") (.text "sesame")

def otherSealedRequest : Request := guardedRequest "writer" (.text " \x7bother\x7d ") (.text "open")

theorem Collaborators.credentials_unobservable_sealedRequest :
    sealedRequest.LowEq otherSealedRequest ∧
    (sampleBuilder.collaborators.run sealedRequest).1.log =
      (sampleBuilder.collaborators.run otherSealedRequest).1.log ∧
    ∃ s s', (sampleBuilder.collaborators.run sealedRequest).1.outcome = .ok s ∧
      (sampleBuilder.collaborators.run otherSealedRequest).1.outcome = .ok s' ∧
      s.LowEq s' ∧ s.summary = s'.summary := by
  have hlow : sealedRequest.LowEq otherSealedRequest := guardedRequest_lowEq rfl rfl
  have hok : (sampleBuilder.collaborators.run sealedRequest).1.outcome.isOk = true := by
    decide +kernel
  obtain ⟨⟨hlog, hout⟩, _⟩ :=
    Collaborators.credentials_unobservable sampleBuilder.collaborators rfl hlow
  refine ⟨hlow, hlog, ?_⟩
  generalize (sampleBuilder.collaborators.run sealedRequest).1.outcome = x at hok hout ⊢
  generalize (sampleBuilder.collaborators.run otherSealedRequest).1.outcome = y at hout ⊢
  cases hout with
  | error e => cases hok
  | ok hs => exact ⟨_, _, rfl, rfl, hs.1, hs.2⟩

end ResolverSetup
