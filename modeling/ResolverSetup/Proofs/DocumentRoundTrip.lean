import Mathlib.Data.List.Forall2
import ResolverSetup.Proofs.WellFormedDocument
/-! Requests written out as documents. A document spells a request where it has each field under the
key of that field, and null where there is nothing; reading such a document gives the request. -/
namespace ResolverSetup

abbrev Fields := List (String × Value)

def Value.orNull {α : Type} (write : α → Value) (x : Option α) : Value := (x.map write).getD .null

def Repository.fields (r : Repository) : Fields :=
  [("id", .text r.id), ("url", .text r.url), ("layout", r.layout)]

def Mirror.fields (m : Mirror) : Fields :=
  [("id", .text m.id), ("url", .text m.url), ("mirror_of", .text m.mirrorOf),
    ("layout", m.layout), ("mirror_of_layouts", .orNull .text m.mirrorOfLayouts),
    ("blocked", .bool m.blocked)]

def Proxy.fields (p : Proxy) : Fields :=
  [("protocol", .text p.protocol), ("host", .text p.host), ("port", .int p.port),
    ("username", .orNull .text p.username), ("password", p.password.getD .null),
    ("non_proxy_hosts", .orNull .text p.nonProxyHosts), ("id", .orNull .text p.id)]

def Server.fields (s : Server) : Fields :=
  [("id", .text s.id), ("username", .orNull .text s.username), ("password", s.password.getD .null),
    ("private_key", .orNull .text s.privateKey), ("passphrase", s.passphrase.getD .null),
    ("configuration", .orNull (.map .writable) s.configuration),
    ("file_permissions", .orNull .text s.filePermissions),
    ("directory_permissions", .orNull .text s.directoryPermissions)]

def Request.fields (q : Request) : Fields :=
  [("local_repository", .text q.localRepository.text),
    ("system_properties", .map .writable q.systemProperties),
    ("user_properties", .map .writable q.userProperties), ("offline", q.offline),
    ("interactive", q.interactive), ("checksum_policy", q.checksumPolicy),
    ("no_snapshot_updates", q.noSnapshotUpdates), ("update_snapshots", q.updateSnapshots),
    ("cache_not_found", q.cacheNotFound), ("cache_transfer_error", q.cacheTransferError)]

/-- The order of the keys, and other keys between them, do not matter. -/
def Table.Spells (t : Table) (fs : Fields) : Prop := ∀ f ∈ fs, t.get? (.text f.1) = some f.2

instance (t : Table) (fs : Fields) : Decidable (t.Spells fs) :=
  inferInstanceAs (Decidable (∀ f ∈ fs, t.get? (.text f.1) = some f.2))

def Table.ofFields (fs : Fields) : Table := fs.map fun f => (.text f.1, f.2)

def SpellsSection {α : Type} (doc : Table) (part : Section) (fields : α → Fields) (xs : List α) :
    Prop :=
  ∃ vs, doc.get? (.text part.key) = some (.list .writable vs) ∧
    List.Forall₂ (fun v x => ∃ t : Table, v = .map .writable t ∧ t.Spells (fields x)) vs xs

structure Request.SpelledBy (q : Request) (doc : Table) : Prop where
  fields : doc.Spells q.fields
  remoteRepositories : SpellsSection doc .remoteRepositories Repository.fields q.remoteRepositories
  pluginRepositories : SpellsSection doc .pluginRepositories Repository.fields q.pluginRepositories
  mirrors : SpellsSection doc .mirrors Mirror.fields q.mirrors
  proxies : SpellsSection doc .proxies Proxy.fields q.proxies
  servers : SpellsSection doc .servers Server.fields q.servers

def sectionValue {α : Type} (fields : α → Fields) (xs : List α) : Value :=
  .list .writable (xs.map fun x => .map .writable (Table.ofFields (fields x)))

def Request.sectionFields (q : Request) : Fields :=
  [(Section.remoteRepositories.key, sectionValue Repository.fields q.remoteRepositories),
    (Section.pluginRepositories.key, sectionValue Repository.fields q.pluginRepositories),
    (Section.mirrors.key, sectionValue Mirror.fields q.mirrors),
    (Section.proxies.key, sectionValue Proxy.fields q.proxies),
    (Section.servers.key, sectionValue Server.fields q.servers)]

def Request.document (q : Request) : Table := Table.ofFields (q.fields ++ q.sectionFields)

theorem Table.spells_ofFields {fs : Fields} (h : (fs.map (·.1)).Nodup) :
    (Table.ofFields fs).Spells fs := by
  induction fs with
  | nil => exact fun f hf => nomatch hf
  | cons g fs ih =>
    rw [List.map_cons, List.nodup_cons] at h
    obtain ⟨hg, hfs⟩ := h
    intro f hf
    rcases List.mem_cons.mp hf with rfl | hf
    · simp [ofFields, get?]
    · have hne : g.1 ≠ f.1 := by
        intro he
        rw [he] at hg
        exact hg (List.mem_map_of_mem hf)
      have hrest := ih hfs f hf
      simpa [ofFields, get?, hne] using hrest

theorem spellsSection_sectionValue {α : Type} {doc : Table} {part : Section} {fields : α → Fields}
    {xs : List α} (hkeys : ∀ x, ((fields x).map (·.1)).Nodup)
    (h : doc.get? (.text part.key) = some (sectionValue fields xs)) :
    SpellsSection doc part fields xs := by
  refine ⟨_, h, List.forall₂_map_left_iff.mpr (List.forall₂_same.mpr fun x _ => ?_)⟩
  exact ⟨_, rfl, Table.spells_ofFields (hkeys x)⟩

theorem Repository.nodup_keys (r : Repository) : (r.fields.map (·.1)).Nodup := by simp [fields]

theorem Mirror.nodup_keys (m : Mirror) : (m.fields.map (·.1)).Nodup := by simp [fields]

theorem Proxy.nodup_keys (p : Proxy) : (p.fields.map (·.1)).Nodup := by simp [fields]

theorem Server.nodup_keys (s : Server) : (s.fields.map (·.1)).Nodup := by simp [fields]

theorem Request.spelledBy_document (q : Request) : q.SpelledBy q.document := by
  have hkeys : ((q.fields ++ q.sectionFields).map (·.1)).Nodup := by
    simp [fields, sectionFields, Section.key]
  have hspells : q.document.Spells (q.fields ++ q.sectionFields) := Table.spells_ofFields hkeys
  obtain ⟨hfields, hsections⟩ := List.forall_mem_append.mp hspells
  simp only [sectionFields, List.forall_mem_cons] at hsections
  obtain ⟨hremote, hplugin, hmirrors, hproxies, hservers, -⟩ := hsections
  exact {
    fields := hfields
    remoteRepositories := spellsSection_sectionValue Repository.nodup_keys hremote
    pluginRepositories := spellsSection_sectionValue Repository.nodup_keys hplugin
    mirrors := spellsSection_sectionValue Mirror.nodup_keys hmirrors
    proxies := spellsSection_sectionValue Proxy.nodup_keys hproxies
    servers := spellsSection_sectionValue Server.nodup_keys hservers }

def IsTextSecret (secret : Option Value) : Prop := ∃ s : Option String, secret = s.map .text

def Repository.IsDeclared (r : Repository) : Prop :=
  r = .declared r.id r.url r.layout ∧ r.layout.isTrue = true

def Mirror.IsDeclared (m : Mirror) : Prop := m.layout.isTrue = true

def Proxy.IsDeclared (p : Proxy) : Prop := IsTextSecret p.password

def Server.IsDeclared (s : Server) : Prop := IsTextSecret s.password ∧ IsTextSecret s.passphrase

/-- The requests that a document can declare: it has no keys for the three handles, and a tilde
would be read as the home directory. -/
structure Request.IsDeclared (q : Request) : Prop where
  normal : q.localRepository.IsNormal
  noTilde : q.localRepository.text.toList.head? ≠ some '~'
  remoteRepositories : ∀ r ∈ q.remoteRepositories, r.IsDeclared
  pluginRepositories : ∀ r ∈ q.pluginRepositories, r.IsDeclared
  mirrors : ∀ m ∈ q.mirrors, m.IsDeclared
  proxies : ∀ p ∈ q.proxies, p.IsDeclared
  servers : ∀ s ∈ q.servers, s.IsDeclared
  noHandles : { q with
    transferListener := .null, workspaceReader := .null, repositoryCache := .null } = q

namespace Document

section
variable {t : Table} {name : String}

theorem field_of_get? {v : Value} (h : t.get? (.text name) = some v) : t.field name = v := by
  rw [Table.field, h]
  rfl

theorem fieldOr_of_get? {v : Value} (h : t.get? (.text name) = some v) (absent : Value) :
    fieldOr t name absent = v := by
  rw [fieldOr, h]
  rfl

theorem textOr_of_get? {s : String} (h : t.get? (.text name) = some (.text s)) (absent : String) :
    textOr t name absent = .ok s := by
  rw [textOr, h]
  rfl

theorem optionalText_of_get? {s : Option String}
    (h : t.get? (.text name) = some (.orNull .text s)) : optionalText t name = .ok s := by
  rw [optionalText, field_of_get? h]
  cases s <;> rfl

theorem secret_of_get? {p : Option Value} (hp : IsTextSecret p)
    (h : t.get? (.text name) = some (p.getD .null)) : secret t name = .ok p := by
  obtain ⟨s, rfl⟩ := hp
  rw [secret, optionalText_of_get? h]
  rfl

theorem layout_of_get? {v : Value} (hv : v.isTrue = true)
    (h : t.get? (.text "layout") = some v) : layout t = v := by
  rw [layout, field_of_get? h, Value.orElse, if_pos hv]

theorem configuration_of_get? {conf : Option Table}
    (h : t.get? (.text name) = some (.orNull (.map .writable) conf)) (id : String) :
    configuration id (t.field name) = .ok conf := by
  rw [field_of_get? h]
  cases conf <;> rfl

/-- Empty properties count as false and are replaced, but by empty properties. -/
theorem properties_of_get? {props : Table} (place : MappingPlace)
    (h : t.get? (.text name) = some (.map .writable props)) :
    properties t name place = .ok props := by
  rw [properties, field_of_get? h]
  cases props <;> rfl

theorem localRepository_of_get? {p : Path} (hp : p.IsNormal)
    (htilde : p.text.toList.head? ≠ some '~')
    (h : t.get? (.text "local_repository") = some (.text p.text)) (env : Environment)
    (accounts : Accounts) : localRepository env accounts t = .ok p := by
  have htrue : (Value.text p.text).isTrue = true := by
    simpa [Value.isTrue] using Path.text_ne_empty hp
  have htext : textOf (.text p.text) = .ok p.text := rfl
  rw [localRepository, field_of_get? h, Value.orElse, if_pos htrue, htext]
  change ((Path.expandHome env accounts p.text).mapError DocumentFault.account).bind _ = _
  rw [Path.expandHome_eq_self htilde]
  exact congrArg Except.ok (Path.ofText_text hp)

end

section
variable {t : Table}

theorem repository_of_spells {r : Repository} (hr : r.IsDeclared) (h : t.Spells r.fields) :
    repository (.map .writable t) = .ok r := by
  obtain ⟨hdeclared, htrue⟩ := hr
  simp only [Table.Spells, Repository.fields, List.forall_mem_cons] at h
  obtain ⟨hid, hurl, hlayout, -⟩ := h
  simp only [repository, bind_eq_ok_iff]
  refine ⟨t, rfl, r.id, textOr_of_get? hid _, r.url, textOr_of_get? hurl _, ?_⟩
  rw [layout_of_get? htrue hlayout, ← hdeclared]
  rfl

theorem mirror_of_spells {m : Mirror} (hm : m.IsDeclared) (h : t.Spells m.fields) :
    mirror (.map .writable t) = .ok m := by
  simp only [Table.Spells, Mirror.fields, List.forall_mem_cons] at h
  obtain ⟨hid, hurl, hof, hlayout, hlayouts, hblocked, -⟩ := h
  simp only [mirror, bind_eq_ok_iff]
  refine ⟨t, rfl, m.id, textOr_of_get? hid _, m.url, textOr_of_get? hurl _,
    m.mirrorOf, textOr_of_get? hof _, m.mirrorOfLayouts, optionalText_of_get? hlayouts, ?_⟩
  rw [layout_of_get? hm hlayout, field_of_get? hblocked]
  rfl

theorem proxy_of_spells {p : Proxy} (hp : p.IsDeclared) (h : t.Spells p.fields) :
    proxy (.map .writable t) = .ok p := by
  simp only [Table.Spells, Proxy.fields, List.forall_mem_cons] at h
  obtain ⟨hprotocol, hhost, hport, husername, hpassword, hhosts, hid, -⟩ := h
  have hnumber : port (fieldOr t "port" (.int Proxy.defaultPort)) = .ok p.port := by
    rw [fieldOr_of_get? hport]
    rfl
  simp only [proxy, bind_eq_ok_iff]
  exact ⟨t, rfl, p.protocol, textOr_of_get? hprotocol _, p.host, textOr_of_get? hhost _,
    p.port, hnumber, p.username, optionalText_of_get? husername,
    p.password, secret_of_get? hp hpassword,
    p.nonProxyHosts, optionalText_of_get? hhosts, p.id, optionalText_of_get? hid, rfl⟩

theorem server_of_spells {s : Server} (hs : s.IsDeclared) (h : t.Spells s.fields) :
    server (.map .writable t) = .ok s := by
  obtain ⟨htextPassword, htextPassphrase⟩ := hs
  simp only [Table.Spells, Server.fields, List.forall_mem_cons] at h
  obtain ⟨hid, husername, hpassword, hkey, hpassphrase, hconf, hfile, hdirectory, -⟩ := h
  simp only [server, bind_eq_ok_iff]
  exact ⟨t, rfl, s.id, textOr_of_get? hid _, s.configuration, configuration_of_get? hconf _,
    s.username, optionalText_of_get? husername,
    s.password, secret_of_get? htextPassword hpassword,
    s.privateKey, optionalText_of_get? hkey,
    s.passphrase, secret_of_get? htextPassphrase hpassphrase,
    s.filePermissions, optionalText_of_get? hfile,
    s.directoryPermissions, optionalText_of_get? hdirectory, rfl⟩

end

theorem readSection_of_spells {α : Type} {doc : Table} {part : Section} {fields : α → Fields}
    {xs : List α} {read : Value → Except DocumentFault α}
    (hread : ∀ x ∈ xs, ∀ t : Table, t.Spells (fields x) → read (.map .writable t) = .ok x)
    (h : SpellsSection doc part fields xs) : readSection doc part read = .ok xs := by
  obtain ⟨vs, hvs, hspelled⟩ := h
  have hentries : entries doc part = .ok vs := by
    rw [entries, field_of_get? hvs]
  have hall : List.Forall₂ (fun v x => read v = .ok x) vs xs := by
    rw [List.forall₂_iff_zip] at hspelled ⊢
    refine ⟨hspelled.1, fun {v x} hmem => ?_⟩
    obtain ⟨t, rfl, ht⟩ := hspelled.2 hmem
    exact hread x (List.of_mem_zip hmem).2 t ht
  rw [readSection, hentries]
  exact (readAll_eq_ok_iff read vs xs).mpr hall

end Document

open Document

theorem Request.SpelledBy.ofDocument_eq {q : Request} {doc : Table} (h : q.SpelledBy doc)
    (hq : q.IsDeclared) (env : Environment) (accounts : Accounts) :
    Request.ofDocument env accounts doc = .ok q := by
  have hremote := readSection_of_spells
    (fun r hr t ht => repository_of_spells (hq.remoteRepositories r hr) ht) h.remoteRepositories
  have hplugin := readSection_of_spells
    (fun r hr t ht => repository_of_spells (hq.pluginRepositories r hr) ht) h.pluginRepositories
  have hmirrors := readSection_of_spells
    (fun m hm t ht => mirror_of_spells (hq.mirrors m hm) ht) h.mirrors
  have hproxies := readSection_of_spells
    (fun p hp t ht => proxy_of_spells (hq.proxies p hp) ht) h.proxies
  have hservers := readSection_of_spells
    (fun s hs t ht => server_of_spells (hq.servers s hs) ht) h.servers
  have hfields := h.fields
  simp only [Table.Spells, Request.fields, List.forall_mem_cons] at hfields
  obtain ⟨hstore, hsystem, huser, hoffline, hinteractive, hchecksum, hno, hupdate, hnotFound,
    htransfer, -⟩ := hfields
  simp only [Request.ofDocument, bind_eq_ok_iff]
  refine ⟨q.localRepository, localRepository_of_get? hq.normal hq.noTilde hstore env accounts,
    q.remoteRepositories, hremote, q.pluginRepositories, hplugin, q.mirrors, hmirrors,
    q.proxies, hproxies, q.servers, hservers, q.systemProperties, properties_of_get? _ hsystem,
    q.userProperties, properties_of_get? _ huser, ?_⟩
  rw [fieldOr_of_get? hoffline, fieldOr_of_get? hinteractive, field_of_get? hchecksum,
    fieldOr_of_get? hno, fieldOr_of_get? hupdate, fieldOr_of_get? hnotFound,
    fieldOr_of_get? htransfer]
  exact congrArg Except.ok hq.noHandles

/-- Reading undoes writing, wherever it happens and in whatever order the keys are written. -/
theorem Request.ofDocument_document (env : Environment) (accounts : Accounts) {q : Request}
    (h : q.IsDeclared) :
    Request.ofDocument env accounts q.document = .ok q ∧
    ∀ doc, q.SpelledBy doc → Request.ofDocument env accounts doc = .ok q :=
  ⟨q.spelledBy_document.ofDocument_eq h env accounts,
    fun _ hdoc => hdoc.ofDocument_eq h env accounts⟩

def plainRequest : Request where
  localRepository := .ofText "//build//./store/../m2"
  remoteRepositories :=
    [.declared "central" "https://repo.example.org" (.text "default"),
      .declared "" "" (.text "legacy")]
  pluginRepositories := [.declared "plugins" "https://plugins.example.org" (.text "p2")]
  mirrors :=
    [⟨"m", "https://mirror.example.org", "*,!internal", .text "default", none, true⟩,
      ⟨"n", "", "", .text "default", some "", false⟩]
  proxies := [⟨"", "proxy.example.org", 0, some "", none, some "localhost", none⟩,
    ⟨"https", "", -1, none, some (.text "123456"), none, some "corp"⟩]
  servers :=
    [⟨"internal", some "builder", some (.text "0664"), none, some (.text ""),
      some [(.text "timeout", .int 30000), (.text "headers", .list .writable [.null])],
      some "0664", some "0775"⟩,
      ⟨"", none, none, some "~/.ssh/id", none, some [], none, none⟩]
  systemProperties := []
  userProperties := [(.text "skipTests", .bool false)]
  offline := .null
  interactive := .bool false
  checksumPolicy := .text "warn"
  noSnapshotUpdates := .int 1
  updateSnapshots := .bool true
  cacheNotFound := .bool false
  cacheTransferError := .text ""
  transferListener := .null
  workspaceReader := .null
  repositoryCache := .null

def reorderedDocument : Table := (.text "comment", .int 7) :: plainRequest.document.reverse

theorem ofDocument_reorderedDocument :
    plainRequest.IsDeclared ∧ plainRequest.SpelledBy reorderedDocument ∧
    Request.ofDocument [("HOME", "/root")] (.single "/home/user") plainRequest.document =
      .ok plainRequest ∧
    Request.ofDocument [("HOME", "/root")] (.single "/home/user") reorderedDocument =
      .ok plainRequest := by
  have hdeclared : plainRequest.IsDeclared := {
    normal := Path.isNormal_ofText _
    noTilde := by decide +kernel
    remoteRepositories :=
      List.forall_mem_cons.mpr ⟨⟨rfl, rfl⟩, List.forall_mem_singleton.mpr ⟨rfl, rfl⟩⟩
    pluginRepositories := List.forall_mem_singleton.mpr ⟨rfl, rfl⟩
    mirrors := List.forall_mem_cons.mpr ⟨rfl, List.forall_mem_singleton.mpr rfl⟩
    proxies := List.forall_mem_cons.mpr
      ⟨⟨none, rfl⟩, List.forall_mem_singleton.mpr ⟨some "123456", rfl⟩⟩
    servers := List.forall_mem_cons.mpr
      ⟨⟨⟨some "0664", rfl⟩, ⟨some "", rfl⟩⟩,
        List.forall_mem_singleton.mpr ⟨⟨none, rfl⟩, ⟨none, rfl⟩⟩⟩
    noHandles := rfl }
  have hspelled : plainRequest.SpelledBy reorderedDocument := {
    fields := by decide +kernel
    remoteRepositories := spellsSection_sectionValue Repository.nodup_keys (by decide +kernel)
    pluginRepositories := spellsSection_sectionValue Repository.nodup_keys (by decide +kernel)
    mirrors := spellsSection_sectionValue Mirror.nodup_keys (by decide +kernel)
    proxies := spellsSection_sectionValue Proxy.nodup_keys (by decide +kernel)
    servers := spellsSection_sectionValue Server.nodup_keys (by decide +kernel) }
  obtain ⟨hwritten, hreordered⟩ :=
    Request.ofDocument_document [("HOME", "/root")] (.single "/home/user") hdeclared
  exact ⟨hdeclared, hspelled, hwritten, hreordered reorderedDocument hspelled⟩

end ResolverSetup
