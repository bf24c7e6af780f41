import Mathlib.Data.List.Forall2
import ResolverSetup.Proofs.DocumentFaults
/-! Well-formed documents: those that a request can be read from, entry by entry. -/
namespace ResolverSetup

inductive IsPort : Value → Prop
  | int (n : Int) : IsPort (.int n)
  | bool (b : Bool) : IsPort (.bool b)
  | real (negative : Bool) (units : Nat) : IsPort (.real (.finite negative units))
  | text {s : String} {n : Int} (h : IntegerLiteral s.toList n) : IsPort (.text s)
  | bytes {bs : List UInt8} {n : Int} (h : OctetLiteral bs n) : IsPort (.bytes bs)

def WellFormedEntry : Section → Table → Prop
  | .remoteRepositories, _ | .pluginRepositories, _ | .mirrors, _ => True
  | .proxies, t => ∀ v, t.get? (.text "port") = some v → IsPort v
  | .servers, t =>
    t.field "configuration" = .null ∨ ∃ conf, t.field "configuration" = .map .writable conf

def WellFormedSection (doc : Table) (part : Section) : Prop :=
  doc.field part.key = .null ∨
    ∃ vs, doc.field part.key = .list .writable vs ∧
      ∀ v ∈ vs, ∃ t, v = .map .writable t ∧ WellFormedEntry part t

def WellFormedProperties (v : Value) : Prop := v.isTrue = false ∨ ∃ t, v = .map .writable t

structure WellFormed (doc : Table) : Prop where
  sections (part : Section) : WellFormedSection doc part
  systemProperties : WellFormedProperties (doc.field "system_properties")
  userProperties : WellFormedProperties (doc.field "user_properties")

namespace Value
variable {t : Table} {v : Value}

theorem isWritable_of_mem {vs : List Value} (h : itemsWritable vs = true) :
    ∀ v ∈ vs, v.isWritable = true := by
  induction vs with
  | nil => simp
  | cons v vs ih =>
    rw [itemsWritable, Bool.and_eq_true] at h
    exact List.forall_mem_cons.mpr ⟨h.1, ih h.2⟩

theorem isWritable_of_get? {k : Value} (h : entriesWritable t = true) (hv : t.get? k = some v) :
    v.isWritable = true := by
  induction t with
  | nil => cases hv
  | cons e t ih =>
    obtain ⟨l, w⟩ := e
    rw [entriesWritable, Bool.and_eq_true, Bool.and_eq_true] at h
    rw [Table.get?] at hv
    split at hv
    · rw [← Option.some.inj hv]
      exact h.1.2
    · exact ih h.2 hv

theorem isWritable_field (h : entriesWritable t = true) (name : String) :
    (t.field name).isWritable = true := by
  rw [Table.field]
  cases hv : t.get? (.text name) with
  | none => rfl
  | some v => exact isWritable_of_get? h hv

end Value

namespace Document
variable {t doc : Table} {v : Value}

theorem textFaults_eq_nil (h : v.isWritable = true) : textFaults v = [] := if_pos h

theorem textFaults_field (h : Value.entriesWritable t = true) (name : String) :
    textFaults (t.field name) = [] :=
  textFaults_eq_nil (Value.isWritable_field h name)

theorem mappingFaults_eq_nil_iff (place : MappingPlace) (inside : Table → List DocumentFault)
    (v : Value) : mappingFaults place inside v = [] ↔ ∃ t, v = .map .writable t ∧ inside t = [] := by
  cases v with
  | map access t => cases access <;> simp [mappingFaults]
  | _ => simp [mappingFaults]

theorem ite_fault_eq_nil_iff (p : Prop) [Decidable p] (f : DocumentFault) :
    (if p then [] else [f]) = [] ↔ p := by
  by_cases h : p <;> simp [h]

theorem portFaults_eq_nil_iff (v : Value) : portFaults v = [] ↔ IsPort v := by
  cases v with
  | int n => exact iff_of_true rfl (.int n)
  | bool b => exact iff_of_true rfl (.bool b)
  | real x =>
    cases x with
    | finite negative units => exact iff_of_true rfl (.real negative units)
    | _ =>
      refine iff_of_false (List.cons_ne_nil _ _) fun h => ?_
      cases h
  | text s =>
    rw [portFaults, ite_fault_eq_nil_iff]
    constructor
    · rintro ⟨n, hn⟩
      exact .text hn
    · intro h
      cases h with
      | text hn => exact ⟨_, hn⟩
  | bytes bs =>
    rw [portFaults, ite_fault_eq_nil_iff]
    constructor
    · rintro ⟨n, hn⟩
      exact .bytes hn
    · intro h
      cases h with
      | bytes hn => exact ⟨_, hn⟩
  | _ =>
    refine iff_of_false (List.cons_ne_nil _ _) fun h => ?_
    cases h

theorem portFaults_fieldOr (t : Table) :
    portFaults (fieldOr t "port" (.int Proxy.defaultPort)) = [] ↔
      ∀ v, t.get? (.text "port") = some v → IsPort v := by
  rw [portFaults_eq_nil_iff, fieldOr]
  cases t.get? (.text "port") with
  | none => exact iff_of_true (.int _) nofun
  | some v => simp

theorem configurationFaults_eq_nil_iff (t : Table) :
    configurationFaults t = [] ↔
      t.field "configuration" = .null ∨ ∃ conf, t.field "configuration" = .map .writable conf := by
  rw [configurationFaults]
  cases t.field "configuration" with
  | map access conf => cases access <;> simp [mappingFaults]
  | _ => simp [mappingFaults]

/-- Where all numbers can be written, only ports and configurations can be at fault. -/
theorem entryFaults_eq_nil_iff (part : Section) (hv : v.isWritable = true) :
    entryFaults part v = [] ↔ ∃ t, v = .map .writable t ∧ WellFormedEntry part t := by
  have hinside : ∀ place (inside : Table → List DocumentFault),
      (∀ t, Value.entriesWritable t = true → (inside t = [] ↔ WellFormedEntry part t)) →
      (mappingFaults place inside v = [] ↔ ∃ t, v = .map .writable t ∧ WellFormedEntry part t) := by
    intro place inside h
    rw [mappingFaults_eq_nil_iff]
    refine exists_congr fun t => and_congr_right fun ht => h t ?_
    rwa [ht, Value.isWritable] at hv
  cases part with
  | remoteRepositories | pluginRepositories =>
    refine hinside _ _ fun t ht => iff_of_true ?_ trivial
    simp [repositoryFaults, textFaults_field ht]
  | mirrors =>
    refine hinside _ _ fun t ht => iff_of_true ?_ trivial
    simp [mirrorFaults, textFaults_field ht]
  | proxies =>
    refine hinside _ _ fun t ht => ?_
    simp [proxyFaults, textFaults_field ht, portFaults_fieldOr, WellFormedEntry]
  | servers =>
    refine hinside _ _ fun t ht => ?_
    simp [serverFaults, textFaults_field ht, configurationFaults_eq_nil_iff, WellFormedEntry]

theorem sectionFaults_eq_nil_iff (h : Value.entriesWritable doc = true) (part : Section) :
    sectionFaults doc part = [] ↔ WellFormedSection doc part := by
  have hvs : ∀ vs, doc.field part.key = .list .writable vs → ∀ v ∈ vs, v.isWritable = true := by
    intro vs hs
    have hw := Value.isWritable_field h part.key
    rw [hs, Value.isWritable] at hw
    exact Value.isWritable_of_mem hw
  rw [sectionFaults, WellFormedSection]
  cases hs : doc.field part.key with
  | list access vs =>
    cases access with
    | writable =>
      simp only [List.flatMap_eq_nil_iff, reduceCtorEq, false_or, Value.list.injEq, true_and,
        exists_eq_left']
      exact forall₂_congr fun v hv => entryFaults_eq_nil_iff part (hvs vs hs v hv)
    | readOnly => simp
  | _ => simp

theorem propertyFaults_eq_nil_iff (doc : Table) (name : String) (place : MappingPlace) :
    propertyFaults doc name place = [] ↔ WellFormedProperties (doc.field name) := by
  rw [propertyFaults, WellFormedProperties]
  cases (doc.field name).isTrue with
  | false => simp
  | true => simp [mappingFaults_eq_nil_iff]

theorem localRepositoryFaults_eq (h : Value.entriesWritable doc = true) :
    localRepositoryFaults doc = accountFaults (localRepositoryValue doc).display := by
  have hwritable : (localRepositoryValue doc).isWritable = true := by
    rw [localRepositoryValue, Value.orElse]
    split
    · exact Value.isWritable_field h _
    · rfl
  rw [localRepositoryFaults, textFaults_eq_nil hwritable, List.nil_append]

theorem accountFaults_eq_nil_iff (path : String) : accountFaults path = [] ↔ ¬ Path.NullNamed path := by
  by_cases h : Path.NullNamed path <;> simp [accountFaults, h]

/-- The order in which the parts of a document are read. -/
theorem faults_eq (h : Value.entriesWritable doc = true) :
    faults doc =
      accountFaults (localRepositoryValue doc).display ++
      sectionFaults doc .remoteRepositories ++ sectionFaults doc .pluginRepositories ++
      sectionFaults doc .mirrors ++ sectionFaults doc .proxies ++ sectionFaults doc .servers ++
      propertyFaults doc "system_properties" .systemProperties ++
      propertyFaults doc "user_properties" .userProperties := by
  simp [faults, localRepositoryFaults_eq h]

theorem faults_eq_nil_iff (h : Value.entriesWritable doc = true) :
    faults doc = [] ↔ WellFormed doc ∧ ¬ Path.NullNamed (localRepositoryValue doc).display := by
  simp only [faults_eq h, List.append_eq_nil_iff, accountFaults_eq_nil_iff,
    sectionFaults_eq_nil_iff h, propertyFaults_eq_nil_iff]
  constructor
  · rintro ⟨⟨⟨⟨⟨⟨⟨hpath, hremote⟩, hplugin⟩, hmirrors⟩, hproxies⟩, hservers⟩, hsystem⟩, huser⟩
    refine ⟨⟨fun part => ?_, hsystem, huser⟩, hpath⟩
    cases part <;> assumption
  · rintro ⟨⟨hsections, hsystem, huser⟩, hpath⟩
    exact ⟨⟨⟨⟨⟨⟨⟨hpath, hsections _⟩, hsections _⟩, hsections _⟩, hsections _⟩, hsections _⟩,
      hsystem⟩, huser⟩

def items (doc : Table) (part : Section) : List Value :=
  match doc.field part.key with
  | .list .writable vs => vs
  | _ => []

theorem readAll_eq_ok_iff {α : Type} (read : Value → Except DocumentFault α) (vs : List Value)
    (xs : List α) : readAll read vs = .ok xs ↔ List.Forall₂ (fun v x => read v = .ok x) vs xs := by
  induction vs generalizing xs with
  | nil => simp [readAll, eq_comm]
  | cons v vs ih =>
    simp only [readAll, bind_eq_ok_iff, ih]
    constructor
    · rintro ⟨x, hx, ys, hys, h⟩
      rw [← Except.ok.inj h]
      exact .cons hx hys
    · intro h
      cases h with
      | cons hx hys => exact ⟨_, hx, _, hys, rfl⟩

/-- What is read from a section: one thing from each of its entries. -/
theorem readSection_eq_ok {α : Type} {doc : Table} {part : Section}
    {read : Value → Except DocumentFault α} {xs : List α}
    (h : readSection doc part read = .ok xs) :
    List.Forall₂ (fun v x => read v = .ok x) (items doc part) xs := by
  rw [← readAll_eq_ok_iff, ← h, readSection, entries, items]
  rw [readSection, entries] at h
  cases hs : doc.field part.key with
  | null => rfl
  | list access vs =>
    cases access with
    | writable => rfl
    | readOnly => rw [hs] at h; cases h
  | _ => rw [hs] at h; cases h

def knownKeys : List String :=
  ["local_repository", "remote_repositories", "plugin_repositories", "mirrors", "proxies",
    "servers", "system_properties", "user_properties", "offline", "interactive",
    "checksum_policy", "no_snapshot_updates", "update_snapshots", "cache_not_found",
    "cache_transfer_error"]

/-- Two documents that hold the same under each known key. -/
def SameKnown (doc doc' : Table) : Prop :=
  ∀ key ∈ knownKeys, doc.get? (.text key) = doc'.get? (.text key)

end Document

open Document

/-- Nothing else in a document has an effect. -/
theorem Request.ofDocument_congr (env : Environment) (accounts : Accounts) {doc doc' : Table}
    (h : SameKnown doc doc') :
    Request.ofDocument env accounts doc = Request.ofDocument env accounts doc' := by
  have hget : ∀ key ∈ knownKeys, doc.get? (.text key) = doc'.get? (.text key) := h
  simp (disch := decide) only [Request.ofDocument, Document.localRepository, readSection,
    entries, Section.key, properties, fieldOr, Table.field, hget]

/-- Reading succeeds on the well-formed documents, unless nobody can have the name behind the tilde
of the local repository. Each entry on its own gives one thing. Reading stops at the first fault of
any other document, that of the local repository being the first of all. -/
theorem Request.ofDocument_spec (env : Environment) (accounts : Accounts) {doc : Table}
    (h : Value.entriesWritable doc = true) :
    ((∃ q, Request.ofDocument env accounts doc = .ok q) ↔
      WellFormed doc ∧ ¬ Path.NullNamed (localRepositoryValue doc).display) ∧
    (∀ f, Request.ofDocument env accounts doc = .error f ↔
      (accountFaults (localRepositoryValue doc).display ++
        sectionFaults doc .remoteRepositories ++ sectionFaults doc .pluginRepositories ++
        sectionFaults doc .mirrors ++ sectionFaults doc .proxies ++ sectionFaults doc .servers ++
        propertyFaults doc "system_properties" .systemProperties ++
        propertyFaults doc "user_properties" .userProperties).head? = some f) ∧
    (∀ q, Request.ofDocument env accounts doc = .ok q →
      List.Forall₂ (fun v r => repository v = .ok r) (items doc .remoteRepositories)
        q.remoteRepositories ∧
      List.Forall₂ (fun v r => repository v = .ok r) (items doc .pluginRepositories)
        q.pluginRepositories ∧
      List.Forall₂ (fun v m => mirror v = .ok m) (items doc .mirrors) q.mirrors ∧
      List.Forall₂ (fun v p => proxy v = .ok p) (items doc .proxies) q.proxies ∧
      List.Forall₂ (fun v s => server v = .ok s) (items doc .servers) q.servers) ∧
    ∀ doc', SameKnown doc doc' →
      Request.ofDocument env accounts doc = Request.ofDocument env accounts doc' := by
  have hstops := Request.ofDocument_stopsAt env accounts doc
  refine ⟨?_, fun f => ?_, fun q hq => ?_, fun doc' hsame => ofDocument_congr _ _ hsame⟩
  · rw [hstops.ok_iff, faults_eq_nil_iff h]
  · rw [hstops.error_iff, faults_eq h]
  · simp only [Request.ofDocument, bind_eq_ok_iff] at hq
    obtain ⟨_, _, _, hremote, _, hplugin, _, hmirrors, _, hproxies, _, hservers, _, _, _, _, hq⟩ := hq
    rw [← Except.ok.inj hq]
    exact ⟨readSection_eq_ok hremote, readSection_eq_ok hplugin, readSection_eq_ok hmirrors,
      readSection_eq_ok hproxies, readSection_eq_ok hservers⟩

def sampleDocument (mirrors configuration : Value) : Table :=
  [(.text "comment", .int 7),
    (.text "proxies", .list .writable [.map .writable [(.text "port", .text " 3_128 ")],
      .map .writable []]),
    (.text "mirrors", mirrors),
    (.text "servers", .list .writable [.map .writable [(.text "configuration", configuration)]])]

/-- Nothing may stand for mirrors and for a configuration, but nothing else that counts as false. Of
the two faults, that of the mirrors comes first. -/
theorem ofDocument_sampleDocument :
    Value.entriesWritable (sampleDocument .null .null) = true ∧
    WellFormed (sampleDocument .null .null) ∧
    Value.entriesWritable (sampleDocument (.int 0) (.bool false)) = true ∧
    Request.ofDocument [] (.single "/home/user") (sampleDocument (.int 0) (.bool false)) =
      .error (.noList .mirrors (.int 0)) := by
  have hgood : Value.entriesWritable (sampleDocument .null .null) = true := by decide +kernel
  have hbad : Value.entriesWritable (sampleDocument (.int 0) (.bool false)) = true := by
    decide +kernel
  refine ⟨hgood, ?_, hbad, ?_⟩
  · exact ((Request.ofDocument_spec [] (.single "/home/user") hgood).1.mp ⟨_, rfl⟩).1
  · exact ((Request.ofDocument_spec [] (.single "/home/user") hbad).2.1 _).mpr (by decide +kernel)

def homelessDocument : Table := [(.text "local_repository", .text "~a\x00b/x")]

theorem wellFormed_homelessDocument : WellFormed homelessDocument where
  sections part := by cases part <;> exact .inl rfl
  systemProperties := .inl rfl
  userProperties := .inl rfl

theorem not_forall_ofDocument_ok_iff :
    ¬ ∀ env accounts doc, Value.entriesWritable doc = true →
      ((∃ q, Request.ofDocument env accounts doc = .ok q) ↔ WellFormed doc) := by
  intro hall
  have hiff := hall [] (.single "/home/user") homelessDocument (by decide)
  obtain ⟨q, hq⟩ := hiff.mpr wellFormed_homelessDocument
  have herror : Request.ofDocument [] (.single "/home/user") homelessDocument =
      .error (.account .nullCharacter) := by rfl
  rw [hq] at herror
  cases herror

end ResolverSetup
