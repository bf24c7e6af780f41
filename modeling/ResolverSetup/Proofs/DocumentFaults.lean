import ResolverSetup.Request.Document
import ResolverSetup.Proofs.IntegerLiteral
import ResolverSetup.Proofs.PathText
/-! The faults of a document: all of them, in the order in which its parts are read. Reading a
request stops at the first one. -/
namespace ResolverSetup

def fault? : Except ε α → Option ε
  | .error f => some f
  | .ok _ => none

theorem fault?_eq_some_iff (x : Except ε α) (f : ε) : fault? x = some f ↔ x = .error f := by
  cases x <;> simp [fault?]

theorem fault?_eq_none_iff (x : Except ε α) : fault? x = none ↔ ∃ a, x = .ok a := by
  cases x <;> simp [fault?]

/-- A computation fails with the first of some faults, and succeeds where there is none. -/
def StopsAt (x : Except ε α) (fs : List ε) : Prop := fault? x = fs.head?

namespace StopsAt
variable {ε α β : Type} {x : Except ε α} {fs gs : List ε}

theorem ok (a : α) : StopsAt (.ok a : Except ε α) [] := rfl

theorem map (h : StopsAt x fs) (g : α → β) : StopsAt (x.map g) fs := by
  rw [StopsAt, ← h]
  cases x <;> rfl

theorem bind {g : α → Except ε β} (hx : StopsAt x fs)
    (hg : ∀ a, x = .ok a → StopsAt (g a) gs) : StopsAt (x >>= g) (fs ++ gs) := by
  cases x with
  | error f =>
    obtain ⟨fs, rfl⟩ := List.head?_eq_some_iff.mp hx.symm
    rfl
  | ok a =>
    rw [List.head?_eq_none_iff.mp hx.symm]
    exact hg a rfl

/-- One part behind another. -/
theorem next {rest : List (List ε)} {g : α → Except ε β} (hx : StopsAt x fs)
    (hg : ∀ a, x = .ok a → StopsAt (g a) rest.flatten) :
    StopsAt (x >>= g) (fs :: rest).flatten :=
  hx.bind hg

theorem error_iff (h : StopsAt x fs) (f : ε) : x = .error f ↔ fs.head? = some f := by
  rw [← fault?_eq_some_iff, h]

theorem ok_iff (h : StopsAt x fs) : (∃ a, x = .ok a) ↔ fs = [] := by
  rw [← fault?_eq_none_iff, h, List.head?_eq_none_iff]

end StopsAt

def OctetLiteral (bs : List UInt8) (n : Int) : Prop :=
  bs.all (· < 0x80) = true ∧ IntegerLiteral (bs.map fun b => Char.ofNat b.toNat) n

theorem readOctets_eq_some_iff (bs : List UInt8) (n : Int) :
    (asciiText? bs).bind readInt? = some n ↔ OctetLiteral bs n := by
  rw [asciiText?, OctetLiteral, ← readInt?_eq_some_iff]
  cases bs.all (· < 0x80) <;> simp

instance (s : List Char) : Decidable (∃ n, IntegerLiteral s n) :=
  decidable_of_iff ((readInt? s).isSome = true) (by
    rw [Option.isSome_iff_exists]
    exact exists_congr fun n => readInt?_eq_some_iff s n)

instance (bs : List UInt8) : Decidable (∃ n, OctetLiteral bs n) :=
  decidable_of_iff (bs.all (· < 0x80) = true ∧ ∃ n, IntegerLiteral _ n) exists_and_left.symm

namespace Document

def textFaults (v : Value) : List DocumentFault :=
  if v.isWritable then [] else [.digits .unwritable]

def mappingFaults (place : MappingPlace) (inside : Table → List DocumentFault) :
    Value → List DocumentFault
  | .map .writable t => inside t
  | v => [.noMapping place v]

def portFaults : Value → List DocumentFault
  | .int _ | .bool _ | .real (.finite _ _) => []
  | .real (.infinite _) => [.infinitePort]
  | .real (.nan mark) => [.invalidPort (.real (.nan mark))]
  | .text s => if ∃ n, IntegerLiteral s.toList n then [] else [.invalidPort (.text s)]
  | .bytes bs => if ∃ n, OctetLiteral bs n then [] else [.invalidPort (.bytes bs)]
  | v => [notAPort v]

def repositoryFaults (t : Table) : List DocumentFault :=
  [textFaults (t.field "id"), textFaults (t.field "url")].flatten

def mirrorFaults (t : Table) : List DocumentFault :=
  [textFaults (t.field "id"), textFaults (t.field "url"), textFaults (t.field "mirror_of"),
    textFaults (t.field "mirror_of_layouts")].flatten

def proxyFaults (t : Table) : List DocumentFault :=
  [textFaults (t.field "protocol"), textFaults (t.field "host"),
    portFaults (fieldOr t "port" (.int Proxy.defaultPort)), textFaults (t.field "username"),
    textFaults (t.field "password"), textFaults (t.field "non_proxy_hosts"),
    textFaults (t.field "id")].flatten

def serverId (t : Table) : String := ((t.get? (.text "id")).map Value.display).getD ""

def configurationFaults (t : Table) : List DocumentFault :=
  match t.field "configuration" with
  | .null => []
  | v => mappingFaults (.configuration (serverId t)) (fun _ => []) v

def serverFaults (t : Table) : List DocumentFault :=
  [textFaults (t.field "id"), configurationFaults t, textFaults (t.field "username"),
    textFaults (t.field "password"), textFaults (t.field "private_key"),
    textFaults (t.field "passphrase"), textFaults (t.field "file_permissions"),
    textFaults (t.field "directory_permissions")].flatten

def entryFaults : Section → Value → List DocumentFault
  | .remoteRepositories | .pluginRepositories => mappingFaults .repository repositoryFaults
  | .mirrors => mappingFaults .mirror mirrorFaults
  | .proxies => mappingFaults .proxy proxyFaults
  | .servers => mappingFaults .server serverFaults

def sectionFaults (doc : Table) (part : Section) : List DocumentFault :=
  match doc.field part.key with
  | .null => []
  | .list .writable vs => vs.flatMap (entryFaults part)
  | v => [.noList part v]

def propertyFaults (doc : Table) (name : String) (place : MappingPlace) : List DocumentFault :=
  if (doc.field name).isTrue then mappingFaults place (fun _ => []) (doc.field name) else []

def localRepositoryValue (doc : Table) : Value :=
  (doc.field "local_repository").orElse defaultLocalRepository

def accountFaults (path : String) : List DocumentFault :=
  if Path.NullNamed path then [.account .nullCharacter] else []

def localRepositoryFaults (doc : Table) : List DocumentFault :=
  textFaults (localRepositoryValue doc) ++ accountFaults (localRepositoryValue doc).display

def faults (doc : Table) : List DocumentFault :=
  [localRepositoryFaults doc, sectionFaults doc .remoteRepositories,
    sectionFaults doc .pluginRepositories, sectionFaults doc .mirrors, sectionFaults doc .proxies,
    sectionFaults doc .servers, propertyFaults doc "system_properties" .systemProperties,
    propertyFaults doc "user_properties" .userProperties].flatten

/-! Each reader stops at the first fault of what it reads. -/

theorem textOf_stopsAt (v : Value) : StopsAt (textOf v) (textFaults v) := by
  rw [textOf, textFaults, Value.written]
  split <;> rfl

theorem textOr_stopsAt (t : Table) (name absent : String) :
    StopsAt (textOr t name absent) (textFaults (t.field name)) := by
  rw [textOr, Table.field]
  cases t.get? (.text name) with
  | none => rfl
  | some v => exact textOf_stopsAt v

theorem optionalText_stopsAt (t : Table) (name : String) :
    StopsAt (optionalText t name) (textFaults (t.field name)) := by
  rw [optionalText]
  split
  next h => rw [h]; rfl
  next => exact (textOf_stopsAt _).map some

theorem secret_stopsAt (t : Table) (name : String) :
    StopsAt (secret t name) (textFaults (t.field name)) :=
  (optionalText_stopsAt t name).map _

theorem mapping_bind_stopsAt {β : Type} {place : MappingPlace} {inside : Table → List DocumentFault}
    {g : Table → Except DocumentFault β} (hg : ∀ t, StopsAt (g t) (inside t)) (v : Value) :
    StopsAt (mapping place v >>= g) (mappingFaults place inside v) := by
  match v with
  | .map .writable t => exact hg t
  | .map .readOnly _ | .null | .bool _ | .int _ | .real _ | .text _ | .bytes _ | .moment _
  | .list _ _ | .set _ _ => rfl

theorem port_stopsAt (v : Value) : StopsAt (port v) (portFaults v) := by
  cases v with
  | real x => cases x <;> rfl
  | text s =>
    rw [port, portFaults]
    cases h : readInt? s.toList with
    | none =>
      have hno : ¬ ∃ n, IntegerLiteral s.toList n := by
        simp [← readInt?_eq_some_iff, h]
      rw [if_neg hno]
      rfl
    | some n =>
      rw [if_pos ⟨n, (readInt?_eq_some_iff _ _).mp h⟩]
      rfl
  | bytes bs =>
    rw [port, portFaults]
    cases h : (asciiText? bs).bind readInt? with
    | none =>
      have hno : ¬ ∃ n, OctetLiteral bs n := by
        simp [← readOctets_eq_some_iff, h]
      rw [if_neg hno]
      rfl
    | some n =>
      rw [if_pos ⟨n, (readOctets_eq_some_iff _ _).mp h⟩]
      rfl
  | _ => rfl

theorem repository_stopsAt (v : Value) :
    StopsAt (repository v) (mappingFaults .repository repositoryFaults v) := by
  refine mapping_bind_stopsAt (fun t => ?_) v
  refine (textOr_stopsAt t "id" "").next fun id _ => ?_
  refine (textOr_stopsAt t "url" "").next fun url _ => ?_
  exact .ok _

theorem mirror_stopsAt (v : Value) : StopsAt (mirror v) (entryFaults .mirrors v) := by
  refine mapping_bind_stopsAt (fun t => ?_) v
  refine (textOr_stopsAt t "id" "").next fun id _ => ?_
  refine (textOr_stopsAt t "url" "").next fun url _ => ?_
  refine (textOr_stopsAt t "mirror_of" "").next fun mirrorOf _ => ?_
  refine (optionalText_stopsAt t "mirror_of_layouts").next fun layouts _ => ?_
  exact .ok _

theorem proxy_stopsAt (v : Value) : StopsAt (proxy v) (entryFaults .proxies v) := by
  refine mapping_bind_stopsAt (fun t => ?_) v
  refine (textOr_stopsAt t "protocol" "http").next fun protocol _ => ?_
  refine (textOr_stopsAt t "host" "").next fun host _ => ?_
  refine (port_stopsAt _).next fun port _ => ?_
  refine (optionalText_stopsAt t "username").next fun username _ => ?_
  refine (secret_stopsAt t "password").next fun password _ => ?_
  refine (optionalText_stopsAt t "non_proxy_hosts").next fun hosts _ => ?_
  refine (optionalText_stopsAt t "id").next fun id _ => ?_
  exact .ok _

theorem eq_display_of_textOf {v : Value} {s : String} (h : textOf v = .ok s) : s = v.display := by
  rw [textOf, mapError_eq_ok_iff, Value.written] at h
  split at h
  · exact (Except.ok.inj h).symm
  · cases h

theorem serverId_eq {t : Table} {id : String} (h : textOr t "id" "" = .ok id) : serverId t = id := by
  rw [textOr] at h
  rw [serverId]
  cases hid : t.get? (.text "id") with
  | none =>
    rw [hid] at h
    exact Except.ok.inj h
  | some v =>
    rw [hid] at h
    exact (eq_display_of_textOf h).symm

theorem configuration_stopsAt (t : Table) :
    StopsAt (configuration (serverId t) (t.field "configuration")) (configurationFaults t) := by
  rw [configurationFaults]
  cases t.field "configuration" with
  | map access conf => cases access <;> rfl
  | _ => rfl

theorem server_stopsAt (v : Value) : StopsAt (server v) (entryFaults .servers v) := by
  refine mapping_bind_stopsAt (fun t => ?_) v
  refine (textOr_stopsAt t "id" "").next fun id hid => ?_
  rw [← serverId_eq hid]
  refine (configuration_stopsAt t).next fun conf _ => ?_
  refine (optionalText_stopsAt t "username").next fun username _ => ?_
  refine (secret_stopsAt t "password").next fun password _ => ?_
  refine (optionalText_stopsAt t "private_key").next fun key _ => ?_
  refine (secret_stopsAt t "passphrase").next fun passphrase _ => ?_
  refine (optionalText_stopsAt t "file_permissions").next fun files _ => ?_
  refine (optionalText_stopsAt t "directory_permissions").next fun directories _ => ?_
  exact .ok _

theorem readAll_stopsAt {α : Type} {read : Value → Except DocumentFault α}
    {faultsOf : Value → List DocumentFault} (h : ∀ v, StopsAt (read v) (faultsOf v))
    (vs : List Value) : StopsAt (readAll read vs) (vs.flatMap faultsOf) := by
  induction vs with
  | nil => rfl
  | cons v vs ih =>
    refine (h v).bind fun x _ => ?_
    exact ih.map (x :: ·)

theorem readSection_stopsAt {α : Type} (doc : Table) (part : Section)
    {read : Value → Except DocumentFault α} (h : ∀ v, StopsAt (read v) (entryFaults part v)) :
    StopsAt (readSection doc part read) (sectionFaults doc part) := by
  rw [readSection, entries, sectionFaults]
  match doc.field part.key with
  | .list .writable vs => exact readAll_stopsAt h vs
  | .list .readOnly _ | .null | .bool _ | .int _ | .real _ | .text _ | .bytes _ | .moment _
  | .map _ _ | .set _ _ => rfl

theorem properties_stopsAt (doc : Table) (name : String) (place : MappingPlace) :
    StopsAt (properties doc name place) (propertyFaults doc name place) := by
  rw [properties, propertyFaults, Value.orElse]
  split
  · cases doc.field name with
    | map access t => cases access <;> rfl
    | _ => rfl
  · rfl

theorem expandHome_stopsAt (env : Environment) (accounts : Accounts) (s : String) :
    StopsAt ((Path.expandHome env accounts s).mapError .account) (accountFaults s) := by
  rw [accountFaults]
  cases h : Path.expandHome env accounts s with
  | error f =>
    rw [if_pos ((Path.expandHome_error_iff _ _ _ _).mp h)]
    rfl
  | ok full =>
    have hnamed : ¬ Path.NullNamed s := fun hs => by
      rw [← Path.expandHome_error_iff env accounts s .nullCharacter, h] at hs
      cases hs
    rw [if_neg hnamed]
    rfl

theorem localRepository_stopsAt (env : Environment) (accounts : Accounts) (doc : Table) :
    StopsAt (localRepository env accounts doc) (localRepositoryFaults doc) := by
  refine (textOf_stopsAt (localRepositoryValue doc)).bind fun s hs => ?_
  rw [eq_display_of_textOf hs]
  exact (expandHome_stopsAt env accounts _).map _

end Document

open Document in
theorem Request.ofDocument_stopsAt (env : Environment) (accounts : Accounts) (doc : Table) :
    StopsAt (Request.ofDocument env accounts doc) (faults doc) := by
  refine (localRepository_stopsAt env accounts doc).next fun store _ => ?_
  refine (readSection_stopsAt doc _ repository_stopsAt).next fun remote _ => ?_
  refine (readSection_stopsAt doc _ repository_stopsAt).next fun plugin _ => ?_
  refine (readSection_stopsAt doc _ mirror_stopsAt).next fun mirrors _ => ?_
  refine (readSection_stopsAt doc _ proxy_stopsAt).next fun proxies _ => ?_
  refine (readSection_stopsAt doc _ server_stopsAt).next fun servers _ => ?_
  refine (properties_stopsAt doc _ _).next fun system _ => ?_
  refine (properties_stopsAt doc _ _).next fun user _ => ?_
  exact .ok _

end ResolverSetup
