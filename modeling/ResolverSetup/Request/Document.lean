import ResolverSetup.Request
/-! Requests read from documents, with the first fault of a document that is no request. -/
namespace ResolverSetup

inductive MappingPlace
  | repository
  | mirror
  | proxy
  | server
  | configuration (id : String)
  | systemProperties
  | userProperties
deriving DecidableEq

inductive Section
  | remoteRepositories
  | pluginRepositories
  | mirrors
  | proxies
  | servers
deriving DecidableEq

inductive DocumentFault
  | noMapping (place : MappingPlace) (found : Value)
  | noList (part : Section) (found : Value)
  | invalidPort (found : Value)
  | infinitePort
  | digits (f : DigitFault)
  | account (f : AccountFault)
deriving DecidableEq

def MappingPlace.text : MappingPlace → String
  | repository => "repository entry"
  | mirror => "mirror entry"
  | proxy => "proxy entry"
  | server => "server entry"
  | configuration id => "configuration of server " ++ id
  | systemProperties => "system_properties"
  | userProperties => "user_properties"

def Section.key : Section → String
  | remoteRepositories => "remote_repositories"
  | pluginRepositories => "plugin_repositories"
  | mirrors => "mirrors"
  | proxies => "proxies"
  | servers => "servers"

def DocumentFault.message : DocumentFault → String
  | noMapping place found =>
    "Invalid " ++ place.text ++ ": expected a mapping, got " ++ found.kindName
  | noList part found => "Invalid " ++ part.key ++ ": expected a list, got " ++ found.kindName
  | invalidPort found => "Invalid proxy port: " ++ found.literal
  | infinitePort => "cannot convert float infinity to integer"
  | digits f => f.message
  | account f => f.message

namespace Document

def mapping (place : MappingPlace) : Value → Except DocumentFault Table
  | .map .writable t => .ok t
  | v => .error (.noMapping place v)

def entries (doc : Table) (part : Section) : Except DocumentFault (List Value) :=
  match doc.field part.key with
  | .null => .ok []
  | .list .writable xs => .ok xs
  | v => .error (.noList part v)

def textOf (v : Value) : Except DocumentFault String := v.written.mapError .digits

def textOr (t : Table) (name absent : String) : Except DocumentFault String :=
  match t.get? (.text name) with
  | none => .ok absent
  | some v => textOf v

def optionalText (t : Table) (name : String) : Except DocumentFault (Option String) :=
  match t.field name with
  | .null => .ok none
  | v => (textOf v).map some

def secret (t : Table) (name : String) : Except DocumentFault (Option Value) :=
  (optionalText t name).map (·.map .text)

def fieldOr (t : Table) (name : String) (absent : Value) : Value :=
  (t.get? (.text name)).getD absent

/-- The fault of a value that is no port, which shows the value. -/
def notAPort (v : Value) : DocumentFault :=
  if v.isWritable then .invalidPort v else .digits .unwritable

def port : Value → Except DocumentFault Int
  | .int n => .ok n
  | .bool b => .ok (if b then 1 else 0)
  | .real (.infinite _) => .error .infinitePort
  | .real x => match x.truncate? with
    | some n => .ok n
    | none => .error (.invalidPort (.real x))
  | .text s => match readInt? s.toList with
    | some n => .ok n
    | none => .error (.invalidPort (.text s))
  | .bytes bs => match (asciiText? bs).bind readInt? with
    | some n => .ok n
    | none => .error (.invalidPort (.bytes bs))
  | v => .error (notAPort v)

def layout (t : Table) : Value := (t.field "layout").orElse defaultLayout

def repository (v : Value) : Except DocumentFault Repository := do
  let t ← mapping .repository v
  return .declared (← textOr t "id" "") (← textOr t "url" "") (layout t)

def mirror (v : Value) : Except DocumentFault Mirror := do
  let t ← mapping .mirror v
  return {
    id := ← textOr t "id" ""
    url := ← textOr t "url" ""
    mirrorOf := ← textOr t "mirror_of" ""
    layout := layout t
    mirrorOfLayouts := ← optionalText t "mirror_of_layouts"
    blocked := (t.field "blocked").isTrue }

def proxy (v : Value) : Except DocumentFault Proxy := do
  let t ← mapping .proxy v
  return {
    protocol := ← textOr t "protocol" "http"
    host := ← textOr t "host" ""
    port := ← port (fieldOr t "port" (.int Proxy.defaultPort))
    username := ← optionalText t "username"
    password := ← secret t "password"
    nonProxyHosts := ← optionalText t "non_proxy_hosts"
    id := ← optionalText t "id" }

def configuration (id : String) : Value → Except DocumentFault (Option Table)
  | .null => .ok none
  | v => (mapping (.configuration id) v).map some

def server (v : Value) : Except DocumentFault Server := do
  let t ← mapping .server v
  let id ← textOr t "id" ""
  let conf ← configuration id (t.field "configuration")
  return {
    id := id
    username := ← optionalText t "username"
    password := ← secret t "password"
    privateKey := ← optionalText t "private_key"
    passphrase := ← secret t "passphrase"
    configuration := conf
    filePermissions := ← optionalText t "file_permissions"
    directoryPermissions := ← optionalText t "directory_permissions" }

def readAll (read : Value → Except DocumentFault α) : List Value → Except DocumentFault (List α)
  | [] => .ok []
  | v :: vs => do
    let x ← read v
    let xs ← readAll read vs
    return x :: xs

def readSection (doc : Table) (part : Section) (read : Value → Except DocumentFault α) :
    Except DocumentFault (List α) := do
  readAll read (← entries doc part)

def properties (doc : Table) (name : String) (place : MappingPlace) :
    Except DocumentFault Table :=
  mapping place ((doc.field name).orElse (.map .writable []))

def defaultLocalRepository : Value := .text "~/.m2/repository"

def localRepository (env : Environment) (accounts : Accounts) (doc : Table) :
    Except DocumentFault Path := do
  let s ← textOf ((doc.field "local_repository").orElse defaultLocalRepository)
  let full ← (Path.expandHome env accounts s).mapError .account
  return .ofText full

end Document

/-- Reads a request. The local repository comes first, then the sections in a fixed order, and the
properties after them. -/
def Request.ofDocument (env : Environment) (accounts : Accounts) (doc : Table) :
    Except DocumentFault Request := do
  let store ← Document.localRepository env accounts doc
  let remote ← Document.readSection doc .remoteRepositories Document.repository
  let plugin ← Document.readSection doc .pluginRepositories Document.repository
  let mirrors ← Document.readSection doc .mirrors Document.mirror
  let proxies ← Document.readSection doc .proxies Document.proxy
  let servers ← Document.readSection doc .servers Document.server
  let system ← Document.properties doc "system_properties" .systemProperties
  let user ← Document.properties doc "user_properties" .userProperties
  return {
    localRepository := store
    remoteRepositories := remote
    pluginRepositories := plugin
    mirrors := mirrors
    proxies := proxies
    servers := servers
    systemProperties := system
    userProperties := user
    offline := Document.fieldOr doc "offline" (.bool false)
    interactive := Document.fieldOr doc "interactive" (.bool true)
    checksumPolicy := doc.field "checksum_policy"
    noSnapshotUpdates := Document.fieldOr doc "no_snapshot_updates" (.bool false)
    updateSnapshots := Document.fieldOr doc "update_snapshots" (.bool false)
    cacheNotFound := Document.fieldOr doc "cache_not_found" (.bool true)
    cacheTransferError := Document.fieldOr doc "cache_transfer_error" (.bool false)
    transferListener := .null
    workspaceReader := .null
    repositoryCache := .null }

end ResolverSetup
