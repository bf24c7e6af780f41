import ResolverSetup.Session.Holding
import ResolverSetup.Bindings
import ResolverSetup.Policy
import ResolverSetup.Artifact.Kind
import ResolverSetup.LocalStore
import ResolverSetup.Listener
/-! Sessions: what all resolutions of one build share, open to changes until frozen. -/
namespace ResolverSetup

inductive PlainField
  | cache
  | offline
  | checksumPolicy
  | updatePolicy
  | transferListener
  | workspaceReader
deriving DecidableEq

inductive PropertyField
  | user
  | system
  | config
deriving DecidableEq

inductive ListField
  | remote
  | plugin
deriving DecidableEq

def PlainField.name : PlainField → String
  | cache => "cache"
  | offline => "offline"
  | checksumPolicy => "checksum_policy"
  | updatePolicy => "update_policy"
  | transferListener => "transfer_listener"
  | workspaceReader => "workspace_reader"

def PropertyField.name : PropertyField → String
  | user => "user_properties"
  | system => "system_properties"
  | config => "config_properties"

def ListField.name : ListField → String
  | remote => "remote_repositories"
  | plugin => "plugin_repositories"

/-- A session over repositories of a type `ρ`. It takes further attributes by their names. Its mark
says whether it refuses assignments; its tables refuse changes only once it is frozen. -/
structure Session (ρ : Type) where
  cache : Value
  offline : Value
  checksumPolicy : Value
  updatePolicy : Value
  transferListener : Value
  workspaceReader : Value
  errorPolicy : ErrorPolicy
  kinds : Option Artifact.KindRegistry
  store : Option LocalStore
  bindings : Bindings
  listeners : Option (List Listener)
  userProperties : Holding Table
  systemProperties : Holding Table
  configProperties : Holding Table
  remoteRepositories : Holding (List ρ)
  pluginRepositories : Holding (List ρ)
  extras : Association String Value
  mark : Value
  frozen : Bool

inductive SessionFault
  | readOnly (field : String)
  | derived (name : String)
  | closedTable
deriving DecidableEq

def SessionFault.message : SessionFault → String
  | readOnly field => "Session is read-only, cannot set '" ++ field ++ "'"
  | derived name =>
    "property " ++ Text.quoted name ++ " of 'RepositorySession' object has no setter"
  | closedTable => "read-only"

def derivedAttributes : List String := ["read_only", "local_repository"]

def markName : String := "_read_only"

inductive Assignment (ρ : Type)
  | plain (f : PlainField) (v : Value)
  | properties (f : PropertyField) (t : Table)
  | repositories (f : ListField) (rs : List ρ)
  | other (name : String) (v : Value)

def Assignment.name : Assignment ρ → String
  | plain f _ => f.name
  | properties f _ => f.name
  | repositories f _ => f.name
  | other name _ => name

namespace Session

def fresh : Session ρ where
  cache := .null
  offline := .bool false
  checksumPolicy := .null
  updatePolicy := .null
  transferListener := .null
  workspaceReader := .null
  errorPolicy := .standard
  kinds := none
  store := none
  bindings := .empty
  listeners := none
  userProperties := .shared []
  systemProperties := .shared []
  configProperties := .shared []
  remoteRepositories := .shared []
  pluginRepositories := .shared []
  extras := []
  mark := .bool false
  frozen := false

def plain (s : Session ρ) : PlainField → Value
  | .cache => s.cache
  | .offline => s.offline
  | .checksumPolicy => s.checksumPolicy
  | .updatePolicy => s.updatePolicy
  | .transferListener => s.transferListener
  | .workspaceReader => s.workspaceReader

def setPlain (s : Session ρ) (v : Value) : PlainField → Session ρ
  | .cache => { s with cache := v }
  | .offline => { s with offline := v }
  | .checksumPolicy => { s with checksumPolicy := v }
  | .updatePolicy => { s with updatePolicy := v }
  | .transferListener => { s with transferListener := v }
  | .workspaceReader => { s with workspaceReader := v }

def properties (s : Session ρ) : PropertyField → Holding Table
  | .user => s.userProperties
  | .system => s.systemProperties
  | .config => s.configProperties

def onProperties (s : Session ρ) (g : Holding Table → Holding Table) : PropertyField → Session ρ
  | .user => { s with userProperties := g s.userProperties }
  | .system => { s with systemProperties := g s.systemProperties }
  | .config => { s with configProperties := g s.configProperties }

def repositories (s : Session ρ) : ListField → Holding (List ρ)
  | .remote => s.remoteRepositories
  | .plugin => s.pluginRepositories

def onRepositories (s : Session ρ) (g : Holding (List ρ) → Holding (List ρ)) :
    ListField → Session ρ
  | .remote => { s with remoteRepositories := g s.remoteRepositories }
  | .plugin => { s with pluginRepositories := g s.pluginRepositories }

def isReadOnly (s : Session ρ) : Bool := s.mark.isTrue

def setOther (s : Session ρ) (name : String) (v : Value) : Except SessionFault (Session ρ) :=
  if derivedAttributes.contains name then .error (.derived name)
  else if name = markName then .ok { s with mark := v }
  else .ok { s with extras := s.extras.put name v }

def assign (s : Session ρ) (a : Assignment ρ) : Except SessionFault (Session ρ) :=
  if s.isReadOnly then .error (.readOnly a.name)
  else match a with
    | .plain f v => .ok (s.setPlain v f)
    | .properties f t => .ok (s.onProperties (·.replace t) f)
    | .repositories f rs => .ok (s.onRepositories (·.replace rs) f)
    | .other name v => s.setOther name v

def putProperty (s : Session ρ) (f : PropertyField) (k v : Value) :
    Except SessionFault (Session ρ) :=
  if s.frozen then .error .closedTable
  else .ok (s.onProperties (·.change (·.put k v)) f)

def putSource (s : Session ρ) (f : PropertyField) (k v : Value) : Session ρ :=
  s.onProperties (·.changeSource (·.put k v)) f

def appendSource (s : Session ρ) (f : ListField) (r : ρ) : Session ρ :=
  s.onRepositories (·.changeSource (· ++ [r])) f

/-- Closes a session to changes; its tables and lists become its own. A session that refuses
assignments already stays as it is. -/
def freeze (s : Session ρ) : Session ρ :=
  if s.isReadOnly then s
  else { s with
    userProperties := s.userProperties.detach
    systemProperties := s.systemProperties.detach
    configProperties := s.configProperties.detach
    remoteRepositories := s.remoteRepositories.detach
    pluginRepositories := s.pluginRepositories.detach
    mark := .bool true
    frozen := true }

end Session
end ResolverSetup
