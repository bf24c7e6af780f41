import ResolverSetup.Session.Basic
import ResolverSetup.ConnectorProperties
import ResolverSetup.Decryption
import ResolverSetup.Procedure
import ResolverSetup.Request
import ResolverSetup.UserAgent
/-! Sessions built from requests, which get the effective repositories in return. -/
namespace ResolverSetup

structure Product where
  name : String
  version : Option String
deriving DecidableEq

structure Builder where
  product : Product
  host : Host
  tree : FileTree
  decrypter : Decrypter
  extraHandlers : List Artifact.Handler
  extraStoreTypes : List String
  listeners : List Listener
  workspaceReader : Value

inductive BuildFault
  | userAgent (f : UserAgentFault)
  | store (f : StoreFault)
  | route (f : RouteFault)
  | digits (f : DigitFault)
deriving DecidableEq

def BuildFault.message : BuildFault → String
  | userAgent f => f.message
  | store f => f.message
  | route f => f.message
  | digits f => f.message

structure Build where
  session : Session Repository
  request : Request

namespace Builder

def standard (product : Product) (host : Host) (tree : FileTree) : Builder where
  product := product
  host := host
  tree := tree
  decrypter := Decryption.passthrough
  extraHandlers := []
  extraStoreTypes := []
  listeners := []
  workspaceReader := .null

def problemEntries (d : Decryption) : List LogEntry := d.problems.map (.debug .builder)

def bindings (request : Request) (d : Decryption) : Bindings :=
  ⟨request.mirrors, .ofProxies d.proxies, .ofServers d.servers⟩

def seededProperties (userAgent : String) (request : Request) : Table :=
  Table.ofEntries
    [(PropertyKey.userAgent.toValue, .text userAgent),
      (PropertyKey.interactive.toValue, request.interactive)]

def configProperties (userAgent : String) (request : Request) (d : Decryption) : Table :=
  (((seededProperties userAgent request).putAll request.systemProperties).putAll
    request.userProperties).putAll (serverProperties d.servers)

def createdEntry (store : LocalStore) (request : Request) (remote plugin : List Repository) :
    Except DigitFault LogEntry :=
  request.offline.written.map fun offline =>
    .info .builder ("Created repository session with " ++ toString remote.length ++
      " remote and " ++ toString plugin.length ++ " plugin repositories (local repository " ++
      store.basedir.text ++ ", offline=" ++ offline ++ ")")

def updatePolicy (request : Request) : Value :=
  match UpdatePolicy.ofFlags request.noSnapshotUpdates.isTrue request.updateSnapshots.isTrue with
  | some p => .text p.text
  | none => .null

end Builder

/-- What a build asks of others, and how it words its own faults among theirs. Others may note what
they do, and may fail. -/
structure Collaborators (ε : Type) where
  fault : BuildFault → ε
  userAgent : Table → Traced ε String
  handlers : Traced ε (List Artifact.Handler)
  openStore : LocalStore → Traced ε LocalStore
  decrypt : List Proxy → List Server → Traced ε Decryption
  chainListener : Listener → Traced ε (List Listener)
  workspaceReader : Value

namespace Collaborators

def assemble (c : Collaborators ε) (request : Request) (userAgent : String)
    (handlers : List Artifact.Handler) (store : LocalStore) (d : Decryption)
    (listeners : List Listener) (remote plugin : List Repository) : Session Repository where
  cache := request.repositoryCache
  offline := request.offline
  checksumPolicy := request.checksumPolicy
  updatePolicy := Builder.updatePolicy request
  transferListener := request.transferListener
  workspaceReader :=
    if request.workspaceReader = .null then c.workspaceReader else request.workspaceReader
  errorPolicy := .ofFlags request.cacheNotFound.isTrue request.cacheTransferError.isTrue
  kinds := some (.ofHandlers handlers)
  store := some store
  bindings := Builder.bindings request d
  listeners := some listeners
  userProperties := .owned request.userProperties
  systemProperties := .owned request.systemProperties
  configProperties := .owned (Builder.configProperties userAgent request d)
  remoteRepositories := .owned remote
  pluginRepositories := .owned plugin
  extras := []
  mark := .bool false
  frozen := false

/-- Builds a session. The version of the product is looked up first, then the local store is
opened, and the repositories are bound last. The request gets them once both lists are bound; the
note that follows tells whether the session is offline, in as many digits as it takes. -/
def run (c : Collaborators ε) : Procedure Request ε (Session Repository) := do
  let request ← .current
  let userAgent ← .perform (c.userAgent request.systemProperties)
  let handlers ← .perform c.handlers
  let place : LocalStore := ⟨request.localRepository, ""⟩
  let store ← .perform (c.openStore place)
  let d ← .perform (c.decrypt request.proxies request.servers)
  .perform (Traced.notes (Builder.problemEntries d))
  let listeners ← .perform (c.chainListener .standardReporter)
  let bindings := Builder.bindings request d
  let remote ← .perform
    ((bindings.apply request.remoteRepositories).mapError fun f => c.fault (.route f))
  let plugin ← .perform
    ((bindings.apply request.pluginRepositories).mapError fun f => c.fault (.route f))
  .change fun q => { q with remoteRepositories := remote }
  .change fun q => { q with pluginRepositories := plugin }
  let entry ← .perform (.ofExcept
    ((Builder.createdEntry place request remote plugin).mapError fun f => c.fault (.digits f)))
  .perform (Traced.note entry)
  return (c.assemble request userAgent handlers store d listeners remote plugin).freeze

end Collaborators

namespace Builder

def collaborators (b : Builder) : Collaborators BuildFault where
  fault := id
  userAgent properties :=
    (UserAgent.line b.host b.product.name b.product.version properties).mapError .userAgent
  handlers := .pure (Artifact.Handler.standard ++ b.extraHandlers)
  openStore s := (LocalStore.open? b.tree b.extraStoreTypes s).mapError .store
  decrypt proxies servers := .pure (b.decrypter proxies servers)
  chainListener l := .pure (Listener.chained b.listeners l)
  workspaceReader := b.workspaceReader

def assemble (b : Builder) (request : Request) (userAgent : String) (store : LocalStore)
    (d : Decryption) (remote plugin : List Repository) : Session Repository :=
  b.collaborators.assemble request userAgent (Artifact.Handler.standard ++ b.extraHandlers) store d
    (Listener.chained b.listeners .standardReporter) remote plugin

def run (b : Builder) : Procedure Request BuildFault (Session Repository) := b.collaborators.run

def build (b : Builder) (request : Request) : Traced BuildFault Build :=
  let (x, after) := b.run request
  ⟨x.log, x.outcome.map fun s => ⟨s, after⟩⟩

end Builder
end ResolverSetup
