import ResolverSetup.Mirror
import ResolverSetup.Server
import ResolverSetup.Path
/-! Build requests: the raw repository settings of one build. -/
namespace ResolverSetup

/-- Flags and handles may be any values; they are read as true or false, or passed on. -/
structure Request where
  localRepository : Path
  remoteRepositories : List Repository
  pluginRepositories : List Repository
  mirrors : List Mirror
  proxies : List Proxy
  servers : List Server
  systemProperties : Table
  userProperties : Table
  offline : Value
  interactive : Value
  checksumPolicy : Value
  noSnapshotUpdates : Value
  updateSnapshots : Value
  cacheNotFound : Value
  cacheTransferError : Value
  transferListener : Value
  workspaceReader : Value
  repositoryCache : Value
deriving DecidableEq

end ResolverSetup
