import ResolverSetup.Session.Basic
/-! What the command line prints of a session. -/
namespace ResolverSetup

namespace Repository

def summaryLine (r : Repository) : String :=
  "  " ++ r.id ++ ": " ++ r.url ++
    (match r.mirroredFrom? with
      | some s => " (mirror of " ++ s.id ++ ")"
      | none => "") ++
    (match r.proxy with
      | some p => " via " ++ p.address
      | none => "") ++
    (match r.credentials with
      | some _ => " [authenticated]"
      | none => "")

end Repository

namespace Session

def summary (s : Session Repository) : List String :=
  ["Local repository: " ++ ((s.store.map LocalStore.text).getD Value.null.display),
    "Offline: " ++ s.offline.display,
    "Update policy: " ++ (s.updatePolicy.orElse (.text "default")).display,
    "Error policy: base=" ++ toString s.errorPolicy.base ++ " fallback=" ++
      toString s.errorPolicy.fallback,
    "Remote repositories:"] ++
  s.remoteRepositories.current.map Repository.summaryLine ++
  ["Plugin repositories:"] ++
  s.pluginRepositories.current.map Repository.summaryLine

end Session
end ResolverSetup
