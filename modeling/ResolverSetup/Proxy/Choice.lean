import ResolverSetup.Proxy.HostPattern
import ResolverSetup.Repository
import ResolverSetup.Log
/-! Which proxy serves a repository. -/
namespace ResolverSetup

inductive RouteFault
  | url (f : UrlFault)
  | digits (f : DigitFault)
deriving DecidableEq

def RouteFault.message : RouteFault → String
  | url f => f.message
  | digits f => f.message

structure ProxyRule where
  proxy : Proxy
  excluded : List HostPattern
deriving DecidableEq

namespace ProxyRule

def excludes (r : ProxyRule) (host : String) : Bool := r.excluded.any (·.covers host.toList)

def serves (r : ProxyRule) (protocol host : Option String) : Bool :=
  Text.lowerText r.proxy.protocol == Text.lowerText (protocol.getD "") &&
    !r.excludes (host.getD "")

def ofProxy (p : Proxy) : ProxyRule := ⟨p, HostPattern.listOf p.nonProxyHosts⟩

end ProxyRule

abbrev ProxyRules := List ProxyRule

namespace ProxyRules

def add (rules : ProxyRules) (p : Proxy) (nonProxyHosts : Option String) : ProxyRules :=
  rules ++ [⟨p, HostPattern.listOf nonProxyHosts⟩]

def ofProxies (ps : List Proxy) : ProxyRules :=
  ps.foldl (fun rules p => rules.add p p.nonProxyHosts) []

def select (rules : ProxyRules) (protocol host : Option String) : Option Proxy :=
  (rules.find? (·.serves protocol host)).map (·.proxy)

def usedEntry (r : Repository) (p : Proxy) : Except RouteFault LogEntry :=
  if isWritable p.port then
    .ok (.debug .proxies ("Repository " ++ r.id ++ " uses proxy " ++ p.address))
  else .error (.digits .unwritable)

def proxyFor (rules : ProxyRules) (r : Repository) : Traced RouteFault (Option Proxy) := do
  let url ← Traced.ofExcept ((Url.ofText r.url).mapError .url)
  match select rules (some url.scheme) (some url.host) with
  | none => return none
  | some p =>
    Traced.note (← .ofExcept (usedEntry r p))
    return some p

end ProxyRules
end ResolverSetup
