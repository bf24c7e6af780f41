import ResolverSetup.Mirror
import ResolverSetup.Proxy.Choice
import ResolverSetup.Keyring
/-! Mirrors, proxies and credentials, bound to lists of repositories. -/
namespace ResolverSetup

structure Bindings where
  mirrors : List Mirror
  proxies : ProxyRules
  keyring : Keyring
deriving DecidableEq

namespace Bindings

def empty : Bindings := ⟨[], [], .empty⟩

def mirrorAll (b : Bindings) : List Repository → Traced RouteFault (List Repository) :=
  Traced.each fun r => do return (← (Mirror.mirrored? b.mirrors r).mapError .url).getD r

def proxyAll (b : Bindings) : List Repository → Traced RouteFault (List Repository) :=
  Traced.each fun r => do
    match ← b.proxies.proxyFor r with
    | none => return r
    | some p => return r.withProxy (some p)

def unlockAll (b : Bindings) : List Repository → Traced RouteFault (List Repository) :=
  Traced.each fun r => do
    match ← b.keyring.credentialsFor r with
    | none => return r
    | some c => return r.withCredentials (some c)

/-- The repositories that are in effect: first mirrors, then proxies and credentials, which so
belong to the mirror's URL and id. -/
def apply (b : Bindings) (rs : List Repository) : Traced RouteFault (List Repository) := do
  let rs ← b.mirrorAll rs
  let rs ← b.proxyAll rs
  let rs ← b.unlockAll rs
  let labels := rs.map Repository.label
  Traced.note (.debug .injection ("Effective repositories: " ++ ", ".intercalate labels))
  return rs

end Bindings
end ResolverSetup
