import ResolverSetup.Credentials
/-! Network proxies. -/
namespace ResolverSetup

structure Proxy where
  protocol : String
  host : String
  port : Int
  username : Option String
  password : Option Value
  nonProxyHosts : Option String
  id : Option String
deriving DecidableEq

namespace Proxy

def defaultPort : Int := 8080

def credentials (p : Proxy) : Option Credentials :=
  Credentials.ofParts? p.username p.password none none

def address (p : Proxy) : String := p.host ++ ":" ++ toString p.port

def label (p : Proxy) : String :=
  match p.id with
  | some id => if id.isEmpty then p.host else id
  | none => p.host

def agrees (p q : Proxy) : Bool :=
  { p with password := none } == { q with password := none } &&
    bothAgree Value.agrees p.password q.password

def text (p : Proxy) : Except DigitFault String := do
  let port ← (Value.int p.port).spelled
  return recordText "Proxy"
    [("protocol", Text.quoted p.protocol), ("host", Text.quoted p.host), ("port", port),
      ("username", textLiteral p.username), ("non_proxy_hosts", textLiteral p.nonProxyHosts),
      ("id", textLiteral p.id)]

end Proxy
end ResolverSetup
