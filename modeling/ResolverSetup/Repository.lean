import ResolverSetup.Proxy
import ResolverSetup.Url
/-! Remote repositories and the endpoints that they stand for. -/
namespace ResolverSetup

def defaultLayout : Value := .text "default"

structure Endpoint where
  id : String
  url : String
  layout : Value
  proxy : Option Proxy
  credentials : Option Credentials
  blocked : Bool
deriving DecidableEq

/-- A repository is an endpoint; where it replaces others, those are its origins, the nearest
first. -/
structure Repository extends Endpoint where
  origins : List Endpoint
deriving DecidableEq

def Endpoint.agrees (e f : Endpoint) : Bool :=
  e.id == f.id && e.url == f.url && e.layout.agrees f.layout &&
    bothAgree Proxy.agrees e.proxy f.proxy &&
    bothAgree Credentials.agrees e.credentials f.credentials && e.blocked == f.blocked

namespace Repository

def declared (id url : String) (layout : Value) : Repository :=
  ⟨⟨id, url, layout, none, none, false⟩, []⟩

def mirroredFrom? (r : Repository) : Option Repository :=
  match r.origins with
  | [] => none
  | e :: es => some ⟨e, es⟩

def chain (r : Repository) : List Endpoint := r.toEndpoint :: r.origins

def agrees (r s : Repository) : Bool :=
  r.chain.length == s.chain.length && (r.chain.zip s.chain).all fun (e, f) => e.agrees f

def withProxy (r : Repository) (p : Option Proxy) : Repository :=
  ⟨{ r.toEndpoint with proxy := p }, r.origins⟩

def withCredentials (r : Repository) (c : Option Credentials) : Repository :=
  ⟨{ r.toEndpoint with credentials := c }, r.origins⟩

theorem mirroredFrom?_eq_none_iff (r : Repository) : r.mirroredFrom? = none ↔ r.origins = [] := by
  rw [mirroredFrom?]
  cases r.origins <;> simp

def label (r : Repository) : String := r.id ++ " (" ++ r.url ++ ")"

end Repository

def Endpoint.textOver (e : Endpoint) (behind : Except DigitFault String) :
    Except DigitFault String := do
  let layout ← e.layout.spelled
  let behind ← behind
  let proxy ← (e.proxy.map Proxy.text).getD Value.null.spelled
  return recordText "RemoteRepository"
    [("id", Text.quoted e.id), ("url", Text.quoted e.url), ("layout", layout),
      ("mirrored_from", behind), ("proxy", proxy),
      ("authentication", (e.credentials.map Credentials.text).getD Value.null.literal),
      ("blocked", boolText e.blocked)]

def Repository.text (r : Repository) : Except DigitFault String :=
  r.chain.foldr Endpoint.textOver Value.null.spelled

end ResolverSetup
