import ResolverSetup.Repository
import ResolverSetup.Mirror.Pattern
import ResolverSetup.Log
/-! Mirrors: endpoints that take the place of others. -/
namespace ResolverSetup

structure Mirror where
  id : String
  url : String
  mirrorOf : String
  layout : Value
  mirrorOfLayouts : Option String
  blocked : Bool
deriving DecidableEq

def Mirror.agrees (m n : Mirror) : Bool :=
  { m with layout := .null } == { n with layout := .null } && m.layout.agrees n.layout

def Mirror.text (m : Mirror) : Except DigitFault String := do
  let layout ← m.layout.spelled
  return recordText "Mirror"
    [("id", Text.quoted m.id), ("url", Text.quoted m.url), ("mirror_of", Text.quoted m.mirrorOf),
      ("layout", layout), ("mirror_of_layouts", textLiteral m.mirrorOfLayouts),
      ("blocked", boolText m.blocked)]

namespace Mirror

/-- Goes through the mirrors with the best one so far and its rank. A later mirror must rank
higher, and nothing ranks above an exact match. -/
def bestOver (rank : Mirror → Rank) (fits : Mirror → Bool) (found : Option Mirror) (best : Rank) :
    List Mirror → Option Mirror
  | [] => found
  | m :: ms =>
    if (rank m).toNat ≤ best.toNat || !fits m then bestOver rank fits found best ms
    else if rank m = .exact then some m
    else bestOver rank fits (some m) (rank m) ms

def best (mirrors : List Mirror) (id : String) (layout : Value) (external : Bool) : Option Mirror :=
  bestOver (fun m => IdPattern.rank (some m.mirrorOf) id external)
    (fun m => LayoutPattern.fits m.mirrorOfLayouts layout) none .unmatched mirrors

def choose (mirrors : List Mirror) (id : String) (layout : Value) (url : Option String) :
    Except UrlFault (Option Mirror) :=
  if id.isEmpty then .ok none
  else (Url.isExternalText url).map (best mirrors id layout)

def standIn (m : Mirror) (r : Repository) : Repository :=
  ⟨⟨m.id, m.url, m.layout.orElse r.layout, none, none, m.blocked⟩, r.chain⟩

def mirrored? (mirrors : List Mirror) (r : Repository) : Traced UrlFault (Option Repository) := do
  match ← Traced.ofExcept (choose mirrors r.id r.layout (some r.url)) with
  | none => return none
  | some m =>
    Traced.note (.debug .mirrors ("Repository " ++ r.id ++ " is mirrored by " ++ m.id))
    return some (m.standIn r)

end Mirror
end ResolverSetup
