import ResolverSetup.Path
/-! Places of files, told by the names that lead to them from a known directory. -/
namespace ResolverSetup

/-- Where the names of a place begin: at the root, or so many levels above the working
directory. -/
inductive Anchor
  | root
  | above (levels : Nat)
deriving DecidableEq

structure Place where
  anchor : Anchor
  names : List String
deriving DecidableEq

namespace Place

def here : Place := ⟨.above 0, []⟩

def start (p : Path) : Place := ⟨if p.isAbsolute then .root else .above 0, []⟩

def isBelowHere (p : Place) : Bool := p.anchor == .above 0

def child (p : Place) (name : String) : Place := ⟨p.anchor, p.names ++ [name]⟩

def parent (p : Place) : Place :=
  match p.anchor, p.names with
  | .root, [] => p
  | .above k, [] => ⟨.above (k + 1), []⟩
  | a, ns => ⟨a, ns.dropLast⟩

def step (p : Place) (name : String) : Place := if name = ".." then p.parent else p.child name

def ofPath (p : Path) : Place := p.names.foldl step (start p)

def withEnding (p : Place) (ending : String) : Place :=
  ⟨p.anchor, p.names.dropLast ++ [p.names.getLastD "" ++ ending]⟩

def text (p : Place) : String :=
  match p.anchor with
  | .root => "/" ++ "/".intercalate p.names
  | .above k => "/".intercalate (List.replicate k ".." ++ p.names)

end Place
end ResolverSetup
