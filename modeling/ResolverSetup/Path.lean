import ResolverSetup.Text.Split
import ResolverSetup.Environment
/-! File paths, read without looking at any file. -/
namespace ResolverSetup

/-- How many slashes a path begins with. Exactly two are kept, more count as one. -/
inductive PathRoot
  | relative
  | absolute
  | doubled
deriving DecidableEq

/-- The names along a path. An empty name and `.` lead nowhere and are left out; `..` stays, as it
is known only from the files where it leads. -/
structure Path where
  root : PathRoot
  names : List String
deriving DecidableEq

namespace Path

def rootOf : List Char → PathRoot
  | '/' :: '/' :: '/' :: _ => .absolute
  | '/' :: '/' :: _ => .doubled
  | '/' :: _ => .absolute
  | _ => .relative

def namesOf (s : List Char) : List String :=
  ((Text.pieces (· == '/') s).filter fun n => n != [] && n != ['.']).map String.ofList

def isAbsolute (p : Path) : Bool := p.root != .relative

def ofText (s : String) : Path := ⟨rootOf s.toList, namesOf s.toList⟩

def text (p : Path) : String :=
  match p.root, p.names with
  | .relative, [] => "."
  | .relative, ns => "/".intercalate ns
  | .absolute, ns => "/" ++ "/".intercalate ns
  | .doubled, ns => "//" ++ "/".intercalate ns

def join (dir : Path) (p : Path) : Path :=
  match p.root with
  | .relative => ⟨dir.root, dir.names ++ p.names⟩
  | _ => p

def withoutEndSlashes (s : List Char) : List Char := (s.reverse.dropWhile (· == '/')).reverse

/-- Replaces a tilde and the name behind it, up to the first slash, by the home of the account.
Where that is not known the path stays as it is. -/
def expandHome (env : Environment) (accounts : Accounts) (s : String) :
    Except AccountFault String :=
  match s.toList with
  | '~' :: rest =>
    (accounts.home? env (rest.takeWhile (· != '/'))).map fun
      | some home =>
        let full := withoutEndSlashes home.toList ++ rest.dropWhile (· != '/')
        if full.isEmpty then "/" else String.ofList full
      | none => s
  | _ => .ok s

end Path
end ResolverSetup
