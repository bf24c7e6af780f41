import ResolverSetup.Text.Case
import ResolverSetup.Text.Split
/-! Patterns of host names, in which a star stands for any run of characters. -/
namespace ResolverSetup

inductive HostItem
  | anyRun
  | letter (c : Char)
deriving DecidableEq

abbrev HostPattern := List HostItem

namespace HostPattern

def ofChars (s : List Char) : HostPattern :=
  s.map fun c => if c = '*' then .anyRun else .letter c

/-- What can remain of a text after a run that holds no line feed. -/
def restsAfterRun : List Char → List (List Char)
  | [] => [[]]
  | c :: s => (c :: s) :: if c = '\n' then [] else restsAfterRun s

def covers : HostPattern → List Char → Bool
  | [], s => s.isEmpty
  | .anyRun :: p, s => (restsAfterRun s).any (covers p)
  | .letter _ :: _, [] => false
  | .letter d :: p, c :: s => Text.sameLetter d c && covers p s

def isSeparator (c : Char) : Bool := c == '|' || c == ','

def listOf (s : Option String) : List HostPattern :=
  (Text.tokensAt isSeparator (s.getD "").toList).map ofChars

end HostPattern
end ResolverSetup
