import ResolverSetup.Text.Split
import ResolverSetup.Value
/-! Patterns of repository ids and layouts: comma-separated tokens, a leading `!` excluding. -/
namespace ResolverSetup

inductive Rank
  | unmatched
  | wildcard
  | exact
deriving DecidableEq

namespace Rank

def toNat : Rank → Nat
  | unmatched => 0
  | wildcard => 1
  | exact => 2

def orWildcard : Rank → Rank
  | unmatched => wildcard
  | r => r

end Rank

/-- A token excludes what stands behind its `!`, or names what it matches. A `!` alone is a name. -/
inductive PatternToken
  | excluded (name : String)
  | named (name : String)
deriving DecidableEq

namespace PatternToken

def ofText (s : String) : PatternToken :=
  match s.toList with
  | '!' :: c :: r => .excluded (String.ofList (c :: r))
  | _ => .named s

end PatternToken

def patternTokens (pattern : Option String) : List PatternToken :=
  (Text.commaTokens (pattern.getD "")).map .ofText

namespace IdPattern

def anyToken : String := "*"

def externalToken : String := "external:*"

/-- Looks at the tokens in turn. A name beats the wildcards, and an exclusion beats all. -/
def rankOver (id : String) (external : Bool) (best : Rank) : List PatternToken → Rank
  | [] => best
  | .excluded x :: ts => if x = id then .unmatched else rankOver id external best ts
  | .named x :: ts =>
    if x = id then rankOver id external .exact ts
    else if x = anyToken || (x = externalToken && external) then
      rankOver id external best.orWildcard ts
    else rankOver id external best ts

def rank (pattern : Option String) (id : String) (external : Bool) : Rank :=
  rankOver id external .unmatched (patternTokens pattern)

end IdPattern

namespace LayoutPattern

def fitsOver (layout : Value) (found : Bool) : List PatternToken → Bool
  | [] => found
  | .excluded x :: ts => if layout = .text x then false else fitsOver layout found ts
  | .named x :: ts =>
    fitsOver layout (found || x = IdPattern.anyToken || layout = .text x) ts

def fits (pattern : Option String) (layout : Value) : Bool :=
  match patternTokens pattern with
  | [] => true
  | ts => fitsOver layout false ts

end LayoutPattern
end ResolverSetup
