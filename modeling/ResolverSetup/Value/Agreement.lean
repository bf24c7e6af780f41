import ResolverSetup.Value.Table
/-! When two values agree: numbers by their size, and mappings and sets in any order. -/
namespace ResolverSetup

namespace Value

mutual
def agrees : Value → Value → Bool
  | .list a xs, .list b ys => a == b && itemsAgree xs ys
  | .map _ es, .map _ fs => es.length == fs.length && entriesAgree es fs
  | .set _ xs, .set _ ys => xs.length == ys.length && xs.all fun x => ys.any x.sameKey
  | v, w => v.sameKey w

def itemsAgree : List Value → List Value → Bool
  | [], [] => true
  | x :: xs, y :: ys => agrees x y && itemsAgree xs ys
  | _, _ => false

def entriesAgree : List (Value × Value) → Table → Bool
  | [], _ => true
  | (k, v) :: es, t =>
    (match t.get? k with
      | some w => agrees v w
      | none => false) && entriesAgree es t
end

end Value

def bothAgree (agree : α → α → Bool) : Option α → Option α → Bool
  | none, none => true
  | some x, some y => agree x y
  | _, _ => false

end ResolverSetup
