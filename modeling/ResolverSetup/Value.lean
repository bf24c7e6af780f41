import ResolverSetup.Calendar
import ResolverSetup.Number.Binary64
/-! Values of documents and properties: scalars, lists, mappings and sets. -/
namespace ResolverSetup

/-- Whether the holder of a container may change it. A list that may not be changed is written as
a tuple. -/
inductive Access
  | writable
  | readOnly
deriving DecidableEq

/-- A mapping holds its entries in the order in which the keys were first given. -/
inductive Value
  | null
  | bool (b : Bool)
  | int (n : Int)
  | real (x : Binary64)
  | text (s : String)
  | bytes (bs : List UInt8)
  | moment (m : Moment)
  | list (access : Access) (items : List Value)
  | map (access : Access) (entries : List (Value × Value))
  | set (access : Access) (items : List Value)

instance : Inhabited Value := ⟨.null⟩

namespace Value

mutual
def alike : Value → Value → Bool
  | .null, .null => true
  | .bool a, .bool b => a == b
  | .int a, .int b => a == b
  | .real a, .real b => a == b
  | .text a, .text b => a == b
  | .bytes a, .bytes b => a == b
  | .moment a, .moment b => a == b
  | .list r a, .list r' b => r == r' && itemsAlike a b
  | .map r a, .map r' b => r == r' && entriesAlike a b
  | .set r a, .set r' b => r == r' && itemsAlike a b
  | _, _ => false

def itemsAlike : List Value → List Value → Bool
  | [], [] => true
  | x :: xs, y :: ys => alike x y && itemsAlike xs ys
  | _, _ => false

def entriesAlike : List (Value × Value) → List (Value × Value) → Bool
  | [], [] => true
  | (k, x) :: es, (l, y) :: fs => alike k l && alike x y && entriesAlike es fs
  | _, _ => false
end

mutual
theorem alike_iff (v w : Value) : alike v w = true ↔ v = w := by
  cases v <;> cases w <;> simp [alike, itemsAlike_iff, entriesAlike_iff]

theorem itemsAlike_iff (xs ys : List Value) : itemsAlike xs ys = true ↔ xs = ys := by
  match xs, ys with
  | [], [] => simp [itemsAlike]
  | [], _ :: _ => simp [itemsAlike]
  | _ :: _, [] => simp [itemsAlike]
  | x :: xs, y :: ys => simp [itemsAlike, alike_iff x y, itemsAlike_iff xs ys]

theorem entriesAlike_iff (es fs : List (Value × Value)) : entriesAlike es fs = true ↔ es = fs := by
  match es, fs with
  | [], [] => simp [entriesAlike]
  | [], _ :: _ => simp [entriesAlike]
  | _ :: _, [] => simp [entriesAlike]
  | (k, x) :: es, (l, y) :: fs =>
    simp [entriesAlike, alike_iff k l, alike_iff x y, entriesAlike_iff es fs, and_assoc]
end

instance : DecidableEq Value := fun v w => decidable_of_iff _ (alike_iff v w)

def isTrue : Value → Bool
  | .null => false
  | .bool b => b
  | .int n => n != 0
  | .real x => !x.isZero
  | .text s => !s.isEmpty
  | .bytes bs => !bs.isEmpty
  | .moment _ => true
  | .list _ xs => !xs.isEmpty
  | .map _ es => !es.isEmpty
  | .set _ xs => !xs.isEmpty

def orElse (v w : Value) : Value := if v.isTrue then v else w

mutual
def frozen : Value → Value
  | .list _ xs => .list .readOnly (frozenItems xs)
  | .map _ es => .map .readOnly (frozenEntries es)
  | .set _ xs => .set .readOnly (frozenItems xs)
  | v => v

def frozenItems : List Value → List Value
  | [] => []
  | x :: xs => frozen x :: frozenItems xs

def frozenEntries : List (Value × Value) → List (Value × Value)
  | [] => []
  | (k, v) :: es => (k, frozen v) :: frozenEntries es
end

end Value
end ResolverSetup
