/-! Floating-point numbers of 64 bits, held exactly, and the nearest one to a ratio. -/
namespace ResolverSetup

/-- A finite number is its sign and its size in units of the smallest positive one, 2⁻¹⁰⁷⁴. An
undefined number has a mark that tells it from others. -/
inductive Binary64
  | nan (mark : Nat)
  | infinite (negative : Bool)
  | finite (negative : Bool) (units : Nat)
deriving DecidableEq

namespace Binary64

def one : Nat := Nat.pow 2 1074

def roundHalfEven (num den : Nat) : Nat :=
  let q := num / den
  let r := num % den
  if 2 * r < den then q
  else if den < 2 * r then q + 1
  else q + q % 2

/-- The nearest size in units that 53 binary digits can hold. -/
def nearestUnits (num den : Nat) : Nat :=
  let step := Nat.pow 2 (Nat.log2 (num / den) - 52)
  roundHalfEven num (den * step) * step

def ofUnits (negative : Bool) (num den : Nat) : Binary64 :=
  let units := nearestUnits num den
  if units < Nat.pow 2 2098 then finite negative units else infinite negative

def ofRatio (negative : Bool) (num den : Nat) : Binary64 := ofUnits negative (num * one) den

def ofDecimal (negative : Bool) (digits : Nat) (exponent : Int) : Binary64 :=
  let places : Int := (Nat.toDigits 10 digits).length + exponent
  if digits = 0 || places < -400 then finite negative 0
  else if 400 < places then infinite negative
  else ofRatio negative (digits * Nat.pow 10 exponent.toNat) (Nat.pow 10 (-exponent).toNat)

def zero : Binary64 := finite false 0

def withSign (negative : Bool) : Binary64 → Binary64
  | nan mark => nan mark
  | infinite _ => infinite negative
  | finite _ units => finite negative units

def times (n : Nat) : Binary64 → Binary64
  | finite negative units => ofUnits negative (units * n) 1
  | x => x

def plus : Binary64 → Binary64 → Binary64
  | finite negative u, finite _ v => ofUnits negative (u + v) 1
  | finite _ _, y => y
  | x, _ => x

def truncate? : Binary64 → Option Int
  | finite negative units =>
    let n : Int := (units / one : Nat)
    some (if negative then -n else n)
  | _ => none

def toInt? : Binary64 → Option Int
  | finite negative units => if units % one = 0 then truncate? (finite negative units) else none
  | _ => none

def isZero : Binary64 → Bool
  | finite _ units => units == 0
  | _ => false

end Binary64
end ResolverSetup
