import ResolverSetup.Value.Render
/-! Values written in a field of a pattern: as a text or as a number of a given form, between signs,
zeros and spaces that fill the field up. -/
namespace ResolverSetup

/-- How a field is laid out. A least width fills it up; the precision is the greatest length of a
text, the least number of digits or the number of decimal places. -/
structure FieldLayout where
  leftAligned : Bool
  plus : Bool
  space : Bool
  marked : Bool
  zeros : Bool
  width : Nat
  precision : Option Nat
deriving DecidableEq

inductive RealForm
  | scientific
  | fixed
  | general
deriving DecidableEq

inductive Conversion
  | display
  | literal
  | asciiLiteral
  | character
  | decimal
  | octal
  | hexadecimal (upper : Bool)
  | real (form : RealForm) (upper : Bool)
deriving DecidableEq

inductive FieldContent
  | text (s : List Char)
  | number (negative : Bool) (mark digits : List Char)
deriving DecidableEq

namespace Conversion

def ofLetter? : Char → Option Conversion
  | 's' => some display
  | 'r' => some literal
  | 'a' => some asciiLiteral
  | 'c' => some character
  | 'd' | 'i' | 'u' => some decimal
  | 'o' => some octal
  | 'x' => some (hexadecimal false)
  | 'X' => some (hexadecimal true)
  | 'e' => some (real .scientific false)
  | 'E' => some (real .scientific true)
  | 'f' => some (real .fixed false)
  | 'F' => some (real .fixed true)
  | 'g' => some (real .general false)
  | 'G' => some (real .general true)
  | _ => none

def zerosBefore (width : Nat) (s : List Char) : List Char :=
  List.replicate (width - s.length) '0' ++ s

def upperIf (upper : Bool) (s : List Char) : List Char := if upper then s.map Char.toUpper else s

def wholeContent (l : FieldLayout) (base : Nat) (upper : Bool) (mark : List Char) (n : Int) :
    FieldContent :=
  .number (n < 0) (upperIf upper (if l.marked then mark else []))
    (zerosBefore (l.precision.getD 0) (upperIf upper (Nat.toDigits base n.natAbs)))

def fixedDigits (keepPoint : Bool) (units places : Nat) : List Char :=
  let scaled := Binary64.roundHalfEven (units * Nat.pow 10 places) Binary64.one
  let digits := zerosBefore (places + 1) (Nat.toDigits 10 scaled)
  let whole := digits.length - places
  digits.take whole ++ (if places = 0 && !keepPoint then [] else ['.']) ++ digits.drop whole

def leadingDigits (units places : Nat) : Nat × Int :=
  if units = 0 then (0, 0)
  else
    let estimate : Int := ((Nat.log2 units : Int) - 1074) * 30103 / 100000 + 2
    let e := Binary64.leadingExponent units estimate 8
    let (up, down) := Binary64.tenTo (e - places)
    let n := Binary64.roundHalfEven (units * down) (Binary64.one * up)
    if n < Nat.pow 10 (places + 1) then (n, e) else (n / 10, e + 1)

def exponentText (e : Int) : List Char :=
  ['e', if e < 0 then '-' else '+'] ++ zerosBefore 2 (Nat.toDigits 10 e.natAbs)

def scientificDigits (keepPoint : Bool) (units places : Nat) : List Char :=
  let (n, e) := leadingDigits units places
  let digits := zerosBefore (places + 1) (Nat.toDigits 10 n)
  digits.take 1 ++ (if places = 0 && !keepPoint then [] else ['.']) ++ digits.drop 1 ++
    exponentText e

def withoutEndZeros (s : List Char) : List Char :=
  if s.contains '.' then
    let r := s.reverse.dropWhile (· == '0')
    (if r.head? = some '.' then r.drop 1 else r).reverse
  else s

/-- As many leading digits as the precision says, written positionally where the exponent lies
between -4 and their number. -/
def generalDigits (keepZeros : Bool) (units precision : Nat) : List Char :=
  let count := max precision 1
  let (_, e) := leadingDigits units (count - 1)
  let trim (s : List Char) := if keepZeros then s else withoutEndZeros s
  if -4 ≤ e && e < count then trim (fixedDigits keepZeros units ((count : Int) - 1 - e).toNat)
  else
    let s := scientificDigits keepZeros units (count - 1)
    trim (s.takeWhile (· != 'e')) ++ s.dropWhile (· != 'e')

def standardPrecision : Nat := 6

def realDigits (l : FieldLayout) (form : RealForm) (units : Nat) : List Char :=
  let precision := l.precision.getD standardPrecision
  match form with
  | .scientific => scientificDigits l.marked units precision
  | .fixed => fixedDigits l.marked units precision
  | .general => generalDigits l.marked units precision

def realContent (l : FieldLayout) (form : RealForm) (upper : Bool) : Binary64 → FieldContent
  | .nan _ => .number false [] (upperIf upper ['n', 'a', 'n'])
  | .infinite negative => .number negative [] (upperIf upper ['i', 'n', 'f'])
  | .finite negative units => .number negative [] (upperIf upper (realDigits l form units))

def textContent (l : FieldLayout) (s : String) : FieldContent :=
  .text (match l.precision with
    | some n => s.toList.take n
    | none => s.toList)

def characterOf? : Value → Option Char
  | .text s => match s.toList with
    | [c] => some c
    | _ => none
  | .int n => if h : n.toNat.isValidChar then
      if 0 ≤ n then some (Char.ofNatAux n.toNat h) else none
    else none
  | _ => none

def content? (l : FieldLayout) (v : Value) : Conversion → Option FieldContent
  | display => some (textContent l v.display)
  | literal => some (textContent l v.literal)
  | asciiLiteral => some (textContent l (Text.asciiOnly v.literal))
  | character => (characterOf? v).map fun c => .text [c]
  | decimal => match v with
    | .int n => some (wholeContent l 10 false [] n)
    | .real x => x.truncate?.map (wholeContent l 10 false [])
    | _ => none
  | octal => match v with
    | .int n => some (wholeContent l 8 false ['0', 'o'] n)
    | _ => none
  | hexadecimal upper => match v with
    | .int n => some (wholeContent l 16 upper ['0', 'x'] n)
    | _ => none
  | real form upper => match v with
    | .int n => some (realContent l form upper (.ofRatio (n < 0) n.natAbs 1))
    | .real x => some (realContent l form upper x)
    | _ => none

end Conversion

namespace FieldLayout

def signText (l : FieldLayout) (negative : Bool) : List Char :=
  if negative then ['-'] else if l.plus then ['+'] else if l.space then [' '] else []

/-- Fills a content up to the width: with zeros between the sign of a number and its digits, or with
spaces around all. -/
def arrange (l : FieldLayout) : FieldContent → List Char
  | .text s =>
    let fill := List.replicate (l.width - s.length) ' '
    if l.leftAligned then s ++ fill else fill ++ s
  | .number negative mark digits =>
    let front := l.signText negative ++ mark
    let missing := l.width - (front.length + digits.length)
    if l.leftAligned then front ++ digits ++ List.replicate missing ' '
    else if l.zeros then front ++ List.replicate missing '0' ++ digits
    else List.replicate missing ' ' ++ front ++ digits

end FieldLayout
end ResolverSetup
