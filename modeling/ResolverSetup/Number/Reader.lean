import ResolverSetup.Text.Classes
import ResolverSetup.Number.Binary64
/-! Numbers read from text. -/
namespace ResolverSetup

def maxDigits : Nat := 4300

inductive DigitFault
  | unwritable
  | unreadable (digits : Nat)
deriving DecidableEq

def DigitFault.message : DigitFault → String
  | unwritable =>
    "Exceeds the limit (" ++ toString maxDigits ++ " digits) for integer string conversion; " ++
      "use sys.set_int_max_str_digits() to increase the limit"
  | unreadable digits =>
    "Exceeds the limit (" ++ toString maxDigits ++ " digits) for integer string conversion: " ++
      "value has " ++ toString digits ++
      " digits; use sys.set_int_max_str_digits() to increase the limit"

def isWritable (n : Int) : Bool := n.natAbs < Nat.pow 10 maxDigits

def takeSign : List Char → Bool × List Char
  | '-' :: s => (true, s)
  | '+' :: s => (false, s)
  | s => (false, s)

def signed (negative : Bool) (n : Nat) : Int := if negative then -n else n

/-- The values of decimal digits of any script, with single underscores allowed between two. -/
def groupedDigits? : List Char → Option (List Nat)
  | [] => none
  | c :: s =>
    match Text.digitValue? c, s with
    | none, _ => none
    | some d, [] => some [d]
    | some d, '_' :: r => (groupedDigits? r).map (d :: ·)
    | some d, r => (groupedDigits? r).map (d :: ·)

def ofDigits (base : Nat) (ds : List Nat) : Nat := ds.foldl (fun n d => n * base + d) 0

/-- Blanks that may stand around a number: all but the four information separators. -/
def isNumberBlank (c : Char) : Bool := Text.isBlank c && !(0x1C ≤ c.toNat && c.toNat ≤ 0x1F)

def readInt? (s : List Char) : Option Int :=
  let (negative, body) := takeSign (Text.strip isNumberBlank s)
  match groupedDigits? body with
  | some ds => if ds.length ≤ maxDigits then some (signed negative (ofDigits 10 ds)) else none
  | none => none

def asciiText? (bs : List UInt8) : Option (List Char) :=
  if bs.all (· < 0x80) then some (bs.map fun b => Char.ofNat b.toNat) else none

def spanDigits (s : List Char) : List Nat × List Char :=
  ((s.takeWhile Char.isDigit).map (·.toNat - 48), s.dropWhile Char.isDigit)

def readExponent? : List Char → Option Int
  | [] => some 0
  | c :: s =>
    if c = 'e' || c = 'E' then
      let (negative, body) := takeSign s
      match spanDigits body with
      | (d :: ds, []) => some (signed negative (ofDigits 10 (d :: ds)))
      | _ => none
    else none

def readDecimal? (negative : Bool) (s : List Char) : Option Binary64 :=
  let (whole, r) := spanDigits s
  let (places, r) := match r with
    | '.' :: t => spanDigits t
    | _ => ([], r)
  if whole.isEmpty && places.isEmpty then none
  else (readExponent? r).map fun e =>
    Binary64.ofDecimal negative (ofDigits 10 (whole ++ places)) (e - places.length)

def Binary64.ofText? (s : List Char) : Option Binary64 :=
  let (negative, body) := takeSign s
  if body = ['i', 'n', 'f'] then some (.infinite negative)
  else if body = ['n', 'a', 'n'] then some (.nan 0)
  else readDecimal? negative body

end ResolverSetup
