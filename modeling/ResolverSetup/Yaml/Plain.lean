import ResolverSetup.Value
import ResolverSetup.Text.Split
import ResolverSetup.Yaml.Fault
/-! The values that plain scalars of YAML 1.1 stand for. -/
namespace ResolverSetup.Yaml

def nullWords : List String := ["", "~", "null", "Null", "NULL"]

def trueWords : List String :=
  ["yes", "Yes", "YES", "true", "True", "TRUE", "on", "On", "ON"]

def falseWords : List String :=
  ["no", "No", "NO", "false", "False", "FALSE", "off", "Off", "OFF"]

def reservedWords : List String := ["<<", "="]

def isGrouped (isDigit : Char → Bool) (s : List Char) : Bool := s.all fun c => isDigit c || c == '_'

def isOctal (c : Char) : Bool := '0' ≤ c && c ≤ '7'

def isBinary (c : Char) : Bool := c == '0' || c == '1'

def grouped (base : Nat) (s : List Char) : Except NumberFault Nat :=
  let digits := s.filter (· != '_')
  if digits.isEmpty then .error (.digitless base)
  else if base = 10 && maxDigits < digits.length then
    .error (.digits (.unreadable digits.length))
  else .ok (ofDigits base (digits.map Text.hexDigitValue))

def isSixtieth : List Char → Bool
  | [d] => d.isDigit
  | [t, d] => '0' ≤ t && t ≤ '5' && d.isDigit
  | _ => false

def sexagesimal? (ok : Char → Bool) (s : List Char) : Option (List (List Char)) :=
  match Text.pieces (· == ':') s with
  | (c :: p) :: q :: ps =>
    if ok c && isGrouped Char.isDigit p && (q :: ps).all isSixtieth then some ((c :: p) :: q :: ps)
    else none
  | _ => none

def isPositiveDigit (c : Char) : Bool := '1' ≤ c && c ≤ '9'

def natural? (s : List Char) : Option (Except NumberFault Nat) :=
  match s with
  | ['0'] => some (.ok 0)
  | '0' :: 'b' :: c :: r =>
    if isGrouped isBinary (c :: r) then some (grouped 2 (c :: r)) else none
  | '0' :: 'x' :: c :: r =>
    if isGrouped Text.isHexDigit (c :: r) then some (grouped 16 (c :: r)) else none
  | '0' :: r => if isGrouped isOctal r then some (grouped 8 s) else none
  | c :: r =>
    if isPositiveDigit c && isGrouped Char.isDigit r then some (grouped 10 s)
    else (sexagesimal? isPositiveDigit s).map fun ps => (ps.mapM (grouped 10)).map (ofDigits 60)
  | [] => none

def integer? (s : List Char) : Option (Except NumberFault Int) :=
  let (negative, body) := takeSign s
  (natural? body).map (·.map (signed negative))

def isExponent (s : List Char) : Bool :=
  match s with
  | [] => true
  | e :: sign :: d :: r =>
    (e == 'e' || e == 'E') && (sign == '-' || sign == '+') && (d :: r).all Char.isDigit
  | _ => false

def isDigitOrGroup (c : Char) : Bool := c.isDigit || c == '_'

def isPointed (signed : Bool) (s : List Char) : Bool :=
  match s with
  | '.' :: d :: r => !signed && d.isDigit && isExponent (r.dropWhile isDigitOrGroup)
  | d :: r =>
    d.isDigit && (match r.dropWhile isDigitOrGroup with
      | '.' :: t => isExponent (t.dropWhile isDigitOrGroup)
      | _ => false)
  | [] => false

/-- Adds places of base sixty, the last first, to a sum. Each product and each sum is rounded, and a
weight beyond all floating-point numbers is a fault. -/
def addPlaces (weight : Nat) (sum : Binary64) : List Binary64 → Except NumberFault Binary64
  | [] => .ok sum
  | d :: ds =>
    let factor := Binary64.nearestUnits weight 1
    if Nat.pow 2 1024 ≤ factor then .error .tooLarge
    else addPlaces (weight * 60) (sum.plus (d.times factor)) ds

def sexagesimalReal? (negative : Bool) (s : List Char) : Option (Except NumberFault Binary64) :=
  let places := s.dropWhile (· != '.')
  if s.contains '.' && isGrouped Char.isDigit (places.drop 1) then
    (sexagesimal? Char.isDigit (s.takeWhile (· != '.'))).map fun _ =>
      let parts := (Text.pieces (· == ':') (s.filter (· != '_'))).filterMap (readDecimal? false)
      (addPlaces 1 .zero parts.reverse).map (·.withSign negative)
  else none

def infinityWords : List String := [".inf", ".Inf", ".INF"]

def nanWords : List String := [".nan", ".NaN", ".NAN"]

def real? (s : List Char) : Option (Except NumberFault Binary64) :=
  let (negative, body) := takeSign s
  if nanWords.contains (String.ofList s) then some (.ok (.nan 0))
  else if infinityWords.contains (String.ofList body) then some (.ok (.infinite negative))
  else if isPointed (body.length < s.length) body then
    (readDecimal? negative (body.filter (· != '_'))).map .ok
  else sexagesimalReal? negative body

/-- The value of a plain scalar: a word or a number where it looks like one, and a text
otherwise. -/
def plainValue (s : String) : Except YamlFault Value :=
  if nullWords.contains s then .ok .null
  else if trueWords.contains s then .ok (.bool true)
  else if falseWords.contains s then .ok (.bool false)
  else if reservedWords.contains s then .error .reservedScalar
  else match real? s.toList, integer? s.toList with
    | some x, _ => (x.map .real).mapError .number
    | none, some n => (n.map .int).mapError .number
    | none, none => .ok (.text s)

end ResolverSetup.Yaml
