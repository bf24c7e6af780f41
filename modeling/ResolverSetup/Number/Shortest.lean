import ResolverSetup.Number.Binary64
/-! The shortest decimal text that reads back as a given floating-point number. -/
namespace ResolverSetup.Binary64

def gaps (units : Nat) : Nat × Nat :=
  let step := Nat.pow 2 (Nat.log2 units - 52)
  (if units = Nat.pow 2 (Nat.log2 units) && 1 < step then step / 2 else step, step)

/-- Whether `num / den` units are read as `units`. An end of the interval belongs to the number
with the even last digit. -/
def readsAs (units num den : Nat) : Bool :=
  let (below, above) := gaps units
  let step := Nat.pow 2 (Nat.log2 units - 52)
  let low := (2 * units - below) * den
  let high := (2 * units + above) * den
  if (units / step) % 2 = 0 then low ≤ 2 * num && 2 * num ≤ high
  else low < 2 * num && 2 * num < high

def nearerNeighbour (num den : Nat) (ok : Nat → Bool) : Option Nat :=
  let q := num / den
  let r := num % den
  match ok q, ok (q + 1) with
  | true, true => some (if 2 * r < den || (2 * r = den && q % 2 = 0) then q else q + 1)
  | true, false => some q
  | false, true => some (q + 1)
  | false, false => none

def tenTo (e : Int) : Nat × Nat := (Nat.pow 10 e.toNat, Nat.pow 10 (-e).toNat)

/-- A decimal `d · 10 ^ e` that is read as `units`, on the grid of step `10 ^ e`. -/
def onGrid (units : Nat) (e : Int) : Option Nat :=
  let (up, down) := tenTo e
  nearerNeighbour (units * down) (one * up) fun d => readsAs units (d * up * one) down

def coarsest (units : Nat) (top : Int) : Nat → Option (Nat × Int)
  | 0 => none
  | count + 1 =>
    match onGrid units top with
    | some d => some (d, top)
    | none => coarsest units (top - 1) count

/-- The exponent of the leading decimal digit, found by a search from an estimate that is at most
a few too high. -/
def leadingExponent (units : Nat) (e : Int) : Nat → Int
  | 0 => e
  | k + 1 =>
    let (up, down) := tenTo e
    if up * one ≤ units * down then e else leadingExponent units (e - 1) k

def shortest (units : Nat) : Nat × Int :=
  let estimate : Int := ((Nat.log2 units : Int) - 1074) * 30103 / 100000 + 2
  let lead := leadingExponent units estimate 8
  (coarsest units lead 18).getD (units / one, 0)

def dropZeros : Nat → Nat → Int → Nat × Int
  | 0, d, e => (d, e)
  | k + 1, d, e => if d % 10 = 0 then dropZeros k (d / 10) (e + 1) else (d, e)

def digitText (n : Nat) : List Char := Nat.toDigits 10 n

/-- Positional notation where the leading digit stands between the fourth decimal place and the
sixteenth place before the point, otherwise one digit, a point and an exponent of at least two
digits. -/
def layout (digits : List Char) (lead : Int) : List Char :=
  if lead < -4 || 16 ≤ lead then
    let fraction := match digits.drop 1 with
      | [] => []
      | ds => '.' :: ds
    let size := digitText lead.natAbs
    digits.take 1 ++ fraction ++ ['e', if lead < 0 then '-' else '+'] ++
      (if size.length < 2 then '0' :: size else size)
  else if lead < 0 then
    ['0', '.'] ++ List.replicate (-lead - 1).toNat '0' ++ digits
  else
    let whole := lead.toNat + 1
    let fraction := digits.drop whole
    digits.take whole ++ List.replicate (whole - digits.length) '0' ++
      ('.' :: if fraction.isEmpty then ['0'] else fraction)

def text : Binary64 → String
  | nan _ => "nan"
  | infinite negative => if negative then "-inf" else "inf"
  | finite negative units =>
    let body :=
      if units = 0 then ['0', '.', '0']
      else
        let (d, e) := shortest units
        let (d, e) := dropZeros 20 d e
        let digits := digitText d
        layout digits (e + digits.length - 1)
    String.ofList (if negative then '-' :: body else body)

end ResolverSetup.Binary64
