import ResolverSetup.Logging.Timestamp
/-! Points in time written after a pattern: a percent sign, possibly flags, a width and a modifier,
and a letter for the part of the time. -/
namespace ResolverSetup

inductive TimePadding
  | usual
  | none
  | spaces
  | zeros
deriving DecidableEq

structure TimeLayout where
  padding : TimePadding
  upper : Bool
  swapped : Bool
  width : Nat
  modifier : Option Char
deriving DecidableEq

namespace TimeLayout

def plain : TimeLayout := ⟨.usual, false, false, 0, none⟩

def fill (l : TimeLayout) (s : List Char) : List Char :=
  List.replicate (l.width - s.length) (if l.padding = .zeros then '0' else ' ') ++ s

def zone (l : TimeLayout) (s : List Char) : List Char := if l.padding = .none then s else l.fill s

def name (l : TimeLayout) (s : String) : List Char :=
  l.fill (if l.upper then s.toList.map Char.toUpper else s.toList)

def swappable (l : TimeLayout) (s : String) : List Char :=
  if l.swapped then l.fill (s.toList.map Char.toLower) else l.name s

def number (l : TimeLayout) (count n : Nat) : List Char :=
  let s := Nat.toDigits 10 n
  let missing := max count l.width - s.length
  match l.padding with
  | .none => l.fill s
  | .spaces => List.replicate missing ' ' ++ s
  | _ => List.replicate missing '0' ++ s

def spacedNumber (l : TimeLayout) (count n : Nat) : List Char :=
  if l.padding = .usual then { l with padding := .spaces }.number count n else l.number count n

end TimeLayout

namespace Timestamp

def shortName (s : String) : String := String.ofList (s.toList.take 3)

def monthName (t : Timestamp) : String := monthNames.getD (t.date.month - 1) ""

def dayName (t : Timestamp) : String := dayNames.getD t.weekday ""

def halfDay (t : Timestamp) : String := if t.hour < 12 then "AM" else "PM"

def zoneName : String := "GMT"

def shortFor? : Char → Option (List Char × String)
  | 'c' => some (['E'], "%a %b %e %H:%M:%S %Y")
  | 'x' => some (['E'], "%m/%d/%y")
  | 'X' => some (['E'], "%H:%M:%S")
  | 'D' => some ([], "%m/%d/%y")
  | 'F' => some ([], "%Y-%m-%d")
  | 'R' => some (['E', 'O'], "%H:%M")
  | 'T' => some (['E', 'O'], "%H:%M:%S")
  | 'r' => some (['E', 'O'], "%I:%M:%S %p")
  | _ => none

def number? (t : Timestamp) (l : TimeLayout) : Char → Option (List Char × List Char)
  | 'd' => some (['O'], l.number 2 t.date.day)
  | 'e' => some (['O'], l.spacedNumber 2 t.date.day)
  | 'H' => some (['O'], l.number 2 t.hour)
  | 'k' => some (['O'], l.spacedNumber 2 t.hour)
  | 'I' => some (['O'], l.number 2 t.clockHour)
  | 'l' => some (['O'], l.spacedNumber 2 t.clockHour)
  | 'j' => some (['O'], l.number 3 t.date.dayOfYear)
  | 'M' => some (['O'], l.number 2 t.minute)
  | 'm' => some (['O'], l.number 2 t.date.month)
  | 'S' => some (['O'], l.number 2 t.second)
  | 'u' => some (['E', 'O'], l.number 1 ((t.weekday + 6) % 7 + 1))
  | 'w' => some (['O'], l.number 1 t.weekday)
  | 'U' => some (['O'], l.number 2 t.sundayWeek)
  | 'W' => some (['O'], l.number 2 t.mondayWeek)
  | 'V' => some (['O'], l.number 2 t.weekOfYear)
  | 'G' => some (['O'], l.number 1 t.weekThursday.date.year)
  | 'g' => some (['O'], l.number 2 (t.weekThursday.date.year % 100))
  | 'C' => some (['E', 'O'], l.number 2 (t.date.year / 100))
  | 'Y' => some (['E'], l.number 1 t.date.year)
  | 'y' => some (['E', 'O'], l.number 2 (t.date.year % 100))
  | 's' => some (['E', 'O'], l.fill (Nat.toDigits 10 t.seconds))
  | 'z' => some (['E', 'O'], l.fill ['+'] ++ l.number 4 0)
  | _ => none

def text? (t : Timestamp) (l : TimeLayout) : Char → Option (List Char × List Char)
  | 'a' => some ([], { l with upper := l.upper || l.swapped }.name (shortName t.dayName))
  | 'A' => some ([], { l with upper := l.upper || l.swapped }.name t.dayName)
  | 'b' | 'h' => some (['O'], { l with upper := l.upper || l.swapped }.name (shortName t.monthName))
  | 'B' => some (['O'], { l with upper := l.upper || l.swapped }.name t.monthName)
  | 'p' => some (['E', 'O'], l.swappable t.halfDay)
  | 'P' => some (['E', 'O'], { l with swapped := true }.swappable t.halfDay)
  | 'Z' => some (['E', 'O'], l.zone zoneName.toList)
  | 'n' => some (['E', 'O'], l.fill ['\n'])
  | 't' => some (['E', 'O'], l.fill ['\t'])
  | '%' => some (['E', 'O'], l.fill ['%'])
  | _ => none

def takeFlags (l : TimeLayout) : List Char → TimeLayout × List Char
  | '_' :: s => takeFlags { l with padding := .spaces } s
  | '-' :: s => takeFlags { l with padding := .none } s
  | '0' :: s => takeFlags { l with padding := .zeros } s
  | '^' :: s => takeFlags { l with upper := true } s
  | '#' :: s => takeFlags { l with swapped := true } s
  | s => (l, s)

/-- What stands behind a percent sign: the layout, and the rest that begins with the letter. Widths
are cut down to a limit. -/
def takeLayout (limit : Nat) (s : List Char) : TimeLayout × List Char :=
  let (l, s) := takeFlags .plain s
  let digits := s.takeWhile Char.isDigit
  let width := digits.foldl (fun n c => min limit (n * 10 + (c.toNat - 48))) 0
  let l := { l with width := width }
  match s.dropWhile Char.isDigit with
  | 'E' :: r => ({ l with modifier := some 'E' }, r)
  | 'O' :: r => ({ l with modifier := some 'O' }, r)
  | r => (l, r)

def partText? (t : Timestamp) (inner : String → List Char) (l : TimeLayout) (letter : Char) :
    Option (List Char) :=
  let admits (ms : List Char) := l.modifier.all ms.contains
  match shortFor? letter, (t.number? l letter).orElse fun _ => t.text? l letter with
  | some (ms, pattern), _ =>
    let s := l.fill (inner pattern)
    if admits ms then some (if l.upper then s.map Char.toUpper else s) else none
  | none, some (ms, s) => if admits ms then some s else none
  | none, none => none

/-- Replaces each percent sign and what follows it by a part of the time. What is unknown stays as
it is written. The first argument bounds the number of steps, here and below. -/
def writeWith (t : Timestamp) (inner : String → List Char) (limit : Nat) :
    Nat → List Char → List Char
  | 0, s => s
  | _, [] => []
  | k + 1, '%' :: s =>
    let (l, r) := takeLayout limit s
    let kept (s : List Char) := l.name (String.ofList s)
    match r with
    | [] => kept ('%' :: s)
    | c :: r =>
      (match t.partText? inner l c with
        | some p => p
        | none => kept ('%' :: s.take (s.length - r.length))) ++ writeWith t inner limit k r
  | k + 1, c :: s => c :: writeWith t inner limit k s

def writeSimple (t : Timestamp) (pattern : String) : List Char :=
  writeWith t (fun _ => []) 0 pattern.length pattern.toList

/-- The room for a text, doubled from 1024 characters on up to 256 times the length of its
pattern. The first argument bounds the number of doublings. -/
def room (length : Nat) : Nat → Nat → Nat
  | 0, size => size
  | k + 1, size => if 256 * length ≤ size then size else room length k (size + size)

def format (t : Timestamp) (pattern : String) : String :=
  let size := room pattern.length pattern.length 1024
  let s := writeWith t t.writeSimple size pattern.length pattern.toList
  if s.length < size then String.ofList s else ""

end Timestamp
end ResolverSetup
