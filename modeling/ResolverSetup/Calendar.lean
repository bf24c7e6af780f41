/-! Dates on the calendar, and the points in time that a document may name. -/
namespace ResolverSetup

structure CalendarDate where
  year : Nat
  month : Nat
  day : Nat
deriving DecidableEq

def padded (width n : Nat) : String :=
  let digits := Nat.toDigits 10 n
  String.ofList (List.replicate (width - digits.length) '0' ++ digits)

namespace CalendarDate

/-- The date of a day, counted from the first of March of the year 0 in eras of 400 years. -/
def ofDay (n : Nat) : CalendarDate :=
  let era := n / 146097
  let ofEra := n % 146097
  let year := (ofEra - ofEra / 1460 + ofEra / 36524 - ofEra / 146096) / 365
  let ofYear := ofEra - (365 * year + year / 4 - year / 100)
  let fromMarch := (5 * ofYear + 2) / 153
  let month := if fromMarch < 10 then fromMarch + 3 else fromMarch - 9
  ⟨year + era * 400 + (if month ≤ 2 then 1 else 0), month, ofYear - (153 * fromMarch + 2) / 5 + 1⟩

def isLeap (year : Nat) : Bool := year % 4 == 0 && (year % 100 != 0 || year % 400 == 0)

def daysBefore (year month : Nat) : Nat :=
  ([0, 31, 59, 90, 120, 151, 181, 212, 243, 273, 304, 334].getD (month - 1) 0) +
    (if 2 < month && isLeap year then 1 else 0)

def dayOfYear (d : CalendarDate) : Nat := daysBefore d.year d.month + d.day

def text (d : CalendarDate) : String :=
  padded 4 d.year ++ "-" ++ padded 2 d.month ++ "-" ++ padded 2 d.day

end CalendarDate

/-- A day, or a time on a day in microseconds. A clock that is set to a zone is so many minutes
ahead of universal time. Days are counted as in `CalendarDate.ofDay`. -/
inductive Moment
  | day (n : Nat)
  | time (day micros : Nat) (ahead : Option Int)
deriving DecidableEq

namespace Moment

def dayMicros : Nat := 86400000000

def universal : Moment → Moment
  | .time n micros (some ahead) =>
    let total : Int := n * dayMicros + micros - ahead * 60000000
    .time (total / dayMicros).toNat (total % dayMicros).toNat (some 0)
  | m => m

def zoneText : Option Int → String
  | none => ""
  | some m =>
    (if m < 0 then "-" else "+") ++ padded 2 (m.natAbs / 60) ++ ":" ++ padded 2 (m.natAbs % 60)

def text : Moment → String
  | .day n => (CalendarDate.ofDay n).text
  | .time n micros ahead =>
    let seconds := micros / 1000000
    (CalendarDate.ofDay n).text ++ " " ++ padded 2 (seconds / 3600) ++ ":" ++
      padded 2 (seconds / 60 % 60) ++ ":" ++ padded 2 (seconds % 60) ++
      (if micros % 1000000 = 0 then "" else "." ++ padded 6 (micros % 1000000)) ++ zoneText ahead

def zoneLiteral : Option Int → String
  | none => ""
  | some 0 => ", tzinfo=datetime.timezone.utc"
  | some m =>
    ", tzinfo=datetime.timezone(datetime.timedelta(" ++
      (if m < 0 then "days=-1, seconds=" ++ toString (m * 60 + 86400)
        else "seconds=" ++ toString (m * 60)) ++ "))"

def clockParts (micros : Nat) : List Nat :=
  let seconds := micros / 1000000
  [seconds / 3600, seconds / 60 % 60] ++
    (if micros % 1000000 = 0 then if seconds % 60 = 0 then [] else [seconds % 60]
      else [seconds % 60, micros % 1000000])

def literal : Moment → String
  | .day n =>
    let d := CalendarDate.ofDay n
    "datetime.date(" ++ ", ".intercalate ([d.year, d.month, d.day].map toString) ++ ")"
  | .time n micros ahead =>
    let d := CalendarDate.ofDay n
    "datetime.datetime(" ++
      ", ".intercalate (([d.year, d.month, d.day] ++ clockParts micros).map toString) ++
      zoneLiteral ahead ++ ")"

def kindName : Moment → String
  | .day _ => "date"
  | .time _ _ _ => "datetime"

end Moment
end ResolverSetup
