import ResolverSetup.Calendar
/-! Points in time, and their parts on the calendar. -/
namespace ResolverSetup

structure Timestamp where
  seconds : Nat
deriving DecidableEq

namespace Timestamp

def epoch : Timestamp := ⟨0⟩

def days (t : Timestamp) : Nat := t.seconds / 86400

def hour (t : Timestamp) : Nat := t.seconds / 3600 % 24

def minute (t : Timestamp) : Nat := t.seconds / 60 % 60

def second (t : Timestamp) : Nat := t.seconds % 60

def weekday (t : Timestamp) : Nat := (t.days + 4) % 7

def date (t : Timestamp) : CalendarDate := .ofDay (t.days + 719468)

def monthNames : List String :=
  ["January", "February", "March", "April", "May", "June", "July", "August", "September",
    "October", "November", "December"]

def dayNames : List String :=
  ["Sunday", "Monday", "Tuesday", "Wednesday", "Thursday", "Friday", "Saturday"]

/-- The Thursday of the week, which begins on Monday. Its year is the year of the week. -/
def weekThursday (t : Timestamp) : Timestamp :=
  ⟨(t.days + 3 - (t.weekday + 6) % 7) * 86400⟩

def weekOfYear (t : Timestamp) : Nat := (t.weekThursday.date.dayOfYear - 1) / 7 + 1

def sundayWeek (t : Timestamp) : Nat := (t.date.dayOfYear + 6 - t.weekday) / 7

def mondayWeek (t : Timestamp) : Nat := (t.date.dayOfYear + 6 - (t.weekday + 6) % 7) / 7

def clockHour (t : Timestamp) : Nat := (t.hour + 11) % 12 + 1

end Timestamp
end ResolverSetup
