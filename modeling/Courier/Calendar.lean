/-
  This file defines durations, instants and the date format of
  HTTP headers.

  Key definitions include:
    * `Duration`
    * `Instant`
    * `Calendar.civil`
    * `Calendar.httpDate?`
-/

namespace Courier

/- A span of time in whole seconds and nanoseconds. -/
structure Duration where
  seconds : Nat := 0
  nanos : Nat := 0
deriving DecidableEq, Repr

/- How many nanoseconds make a second. -/
def nanosPerSecond : Nat := 1000000000

/-
  The span of seconds and nanoseconds, of which whole seconds
  are carried over.
-/
def Duration.ofParts
    (seconds nanos : Nat) : Duration where
  seconds := seconds + nanos / nanosPerSecond
  nanos := nanos % nanosPerSecond

/- True for the span of no time at all. -/
def Duration.isZero
    (d : Duration) : Bool :=
  d.seconds = 0 && d.nanos = 0

/-
  A point in time: whole seconds since the start of 1970, and
  nanoseconds after that second.
-/
structure Instant where
  seconds : Int
  nanos : Nat := 0
deriving DecidableEq, Repr

/- The point in time a span after the start of 1970. -/
def Instant.afterStart
    (d : Duration) : Instant where
  seconds := d.seconds
  nanos := d.nanos

namespace Calendar

------------------------------------------------------------
-- The civil calendar
------------------------------------------------------------

/- A day of the civil calendar. -/
structure Day where
  year : Nat
  month : Nat
  day : Nat
deriving DecidableEq, Repr

/-
  The civil day that lies `days` days after the start of 1970.
  Years are counted from March, in eras of four hundred years.
-/
def civil
    (days : Nat) : Day :=
  let z := days + 719468
  let era := z / 146097
  let dayOfEra := z % 146097
  let yearOfEra :=
    (dayOfEra - dayOfEra / 1460 + dayOfEra / 36524
      - dayOfEra / 146096) / 365
  let dayOfYear :=
    dayOfEra
      - (365 * yearOfEra + yearOfEra / 4 - yearOfEra / 100)
  let shifted := (5 * dayOfYear + 2) / 153
  let month := if shifted < 10 then shifted + 3 else shifted - 9
  { year :=
      yearOfEra + era * 400 + (if month ≤ 2 then 1 else 0)
    month := month
    day := dayOfYear - (153 * shifted + 2) / 5 + 1 }

/- The short names of the days, from the first day of 1970. -/
def dayNames : List String :=
  ["Thu", "Fri", "Sat", "Sun", "Mon", "Tue", "Wed"]

/- The short names of the months. -/
def monthNames : List String :=
  ["Jan", "Feb", "Mar", "Apr", "May", "Jun",
    "Jul", "Aug", "Sep", "Oct", "Nov", "Dec"]

------------------------------------------------------------
-- The HTTP date
------------------------------------------------------------

/- A number with leading zeros up to a width. -/
def padded
    (width n : Nat) : String :=
  let digits := Nat.toDigits 10 n
  String.ofList
    (List.replicate (width - digits.length) '0' ++ digits)

/- The first second that a four digit year cannot write. -/
def endOfYears : Nat :=
  253402300800

/- The HTTP date of a second after the start of 1970. -/
def httpDate
    (second : Nat) : String :=
  let day := civil (second / 86400)
  let time := second % 86400
  let name := dayNames.getD (second / 86400 % 7) ""
  let month := monthNames.getD (day.month - 1) ""
  name ++ ", " ++ padded 2 day.day ++ " " ++ month ++ " "
    ++ padded 4 day.year ++ " "
    ++ padded 2 (time / 3600) ++ ":"
    ++ padded 2 (time / 60 % 60) ++ ":"
    ++ padded 2 (time % 60) ++ " GMT"

/-
  The HTTP date of an instant, none before 1970 or from the
  year 10000 on.
-/
def httpDate?
    (t : Instant) : Option String :=
  if 0 ≤ t.seconds && t.seconds < endOfYears then
    some (httpDate t.seconds.toNat)
  else
    none

end Calendar

end Courier
