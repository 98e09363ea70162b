/-!
# Points in time

A point in time as seconds since the start of 1970 and a part of a second, and
its text in the proleptic Gregorian calendar.  A part of a second beyond one
second stands for a leap second, which only the last second of a minute has.
-/

namespace SchemaAtlas

structure Date where
  year : Int
  month : Nat
  day : Nat
deriving DecidableEq

/--
The date that is a number of days after the first of January 1970.  Years are
counted from March, in eras of 400 years, so that the leap day comes last.
-/
def Date.ofDays (days : Int) : Date :=
  let shifted := days + 719468
  let era := shifted.fdiv 146097
  let dayOfEra := (shifted - era * 146097).toNat
  let yearOfEra :=
    (dayOfEra - dayOfEra / 1460 + dayOfEra / 36524 - dayOfEra / 146096) / 365
  let dayOfYear :=
    dayOfEra - (365 * yearOfEra + yearOfEra / 4 - yearOfEra / 100)
  let shiftedMonth := (5 * dayOfYear + 2) / 153
  let day := dayOfYear - (153 * shiftedMonth + 2) / 5 + 1
  let month := if shiftedMonth < 10 then shiftedMonth + 3 else shiftedMonth - 9
  let year := era * 400 + yearOfEra + (if month ≤ 2 then 1 else 0)
  ⟨year, month, day⟩

structure Timestamp where
  /-- Whole seconds since the start of 1970. -/
  seconds : Int
  /-- Billionths of a second after that. -/
  nanoseconds : Nat
deriving DecidableEq, Inhabited

namespace Timestamp

/-- The first year that has dates. -/
def firstYear : Int := -262143

/-- The last year that has dates. -/
def lastYear : Int := 262142

def date (time : Timestamp) : Date := .ofDays (time.seconds.fdiv 86400)

/-- The point in time with the given parts, if there is one. -/
def of? (seconds : Int) (nanoseconds : Nat) : Option Timestamp :=
  let time : Timestamp := ⟨seconds, nanoseconds⟩
  let year := time.date.year
  let isLeap := 1000000000 ≤ nanoseconds
  if year < firstYear || lastYear < year then none
  else if 2000000000 ≤ nanoseconds then none
  else if isLeap && seconds.fmod 60 ≠ 59 then none
  else some time

/-- A number with at least `width` digits. -/
def padded (width value : Nat) : String :=
  let digits := Nat.toDigits 10 value
  String.ofList (List.replicate (width - digits.length) '0' ++ digits)

/-- A year: four digits, or a sign and at least four digits outside of the
years 0 to 9999. -/
def yearText (year : Int) : String :=
  if year < 0 then "-" ++ padded 4 year.natAbs
  else if 9999 < year then "+" ++ padded 4 year.natAbs
  else padded 4 year.natAbs

/-- The point in time as text, to the millisecond below it, in universal
time. -/
def render (time : Timestamp) : String :=
  let date := time.date
  let ofDay := (time.seconds.fmod 86400).toNat
  let second := ofDay % 60 + time.nanoseconds / 1000000000
  yearText date.year ++ "-" ++ padded 2 date.month ++ "-" ++
    padded 2 date.day ++ "T" ++ padded 2 (ofDay / 3600) ++ ":" ++
    padded 2 (ofDay / 60 % 60) ++ ":" ++ padded 2 second ++ "." ++
    padded 3 (time.nanoseconds % 1000000000 / 1000000) ++ "Z"

end Timestamp

end SchemaAtlas
