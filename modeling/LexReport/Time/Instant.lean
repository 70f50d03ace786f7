import LexReport.Decimal.Fixed

/-! Moments in time and their form in RFC 3339. -/

set_option autoImplicit false

namespace LexReport

/-- Seconds since the start of 1970, and nanoseconds. A leap second is written as nanoseconds
beyond a whole second. -/
structure Instant where
  seconds : Int
  nanoseconds : Nat
  deriving DecidableEq, Repr, Inhabited

structure Date where
  year : Int
  month : Nat
  day : Nat
  deriving DecidableEq, Repr

/-- The date that lies some days after the first of January 1970. Years are counted from March, so
that the leap day is the last of its year; an era has 400 of them. -/
def Date.ofDays (days : Int) : Date :=
  let shifted := days + 719468
  let era := shifted / 146097
  let dayOfEra := (shifted % 146097).toNat
  let yearOfEra := (dayOfEra - dayOfEra / 1460 + dayOfEra / 36524 - dayOfEra / 146096) / 365
  let dayOfYear := dayOfEra - (365 * yearOfEra + yearOfEra / 4 - yearOfEra / 100)
  let marchMonth := (5 * dayOfYear + 2) / 153
  let day := dayOfYear - (153 * marchMonth + 2) / 5 + 1
  let month := if marchMonth < 10 then marchMonth + 3 else marchMonth - 9
  let year := (yearOfEra : Int) + era * 400
  ⟨if month ≤ 2 then year + 1 else year, month, day⟩

namespace Date

def yearText (year : Int) : String :=
  if year < 0 then "-" ++ Decimal.padLeft 4 (toString year.natAbs)
  else if year ≤ 9999 then Decimal.padLeft 4 (toString year.toNat)
  else "+" ++ toString year.toNat

def text (date : Date) : String :=
  yearText date.year ++ "-" ++ Decimal.padLeft 2 (toString date.month) ++ "-" ++
    Decimal.padLeft 2 (toString date.day)

end Date

namespace Instant

def nanosecondsPerSecond : Nat := 1000000000

def secondsText (moment : Instant) : String :=
  let timeOfDay := (moment.seconds % 86400).toNat
  let second := timeOfDay % 60 + moment.nanoseconds / nanosecondsPerSecond
  (Date.ofDays (moment.seconds / 86400)).text ++ "T" ++
    Decimal.padLeft 2 (toString (timeOfDay / 3600)) ++ ":" ++
    Decimal.padLeft 2 (toString (timeOfDay / 60 % 60)) ++ ":" ++
    Decimal.padLeft 2 (toString second)

/-- The fewest of zero, three, six and nine digits that are exact. -/
def fractionText (moment : Instant) : String :=
  let fraction := moment.nanoseconds % nanosecondsPerSecond
  if fraction = 0 then ""
  else if fraction % 1000000 = 0 then "." ++ Decimal.padLeft 3 (toString (fraction / 1000000))
  else if fraction % 1000 = 0 then "." ++ Decimal.padLeft 6 (toString (fraction / 1000))
  else "." ++ Decimal.padLeft 9 (toString fraction)

def preciseText (moment : Instant) : String :=
  moment.secondsText ++ moment.fractionText ++ "+00:00"

def wholeText (moment : Instant) : String :=
  moment.secondsText ++ "Z"

end Instant

end LexReport
