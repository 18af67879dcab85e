/-!
# The calendar

Days are counted from 1970-01-01 in the Gregorian calendar, extended to all years before and after
it. Years start in March here, so that a leap day is the last day of its year; `dateOfDay` and
`dayOfDate` go between the count and the date.
-/

namespace TodoLedger.Time

/-- A day of the calendar. -/
structure Date where
  year : Int
  /-- From 1 to 12. -/
  month : Nat
  /-- From 1. -/
  day : Nat
deriving DecidableEq, Repr

/-- Days in 400 years, after which the calendar repeats. -/
def daysPerCycle : Int := 146097

/-- Days from 0000-03-01 to 1970-01-01. -/
def daysToEpoch : Int := 719468

/-- The date of a day, counted from 1970-01-01. -/
def dateOfDay (day : Int) : Date :=
  let shifted := day + daysToEpoch
  let cycle := shifted.fdiv daysPerCycle
  let dayOfCycle := (shifted.fmod daysPerCycle).toNat
  let yearOfCycle :=
    (dayOfCycle - dayOfCycle / 1460 + dayOfCycle / 36524 - dayOfCycle / 146096) / 365
  let dayOfYear := dayOfCycle - (365 * yearOfCycle + yearOfCycle / 4 - yearOfCycle / 100)
  let monthFromMarch := (5 * dayOfYear + 2) / 153
  let month := if monthFromMarch < 10 then monthFromMarch + 3 else monthFromMarch - 9
  let year := (yearOfCycle : Int) + cycle * 400
  { year := if month ≤ 2 then year + 1 else year
    month := month
    day := dayOfYear - (153 * monthFromMarch + 2) / 5 + 1 }

/-- The day of a date, counted from 1970-01-01. -/
def dayOfDate (date : Date) : Int :=
  let year := if date.month ≤ 2 then date.year - 1 else date.year
  let cycle := year.fdiv 400
  let yearOfCycle := (year.fmod 400).toNat
  let monthFromMarch := if 2 < date.month then date.month - 3 else date.month + 9
  let dayOfYear := (153 * monthFromMarch + 2) / 5 + date.day - 1
  let dayOfCycle := yearOfCycle * 365 + yearOfCycle / 4 - yearOfCycle / 100 + dayOfYear
  cycle * daysPerCycle + dayOfCycle - daysToEpoch

/-- True of the years with a 29th of February. -/
def isLeapYear (year : Int) : Bool :=
  year.fmod 4 = 0 && (year.fmod 100 ≠ 0 || year.fmod 400 = 0)

/-- The number of days in a month. -/
def daysInMonth (year : Int) (month : Nat) : Nat :=
  if month = 2 then (if isLeapYear year then 29 else 28)
  else if month = 4 || month = 6 || month = 9 || month = 11 then 30
  else 31

/-- True of the dates that the calendar has. -/
def Date.isValid (date : Date) : Bool :=
  1 ≤ date.month && date.month ≤ 12 && 1 ≤ date.day && date.day ≤ daysInMonth date.year date.month

end TodoLedger.Time
