import PageWalk.Text.Basic

/-!
# Dates and times

Moments as days and times of day by the Gregorian calendar, without time zones. A day is counted
from the first of March of year 0, so that a leap day is the last day of its year.
-/

namespace PageWalk.Calendar

set_option autoImplicit false

/-- A moment in nanoseconds since the beginning of 1970. -/
abbrev Moment := Int

structure Date where
  year : Int
  month : Nat
  day : Nat
  deriving DecidableEq, Repr

/-- Days from the first of March of year 0 to the beginning of 1970. -/
def epochDay : Int := 719468

def cycleDays : Int := 146097

/-- The date of a day that is counted from the beginning of 1970. -/
def dateOfDay (day : Int) : Date :=
  let shifted := day + epochDay
  let cycle := shifted.fdiv cycleDays
  let dayOfCycle := (shifted.fmod cycleDays).toNat
  let yearOfCycle :=
    (dayOfCycle - dayOfCycle / 1460 + dayOfCycle / 36524 - dayOfCycle / 146096) / 365
  let dayOfYear := dayOfCycle - (365 * yearOfCycle + yearOfCycle / 4 - yearOfCycle / 100)
  let month := (5 * dayOfYear + 2) / 153
  let year := cycle * 400 + yearOfCycle
  { year := if month < 10 then year else year + 1
    month := if month < 10 then month + 3 else month - 9
    day := dayOfYear - (153 * month + 2) / 5 + 1 }

/-- A number with at least so many digits. -/
def digits (width n : Nat) : String :=
  String.ofList ((Nat.toDigits 10 n).leftpad width '0')

def yearText (year : Int) : String :=
  if year < 0 then "-" ++ digits 4 year.natAbs
  else if 9999 < year then "+" ++ digits 4 year.natAbs
  else digits 4 year.natAbs

def Date.text (d : Date) : String :=
  s!"{yearText d.year}-{digits 2 d.month}-{digits 2 d.day}"

def secondsPerDay : Int := 86400

def hourMinute (seconds : Int) : String :=
  let second := (seconds.fmod secondsPerDay).toNat
  s!"{digits 2 (second / 3600)}:{digits 2 (second / 60 % 60)}"

def clockText (seconds : Int) : String :=
  hourMinute seconds ++ ":" ++ digits 2 ((seconds.fmod 60).toNat)

def dateText (seconds : Int) : String :=
  (dateOfDay (seconds.fdiv secondsPerDay)).text

def nanosecondsPerSecond : Int := 1000000000

def secondsOf (m : Moment) : Int :=
  m.fdiv nanosecondsPerSecond

/-- A fraction of a second in as few groups of three digits as it takes. -/
def fractionText (nanoseconds : Nat) : String :=
  if nanoseconds = 0 then ""
  else if nanoseconds % 1000000 = 0 then "." ++ digits 3 (nanoseconds / 1000000)
  else if nanoseconds % 1000 = 0 then "." ++ digits 6 (nanoseconds / 1000)
  else "." ++ digits 9 nanoseconds

/-- A moment as date and time, to the nanosecond. -/
def momentText (m : Moment) : String :=
  let seconds := secondsOf m
  dateText seconds ++ "T" ++ clockText seconds ++
    fractionText ((m.fmod nanosecondsPerSecond).toNat) ++ "Z"

/-- A moment as date and time, to the minute. -/
def minuteText (m : Moment) : String :=
  dateText (secondsOf m) ++ " " ++ hourMinute (secondsOf m)

/-- The seconds of the years that have dates, from -262143 to 262142. -/
def firstSecond : Int := -8334601228800

def lastSecond : Int := 8210266876799

/-- The time of day of a time in milliseconds, if it has a date. -/
def clockOfMilliseconds? (ms : Int) : Option String :=
  let seconds := ms.fdiv 1000
  if firstSecond ≤ seconds ∧ seconds ≤ lastSecond then some (clockText seconds) else none

end PageWalk.Calendar
