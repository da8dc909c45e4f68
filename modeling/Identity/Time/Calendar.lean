/-
Identity/Time/Calendar.lean

The proleptic Gregorian calendar.

Days are counted from the beginning of 1970.  Years are counted from March,
so that a leap day is the last day of its year and 400 years always have
146097 days: within such an era the day determines the year, the month and
the day of the month by division alone.
-/

namespace Identity.Calendar

/-- A calendar date. -/
structure Date where
  year : Int
  month : Nat
  day : Nat
  deriving DecidableEq, Repr

/-- Days in 400 years. -/
def daysPerEra : Nat := 146097

/-- Days from the first of March of year 0 to the beginning of 1970. -/
def epochOffset : Int := 719468

/-! ### From days to dates -/

/-- The year of the era that holds a day of the era. -/
def yearOfEra (dayOfEra : Nat) : Nat :=
  (dayOfEra - dayOfEra / 1460 + dayOfEra / 36524 - dayOfEra / 146096) / 365

/-- The first day of the era that belongs to a year of it. -/
def startOfYear (yearOfEra : Nat) : Nat := 365 * yearOfEra + yearOfEra / 4 - yearOfEra / 100

/-- The month, counted from March, that holds a day of the year. -/
def monthOfYear (dayOfYear : Nat) : Nat := (5 * dayOfYear + 2) / 153

/-- The first day of the year that belongs to a month, counted from March. -/
def startOfMonth (month : Nat) : Nat := (153 * month + 2) / 5

/-- The date of a day. -/
def ofDays (days : Int) : Date :=
  let shifted := days + epochOffset
  let era := shifted / daysPerEra
  let dayOfEra := (shifted % daysPerEra).toNat
  let year := yearOfEra dayOfEra
  let dayOfYear := dayOfEra - startOfYear year
  let month := monthOfYear dayOfYear
  { year := era * 400 + year + (if month < 10 then 0 else 1)
    month := if month < 10 then month + 3 else month - 9
    day := dayOfYear - startOfMonth month + 1 }

/-! ### From dates to days -/

/-- The day of a date. -/
def toDays (date : Date) : Int :=
  let year := if date.month ≤ 2 then date.year - 1 else date.year
  let month := if date.month ≤ 2 then date.month + 9 else date.month - 3
  let era := year / 400
  let dayOfEra := startOfYear (year % 400).toNat + startOfMonth month + (date.day - 1)
  era * daysPerEra + dayOfEra - epochOffset

/-! ### Dates that exist -/

/-- The year has a leap day. -/
def isLeapYear (year : Int) : Bool := year % 4 = 0 && (year % 100 ≠ 0 || year % 400 = 0)

/-- Days in a month. -/
def daysInMonth (year : Int) (month : Nat) : Nat :=
  if month = 2 then (if isLeapYear year then 29 else 28)
  else if month = 4 || month = 6 || month = 9 || month = 11 then 30
  else 31

/-- The date exists. -/
def Date.exists (date : Date) : Bool :=
  1 ≤ date.month && date.month ≤ 12 && 1 ≤ date.day &&
    date.day ≤ daysInMonth date.year date.month

/-! ### Ends of the calendar -/

/-- The first day of the calendar: the first of January -262143. -/
def firstDay : Int := toDays ⟨-262143, 1, 1⟩

/-- The last day of the calendar: the last of December 262142. -/
def lastDay : Int := toDays ⟨262142, 12, 31⟩

/-- Seconds in a day. -/
def secondsPerDay : Nat := 86400

/-- The second lies on a day of the calendar. -/
def holds (seconds : Int) : Bool :=
  firstDay ≤ seconds / secondsPerDay && seconds / secondsPerDay ≤ lastDay

end Identity.Calendar
