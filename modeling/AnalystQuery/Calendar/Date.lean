/-! Days of the proleptic Gregorian calendar, which has a year zero. A date is its year, month
and day; `dayNumber` counts days from the first of January of year one and `ofDayNumber` finds
the date again. -/

namespace AnalystQuery.Calendar

structure Date where
  year : Int
  month : Nat
  day : Nat
  deriving DecidableEq, Repr

/-- Every fourth year has a leap day, but of the full centuries only every fourth. -/
def isLeapYear (year : Int) : Bool :=
  year % 4 == 0 && (year % 100 != 0 || year % 400 == 0)

def monthLengths (leap : Bool) : List Nat :=
  [31, if leap then 29 else 28, 31, 30, 31, 30, 31, 31, 30, 31, 30, 31]

/-- The number of days of a month, zero when there is no such month. -/
def daysInMonth (year : Int) (month : Nat) : Nat :=
  if month = 0 then 0 else (monthLengths (isLeapYear year)).getD (month - 1) 0

/-- The days of all years before a year, counted from year one. -/
def daysBeforeYear (year : Int) : Int :=
  let past := year - 1
  365 * past + past / 4 - past / 100 + past / 400

def daysBeforeMonth (year : Int) (month : Nat) : Nat :=
  ((monthLengths (isLeapYear year)).take (month - 1)).foldl (· + ·) 0

def yearOfDay (number : Int) : Int :=
  let estimate := number * 400 / 146097 + 1
  if number < daysBeforeYear estimate then estimate - 1
  else if daysBeforeYear (estimate + 1) ≤ number then estimate + 1
  else estimate

/-- The month and the day of the month, from the count of days passed since `month` began. -/
def monthOfDay (month passed : Nat) : List Nat → Nat × Nat
  | [] => (month, passed + 1)
  | [_] => (month, passed + 1)
  | length :: rest =>
    if passed < length then (month, passed + 1) else monthOfDay (month + 1) (passed - length) rest

def earliestYear : Int := -262143
def latestYear : Int := 262142

namespace Date

def isValid (date : Date) : Bool :=
  1 ≤ date.day && date.day ≤ daysInMonth date.year date.month

def inRange (date : Date) : Bool := earliestYear ≤ date.year && date.year ≤ latestYear

def of? (year : Int) (month day : Nat) : Option Date :=
  let date : Date := ⟨year, month, day⟩
  if date.isValid && date.inRange then some date else none

/-- The number of days since the first of January of year one. -/
def dayNumber (date : Date) : Int :=
  daysBeforeYear date.year + daysBeforeMonth date.year date.month + (date.day - 1 : Nat)

def ofDayNumber (number : Int) : Date :=
  let year := yearOfDay number
  let (month, day) :=
    monthOfDay 1 (number - daysBeforeYear year).toNat (monthLengths (isLeapYear year))
  ⟨year, month, day⟩

def daysSinceSunday (date : Date) : Nat := ((date.dayNumber + 1) % 7).toNat

def sundayOnOrBefore (date : Date) : Date :=
  ofDayNumber (date.dayNumber - date.daysSinceSunday)

def addDays (date : Date) (days : Int) : Date := ofDayNumber (date.dayNumber + days)

def firstOfMonth (date : Date) : Date := { date with day := 1 }

/-- The same day a number of months earlier, or the last day of that month if it is shorter. -/
def monthsEarlier? (date : Date) (months : Nat) : Option Date :=
  let count := date.year * 12 + (date.month - 1 : Nat) - months
  let year := count / 12
  let month := (count % 12).toNat + 1
  of? year month (min date.day (daysInMonth year month))

end Date

end AnalystQuery.Calendar
