import AnalystQuery.Calendar.Date
import AnalystQuery.Number.Decimal

/-! Instants with a fixed offset from universal time, and their text: date and time of day in
the instant's own offset, with milliseconds. A `Reading` is a moment as it is reckoned, in the
calendar or not; an `Instant` is one that lies in the calendar. -/

namespace AnalystQuery.Calendar

def daySeconds : Int := 86400

/-- Seconds of universal time since the beginning of year one, milliseconds within the second,
and the seconds east of universal time. A millisecond part of 1000 or more lies in a leap
second. -/
structure Reading where
  second : Int
  milli : Nat
  offset : Int
  deriving DecidableEq, Repr

def isOffset (seconds : Int) : Bool := -daySeconds < seconds && seconds < daySeconds

namespace Reading

def inRange (reading : Reading) : Bool :=
  (Date.mk earliestYear 1 1).dayNumber * daySeconds ≤ reading.second &&
    reading.second < ((Date.mk latestYear 12 31).dayNumber + 1) * daySeconds

def isInstant (reading : Reading) : Bool :=
  reading.inRange && reading.milli < 2000 && isOffset reading.offset

def localSecond (reading : Reading) : Int := reading.second + reading.offset

def date (reading : Reading) : Date := Date.ofDayNumber (reading.localSecond / daySeconds)

def secondOfDay (reading : Reading) : Nat := (reading.localSecond % daySeconds).toNat

def advance (reading : Reading) (millis : Nat) : Reading :=
  let total := reading.milli + millis
  { reading with second := reading.second + (total / 1000 : Nat), milli := total % 1000 }

/-- The reading a number of seconds earlier; a step out of a leap second starts from its end. -/
def secondsEarlier (reading : Reading) (seconds : Nat) : Reading :=
  let settled :=
    if 1000 ≤ reading.milli && 0 < seconds then
      { reading with second := reading.second + 1, milli := reading.milli - 1000 }
    else reading
  { settled with second := settled.second - seconds }

def yearText (year : Int) : List Char :=
  if 0 ≤ year && year ≤ 9999 then Number.padded 4 year.toNat
  else (if year < 0 then '-' else '+') :: Number.padded 4 year.natAbs

def offsetText (offset : Int) : List Char :=
  if offset = 0 then ['Z']
  else
    let minutes := (offset.natAbs + 30) / 60
    (if offset < 0 then '-' else '+') ::
      (Number.padded 2 (minutes / 60) ++ ':' :: Number.padded 2 (minutes % 60))

/-- Date, time and offset with milliseconds, as in `2026-10-14T10:30:00.000Z`. -/
def render (reading : Reading) : String :=
  let date := reading.date
  let clock := reading.secondOfDay
  let second := clock % 60 + reading.milli / 1000
  String.ofList <|
    yearText date.year ++ '-' :: Number.padded 2 date.month ++ '-' :: Number.padded 2 date.day ++
      'T' :: Number.padded 2 (clock / 3600) ++ ':' :: Number.padded 2 (clock / 60 % 60) ++
      ':' :: Number.padded 2 second ++ '.' :: Number.padded 3 (reading.milli % 1000) ++
      offsetText reading.offset

end Reading

/-- A reading in the calendar, whose range is that of universal time: on a clock in the instant's
own offset the date may be the day before the calendar or the day after it. -/
structure Instant extends Reading where
  held : toReading.isInstant = true
  deriving DecidableEq, Repr

instance : Coe Instant Reading := ⟨Instant.toReading⟩

def Reading.instant? (reading : Reading) : Option Instant :=
  if held : reading.isInstant then some ⟨reading, held⟩ else none

namespace Instant

def origin : Instant := ⟨⟨0, 0, 0⟩, by decide⟩

def at? (date : Date) (secondOfDay milli : Nat) (offset : Int) : Option Instant :=
  Reading.instant? ⟨date.dayNumber * daySeconds + secondOfDay - offset, milli, offset⟩

def startOfDay? (date : Date) (offset : Int) : Option Instant := at? date 0 0 offset

def endOfDay? (date : Date) (offset : Int) : Option Instant := at? date 86399 999 offset

def ofEpochMillis? (millis : Int) : Option Instant :=
  Reading.instant?
    ⟨(Date.mk 1970 1 1).dayNumber * daySeconds + millis / 1000, (millis % 1000).toNat, 0⟩

def withOffset (instant : Instant) {offset : Int} (zone : isOffset offset = true) : Instant :=
  { instant with
    offset
    held := by
      have held := instant.held
      rw [Reading.isInstant, Bool.and_eq_true, Bool.and_eq_true] at held ⊢
      exact ⟨held.1, zone⟩ }

/-- The instant a number of milliseconds later; a step out of a leap second starts from its end.
At the end of the calendar clocks stand still. -/
def advance (instant : Instant) (millis : Nat) : Instant :=
  (instant.toReading.advance millis).instant?.getD instant

def secondsEarlier? (instant : Instant) (seconds : Nat) : Option Instant :=
  (instant.toReading.secondsEarlier seconds).instant?

def monthsEarlier? (instant : Instant) (months : Nat) : Option Instant := do
  let date ← instant.date.monthsEarlier? months
  at? date instant.secondOfDay instant.milli instant.offset

end Instant

end AnalystQuery.Calendar
