import AnalystQuery.Proofs.Calendar.Readings

/-! What the calendar phrases stand for. On clocks in one offset, "last" and a unit is the full
period before the present one, from midnight to the last millisecond, and ends where "this" and
the unit begins. -/

namespace AnalystQuery.Calendar

namespace TimeUnit

/-- The phrases "today", "this week" and so on. -/
def current : TimeUnit → Period
  | .day => .today
  | .week => .thisWeek
  | .month => .thisMonth
  | .year => .thisYear

/-- The phrases "yesterday", "last week" and so on. -/
def previous : TimeUnit → Period
  | .day => .yesterday
  | .week => .lastWeek
  | .month => .lastMonth
  | .year => .lastYear

/-- The first instant of a period. -/
structure Begins (unit : TimeUnit) (number offset : Int) (start : Reading) : Prop where
  offset : start.offset = offset
  period : unit.periodOf start.date = number
  opens : unit.Opens start.date
  midnight : start.secondOfDay = 0
  exact : start.milli = 0

/-- The last millisecond of a period. -/
structure Ends (unit : TimeUnit) (number offset : Int) (finish : Reading) : Prop where
  offset : finish.offset = offset
  period : unit.periodOf finish.date = number
  closes : unit.Closes finish.date
  lastSecond : finish.secondOfDay = 86399
  lastMillisecond : finish.milli = 999

/-- A window that is a full period: it goes from its first instant to its last millisecond, and
what lies between is what happens within the period. -/
structure Spans (unit : TimeUnit) (number offset : Int) (start finish : Reading) : Prop where
  begins : unit.Begins number offset start
  ends : unit.Ends number offset finish
  holds : ∀ moment : Reading, moment.offset = offset → moment.milli < 1000 →
    (start.millis ≤ moment.millis ∧ moment.millis ≤ finish.millis ↔
      unit.periodOf moment.date = number)

variable {unit : TimeUnit} {number offset : Int}

def start (unit : TimeUnit) (number offset : Int) : Reading :=
  .onDay (unit.beginning number) 0 0 offset

def finish (unit : TimeUnit) (number offset : Int) : Reading :=
  .onDay (unit.beginning (number + 1) - 1) 86399 999 offset

theorem begins_start (unit : TimeUnit) (number offset : Int) :
    unit.Begins number offset (unit.start number offset) := by
  obtain ⟨date, valid, first, period, opens⟩ := unit.exists_opening number
  have found : (unit.start number offset).date = date := by
    rw [start, Reading.date_onDay (by decide), ← first, Date.ofDayNumber_dayNumber valid]
  refine ⟨rfl, ?_, ?_, Reading.secondOfDay_onDay (by decide) _ _ _, rfl⟩
  · rw [found, period]
  · rwa [found]

theorem ends_finish (unit : TimeUnit) (number offset : Int) :
    unit.Ends number offset (unit.finish number offset) := by
  have found : (unit.finish number offset).date =
      Date.ofDayNumber (unit.beginning (number + 1) - 1) := Reading.date_onDay (by decide) _ _ _
  have last : (unit.finish number offset).date.dayNumber + 1 = unit.beginning (number + 1) := by
    rw [found, Date.dayNumber_ofDayNumber, sub_add_cancel]
  have valid := Reading.isValid_date (unit.finish number offset)
  refine ⟨rfl, ?_, ?_, Reading.secondOfDay_onDay (by decide) _ _ _, rfl⟩
  · rw [periodOf_dayBefore unit valid last, add_sub_cancel_right]
  · exact closes_dayBefore unit valid last

theorem spans_start_finish (unit : TimeUnit) (number offset : Int) :
    unit.Spans number offset (unit.start number offset) (unit.finish number offset) := by
  refine ⟨begins_start unit number offset, ends_finish unit number offset, ?_⟩
  intro moment sameOffset settled
  have valid := Reading.isValid_date moment
  have begun := beginning_le_iff unit number valid
  have ended := beginning_le_iff unit (number + 1) valid
  rw [Reading.dayNumber_date, Reading.localSecond, sameOffset] at begun ended
  have whole : unit.periodOf moment.date = number ↔
      number ≤ unit.periodOf moment.date ∧ ¬ number + 1 ≤ unit.periodOf moment.date := by omega
  rw [whole, ← begun, ← ended]
  simp only [Reading.millis, start, finish, Reading.onDay, daySeconds]
  omega

theorem advance_finish (unit : TimeUnit) (number offset : Int) :
    (unit.finish number offset).advance 1 = unit.start (number + 1) offset := by
  have carried : (unit.finish number offset).advance 1 =
      ⟨(unit.finish number offset).second + 1, 0, offset⟩ := by
    simp [Reading.advance, finish, Reading.onDay]
  have next : (unit.finish number offset).second + 1 = (unit.start (number + 1) offset).second := by
    simp only [start, finish, Reading.onDay, daySeconds]
    omega
  rw [carried, next]
  rfl

theorem exists_ends_previous (unit : TimeUnit) (now : Instant) :
    ∃ first last : Date,
      first.dayNumber = unit.beginning (unit.periodOf now.date - 1) ∧
      last.dayNumber = unit.beginning (unit.periodOf now.date) - 1 ∧
      unit.previous.window? now = (do
        pure (← Instant.startOfDay? first now.offset, ← Instant.endOfDay? last now.offset)) := by
  have valid := now.isValid_date
  cases unit with
  | day =>
    exact ⟨_, _, Date.dayNumber_ofDayNumber _, Date.dayNumber_ofDayNumber _, rfl⟩
  | week =>
    refine ⟨_, _, ?_, ?_, rfl⟩
    · rw [Date.addDays, Date.dayNumber_ofDayNumber, dayNumber_sundayOnOrBefore, beginning,
        beginning]
      omega
    · rw [Date.addDays, Date.dayNumber_ofDayNumber, dayNumber_sundayOnOrBefore]
      rfl
  | month =>
    have lastDay : (now.date.firstOfMonth.addDays (-1)).dayNumber + 1 =
        TimeUnit.month.beginning (TimeUnit.month.periodOf now.date) := by
      rw [Date.addDays, Date.dayNumber_ofDayNumber, dayNumber_firstOfMonth valid]
      omega
    have lastValid : (now.date.firstOfMonth.addDays (-1)).isValid = true :=
      Date.isValid_ofDayNumber _
    refine ⟨_, _, ?_, eq_sub_of_add_eq lastDay, rfl⟩
    rw [dayNumber_firstOfMonth lastValid, periodOf_dayBefore .month lastValid lastDay]
  | year =>
    refine ⟨_, _, Date.dayNumber_newYear _, ?_, rfl⟩
    rw [Date.dayNumber_newYearsEve, sub_add_cancel]
    rfl

theorem exists_start_current (unit : TimeUnit) (now : Instant) :
    ∃ first : Date, first.dayNumber = unit.beginning (unit.periodOf now.date) ∧
      unit.current.window? now = (do pure (← Instant.startOfDay? first now.offset, now)) := by
  cases unit with
  | day => exact ⟨_, rfl, rfl⟩
  | week => exact ⟨_, dayNumber_sundayOnOrBefore _, rfl⟩
  | month => exact ⟨_, dayNumber_firstOfMonth now.isValid_date, rfl⟩
  | year => exact ⟨_, Date.dayNumber_newYear _, rfl⟩

theorem window?_previous_eq (unit : TimeUnit) {now other : Instant}
    (sameOffset : other.offset = now.offset)
    (samePeriod : unit.periodOf other.date = unit.periodOf now.date) :
    unit.previous.window? other = unit.previous.window? now := by
  obtain ⟨first, last, opens, closes, window⟩ := unit.exists_ends_previous now
  obtain ⟨otherFirst, otherLast, otherOpens, otherCloses, otherWindow⟩ :=
    unit.exists_ends_previous other
  rw [samePeriod, ← opens] at otherOpens
  rw [samePeriod, ← closes] at otherCloses
  rw [window, otherWindow, sameOffset, Instant.startOfDay?, Instant.at?_congr otherOpens,
    Instant.endOfDay?, Instant.at?_congr otherCloses]
  rfl

section Windows

variable {now : Instant} (early : earliestYear + 2 ≤ now.date.year)
  (late : now.date.year < latestYear)

include early late

theorem exists_at?_nearby {date : Date} {clock milli : Nat} (sameDay : clock < 86400)
    (short : milli < 2000) (notBefore : daysBeforeYear (now.date.year - 1) ≤ date.dayNumber)
    (notAfter : date.dayNumber ≤ now.date.dayNumber) :
    ∃ instant : Instant, Instant.at? date clock milli now.offset = some instant ∧
      instant.toReading = .onDay date.dayNumber clock milli now.offset := by
  obtain ⟨-, lasting⟩ := Date.dayNumber_bounds now.isValid_date
  have first := daysBeforeYear_mono
    (show earliestYear + 1 ≤ now.date.year - 1 by omega)
  have last := daysBeforeYear_mono (show now.date.year + 1 ≤ latestYear from late)
  have ranged := Reading.inRange_onDay sameDay now.isOffset_offset
    (show daysBeforeYear (earliestYear + 1) ≤ date.dayNumber by omega) (by omega) milli
  have held := Reading.isInstant_iff.mpr ⟨ranged, short, now.isOffset_offset⟩
  exact ⟨⟨_, held⟩, Reading.instant?_eq_some_iff.mpr rfl, rfl⟩

theorem exists_startOfDay?_nearby {date : Date} (recent : unit.periodOf now.date - 1 ≤ number)
    (begun : number ≤ unit.periodOf now.date) (first : date.dayNumber = unit.beginning number) :
    ∃ start : Instant, Instant.startOfDay? date now.offset = some start ∧
      start.toReading = unit.start number now.offset := by
  have notBefore := unit.daysBeforeYear_le_beginning now.isValid_date
  have later := unit.beginning_le_beginning_iff.mpr recent
  have reached := (beginning_le_iff unit _ now.isValid_date).mpr begun
  rw [start, ← first]
  exact exists_at?_nearby early late (by decide) (by decide) (by omega) (by omega)

theorem exists_endOfDay?_previous {date : Date}
    (last : date.dayNumber = unit.beginning (unit.periodOf now.date) - 1) :
    ∃ finish : Instant, Instant.endOfDay? date now.offset = some finish ∧
      finish.toReading = unit.finish (unit.periodOf now.date - 1) now.offset := by
  have notBefore := unit.daysBeforeYear_le_beginning now.isValid_date
  have later := unit.beginning_le_beginning_iff.not.mpr
    (show ¬ unit.periodOf now.date ≤ unit.periodOf now.date - 1 by omega)
  have reached := (beginning_le_iff unit _ now.isValid_date).mpr (le_refl (unit.periodOf now.date))
  rw [finish, sub_add_cancel, ← last]
  exact exists_at?_nearby early late (by decide) (by decide) (by omega) (by omega)

theorem exists_window?_previous (unit : TimeUnit) :
    ∃ start finish : Instant, unit.previous.window? now = some (start, finish) ∧
      start.toReading = unit.start (unit.periodOf now.date - 1) now.offset ∧
      finish.toReading = unit.finish (unit.periodOf now.date - 1) now.offset := by
  obtain ⟨first, last, opens, closes, window⟩ := unit.exists_ends_previous now
  obtain ⟨start, begun, starts⟩ := exists_startOfDay?_nearby early late le_rfl (by omega) opens
  obtain ⟨finish, ended, finishes⟩ := exists_endOfDay?_previous early late closes
  refine ⟨start, finish, ?_, starts, finishes⟩
  rw [window, begun, ended]
  rfl

theorem exists_window?_current (unit : TimeUnit) :
    ∃ begun : Instant, unit.current.window? now = some (begun, now) ∧
      begun.toReading = unit.start (unit.periodOf now.date) now.offset := by
  obtain ⟨first, opens, window⟩ := unit.exists_start_current now
  obtain ⟨begun, found, begins⟩ := exists_startOfDay?_nearby early late (by omega) le_rfl opens
  refine ⟨begun, ?_, begins⟩
  rw [window, found]
  rfl

end Windows

/-- The days that "last" and "this" with a unit are reckoned from are in the calendar if the day
is and the period before it begins there. -/
theorem weekInRange_of_beginning (unit : TimeUnit) {now : Instant}
    (dated : now.date.inRange = true)
    (begun : daysBeforeYear earliestYear ≤ unit.beginning (unit.periodOf now.date - 1)) :
    unit.previous.weekInRange now = true ∧ unit.current.weekInRange now = true := by
  obtain ⟨-, late⟩ := (Date.inRange_iff now.isValid_date).mp dated
  cases unit with
  | day | month | year => exact ⟨rfl, rfl⟩
  | week =>
    have sunday := dayNumber_sundayOnOrBefore now.date
    have reached := (beginning_le_iff .week _ now.isValid_date).mpr
      (le_refl (TimeUnit.week.periodOf now.date))
    simp only [beginning] at begun sunday reached
    constructor
    · refine (Date.inRange_iff (Date.isValid_ofDayNumber _)).mpr ?_
      rw [Date.dayNumber_ofDayNumber, sunday]
      omega
    · refine (Date.inRange_iff (Date.isValid_ofDayNumber _)).mpr ?_
      rw [← Date.sundayOnOrBefore, sunday]
      omega

theorem year_le_of_samePeriod (unit : TimeUnit) {date other : Date} (valid : date.isValid = true)
    (otherValid : other.isValid = true) (same : unit.periodOf other = unit.periodOf date) :
    date.year ≤ other.year + 1 := by
  have notBefore := unit.daysBeforeYear_le_beginning valid
  have later := unit.beginning_le_beginning_iff.mpr
    (show unit.periodOf date - 1 ≤ unit.periodOf date by omega)
  have reached := (beginning_le_iff unit _ otherValid).mpr same.ge
  obtain ⟨-, lasting⟩ := Date.dayNumber_bounds otherValid
  have years := daysBeforeYear_lt_iff.mp
    (show daysBeforeYear (date.year - 1) < daysBeforeYear (other.year + 1) by omega)
  omega

/-- A day in the period of a reference date that is not too close to the ends of the calendar has
all the days that its phrases are reckoned from. -/
theorem reckonable_of_samePeriod (unit : TimeUnit) {now other : Instant}
    (early : earliestYear + 2 ≤ now.date.year) (late : now.date.year < latestYear)
    (samePeriod : unit.periodOf other.date = unit.periodOf now.date) :
    other.date.inRange = true ∧ unit.previous.weekInRange other = true ∧
      unit.current.weekInRange other = true := by
  have notBefore := unit.daysBeforeYear_le_beginning now.isValid_date
  have earlier := daysBeforeYear_mono (show earliestYear ≤ now.date.year - 1 by omega)
  have dated : other.date.inRange = true := by
    have lower := unit.year_le_of_samePeriod now.isValid_date other.isValid_date samePeriod
    have upper := unit.year_le_of_samePeriod other.isValid_date now.isValid_date samePeriod.symm
    rw [Date.inRange, Bool.and_eq_true, decide_eq_true_iff, decide_eq_true_iff]
    omega
  exact ⟨dated, unit.weekInRange_of_beginning dated (by rw [samePeriod]; omega)⟩

end TimeUnit

theorem find?_phrase (period : Period) :
    Period.all.find? (fun other => other.phrase == period.phrase) = some period := by
  cases period <;> decide

theorem Period.restricted (period : Period) : unrestricted.contains period.phrase = false := by
  cases period <;> decide

theorem resolve_of_written {period : Period} {phrase : String} {now start finish : Instant}
    (written : plainPhrase phrase = period.phrase) (dated : now.date.inRange = true)
    (week : period.weekInRange now = true) (found : period.window? now = some (start, finish)) :
    resolve now phrase = .ok (some (.between start finish)) := by
  rw [resolve, resolvePlain, written, period.restricted, if_pos dated, find?_phrase,
    Period.rangeOf, if_pos week, Period.range?, found]
  rfl

/-- On clocks in one offset, "last" and a unit is the full period before the present one, which
begins a millisecond after its end; "this" and the unit is the present one so far. Within a period
"last" does not change. -/
theorem calendar_phrases_tile (unit : TimeUnit) {now : Instant} {last this : String}
    (early : earliestYear + 2 ≤ now.date.year) (late : now.date.year < latestYear)
    (writtenLast : plainPhrase last = unit.previous.phrase)
    (writtenThis : plainPhrase this = unit.current.phrase) :
    ∃ start finish begun : Instant,
      resolve now last = .ok (some (.between start finish)) ∧
      resolve now this = .ok (some (.between begun now)) ∧
      unit.Spans (unit.periodOf now.date - 1) now.offset start finish ∧
      unit.Begins (unit.periodOf now.date) now.offset begun ∧
      finish.advance 1 = begun ∧
      ∀ other : Instant, other.offset = now.offset →
        unit.periodOf other.date = unit.periodOf now.date →
        resolve other last = resolve now last := by
  obtain ⟨start, finish, previous, starts, finishes⟩ := unit.exists_window?_previous early late
  obtain ⟨begun, current, begins⟩ := unit.exists_window?_current early late
  have next := unit.advance_finish (unit.periodOf now.date - 1) now.offset
  rw [sub_add_cancel] at next
  obtain ⟨dated, lastWeek, thisWeek⟩ := unit.reckonable_of_samePeriod early late rfl
  refine ⟨start, finish, begun, resolve_of_written writtenLast dated lastWeek previous,
    resolve_of_written writtenThis dated thisWeek current, ?_, ?_, ?_, ?_⟩
  · rw [starts, finishes]
    exact unit.spans_start_finish _ _
  · rw [begins]
    exact unit.begins_start _ _
  · exact Instant.advance_eq (by rw [finishes, next, begins])
  · intro other sameOffset samePeriod
    obtain ⟨otherDated, otherWeek, -⟩ := unit.reckonable_of_samePeriod early late samePeriod
    have same := unit.window?_previous_eq sameOffset samePeriod
    rw [resolve_of_written writtenLast dated lastWeek previous,
      resolve_of_written writtenLast otherDated otherWeek (same.trans previous)]

/-- A Thursday morning; its week and the one before lie in the old year. -/
def newYearsMorning : Instant := ⟨.onDay 739616 37800 250 7200, by decide +kernel⟩

theorem last_week_on_newYearsMorning :
    newYearsMorning.date = ⟨2026, 1, 1⟩ ∧
    resolve newYearsMorning " Last  WEEK " =
      .ok (some ⟨"2025-12-21T00:00:00.000+02:00", "2025-12-27T23:59:59.999+02:00"⟩) ∧
    ∃ start finish begun : Instant,
      resolve newYearsMorning " Last  WEEK " = .ok (some (.between start finish)) ∧
      resolve newYearsMorning "this week" = .ok (some (.between begun newYearsMorning)) ∧
      TimeUnit.week.Spans (TimeUnit.week.periodOf ⟨2026, 1, 1⟩ - 1) 7200 start finish ∧
      TimeUnit.week.Begins (TimeUnit.week.periodOf ⟨2026, 1, 1⟩) 7200 begun ∧
      finish.advance 1 = begun ∧
      ∀ other : Instant, other.offset = 7200 →
        TimeUnit.week.periodOf other.date = TimeUnit.week.periodOf ⟨2026, 1, 1⟩ →
        resolve other " Last  WEEK " = resolve newYearsMorning " Last  WEEK " := by
  have today : newYearsMorning.date = ⟨2026, 1, 1⟩ := by decide +kernel
  refine ⟨today, by decide +kernel, ?_⟩
  rw [← today]
  exact calendar_phrases_tile .week (by rw [today]; decide) (by rw [today]; decide)
    (by decide +kernel) (by decide +kernel)

end AnalystQuery.Calendar
