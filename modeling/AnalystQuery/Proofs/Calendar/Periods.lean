import AnalystQuery.Calendar.Phrase
import AnalystQuery.Proofs.Calendar.DayNumber

/-! Days, weeks, months and years as numbered periods that follow each other without a gap: a day
is in a period or a later one exactly if that period has begun (`beginning_le_iff`). -/

namespace AnalystQuery.Calendar

namespace Date

theorem dayNumber_newYear (year : Int) : (Date.mk year 1 1).dayNumber = daysBeforeYear year := by
  simp [dayNumber, daysBeforeMonth]

theorem dayNumber_newYearsEve (year : Int) :
    (Date.mk year 12 31).dayNumber = daysBeforeYear (year + 1) - 1 := by
  rw [daysBeforeYear_succ, dayNumber, daysInYear, daysBeforeMonth]
  cases isLeapYear year <;> simp [monthLengths] <;> omega

theorem isValid_newYearsEve (year : Int) : (Date.mk year 12 31).isValid = true := by
  rw [isValid, daysInMonth]
  cases isLeapYear year <;> rfl

theorem le_daysInMonth {year : Int} {months : Nat} (known : months < 12) :
    28 ≤ daysInMonth year (months + 1) := by
  rw [daysInMonth_succ]
  cases isLeapYear year <;> revert months <;> decide

theorem eq_of_dayNumber_eq {date other : Date} (valid : date.isValid = true)
    (otherValid : other.isValid = true) (same : date.dayNumber = other.dayNumber) :
    date = other := by
  rw [← ofDayNumber_dayNumber valid, same, ofDayNumber_dayNumber otherValid]

theorem dayNumber_first (year : Int) (months : Nat) :
    (Date.mk year (months + 1) 1).dayNumber = daysBeforeYear year +
      daysBefore (monthLengths (isLeapYear year)) months := by
  rw [dayNumber]
  exact add_zero _

end Date

namespace TimeUnit

/-- The number of the period of a unit that holds a date. Weeks begin on Sundays. -/
def periodOf : TimeUnit → Date → Int
  | .day, date => date.dayNumber
  | .week, date => (date.dayNumber + 1) / 7
  | .month, date => date.year * 12 + (date.month - 1 : Nat)
  | .year, date => date.year

/-- The number of the day on which a period begins. -/
def beginning : TimeUnit → Int → Int
  | .day, number => number
  | .week, number => 7 * number - 1
  | .month, number => (Date.mk (number / 12) ((number % 12).toNat + 1) 1).dayNumber
  | .year, number => daysBeforeYear number

def Opens : TimeUnit → Date → Prop
  | .day, _ => True
  | .week, date => date.daysSinceSunday = 0
  | .month, date => date.day = 1
  | .year, date => date.month = 1 ∧ date.day = 1

def Closes : TimeUnit → Date → Prop
  | .day, _ => True
  | .week, date => date.daysSinceSunday = 6
  | .month, date => date.day = daysInMonth date.year date.month
  | .year, date => date.month = 12 ∧ date.day = 31

variable {date : Date} {unit : TimeUnit} {number : Int}

theorem beginning_month_le_iff (valid : date.isValid = true) :
    TimeUnit.month.beginning number ≤ date.dayNumber ↔ number ≤ TimeUnit.month.periodOf date := by
  obtain ⟨months, day, month, -, known, inside, days⟩ := Date.exists_parts valid
  obtain ⟨begun, lasting⟩ := Date.dayNumber_bounds valid
  simp only [beginning, periodOf, Date.dayNumber_first, month, Nat.add_sub_cancel]
  have earlier : (number % 12).toNat < 12 := by omega
  have within := daysBefore_mono (monthLengths (isLeapYear (number / 12))) earlier.le
  rw [daysBefore_monthLengths] at within
  rcases lt_trichotomy (number / 12) date.year with past | same | future
  · have ended := daysBeforeYear_mono (show number / 12 + 1 ≤ date.year by omega)
    have next := daysBeforeYear_succ (number / 12)
    exact iff_of_true (by omega) (by omega)
  · rw [same, days]
    rcases le_or_gt (number % 12).toNat months with reached | ahead
    · have before := daysBefore_mono (monthLengths (isLeapYear date.year)) reached
      exact iff_of_true (by omega) (by omega)
    · have next := daysBefore_succ (monthLengths (isLeapYear date.year)) months
      have before := daysBefore_mono (monthLengths (isLeapYear date.year))
        (show months + 1 ≤ (number % 12).toNat from ahead)
      exact iff_of_false (by omega) (by omega)
  · have notYet := daysBeforeYear_mono (show date.year + 1 ≤ number / 12 by omega)
    exact iff_of_false (by omega) (by omega)

/-- A period has begun exactly on the days of it and of the later ones. -/
theorem beginning_le_iff (unit : TimeUnit) (number : Int) (valid : date.isValid = true) :
    unit.beginning number ≤ date.dayNumber ↔ number ≤ unit.periodOf date := by
  cases unit with
  | day => exact Iff.rfl
  | week =>
    simp only [beginning, periodOf]
    omega
  | month => exact beginning_month_le_iff valid
  | year =>
    obtain ⟨begun, lasting⟩ := Date.dayNumber_bounds valid
    simp only [beginning, periodOf]
    constructor
    · intro started
      have notLater := daysBeforeYear_lt_iff.mp (started.trans_lt lasting)
      omega
    · exact fun reached => (daysBeforeYear_mono reached).trans begun

theorem exists_opening (unit : TimeUnit) (number : Int) :
    ∃ date : Date, date.isValid = true ∧ date.dayNumber = unit.beginning number ∧
      unit.periodOf date = number ∧ unit.Opens date := by
  cases unit with
  | day =>
    exact ⟨Date.ofDayNumber number, Date.isValid_ofDayNumber _, Date.dayNumber_ofDayNumber _,
      Date.dayNumber_ofDayNumber _, trivial⟩
  | week =>
    refine ⟨Date.ofDayNumber (7 * number - 1), Date.isValid_ofDayNumber _,
      Date.dayNumber_ofDayNumber _, ?_, ?_⟩
    · rw [periodOf, Date.dayNumber_ofDayNumber]
      omega
    · rw [Opens, Date.daysSinceSunday, Date.dayNumber_ofDayNumber]
      omega
  | month =>
    have known : (number % 12).toNat < 12 := by omega
    have long : 28 ≤ daysInMonth (number / 12) ((number % 12).toNat + 1) :=
      Date.le_daysInMonth known
    refine ⟨⟨number / 12, (number % 12).toNat + 1, 1⟩, ?_, rfl, ?_, rfl⟩
    · exact Date.isValid_iff.mpr ⟨le_rfl, (show 1 ≤ 28 by decide).trans long⟩
    · simp only [periodOf, Nat.add_sub_cancel]
      omega
  | year =>
    refine ⟨⟨number, 1, 1⟩, ?_, Date.dayNumber_newYear number, rfl, rfl, rfl⟩
    have long : 28 ≤ daysInMonth number (0 + 1) := Date.le_daysInMonth (by decide)
    exact Date.isValid_iff.mpr ⟨le_rfl, (show 1 ≤ 28 by decide).trans long⟩

theorem beginning_le_beginning_iff (unit : TimeUnit) {earlier later : Int} :
    unit.beginning earlier ≤ unit.beginning later ↔ earlier ≤ later := by
  obtain ⟨date, valid, first, period, -⟩ := unit.exists_opening later
  rw [← first, beginning_le_iff unit earlier valid, period]

theorem periodOf_dayBefore (unit : TimeUnit) (valid : date.isValid = true)
    (last : date.dayNumber + 1 = unit.beginning number) : unit.periodOf date = number - 1 := by
  have begun : unit.beginning (number - 1) < unit.beginning number := by
    rw [← not_le, beginning_le_beginning_iff]
    omega
  have reached := (beginning_le_iff unit (number - 1) valid).mp (by omega)
  have notYet := (beginning_le_iff unit number valid).not.mp (by omega)
  omega

theorem closes_dayBefore (unit : TimeUnit) (valid : date.isValid = true)
    (last : date.dayNumber + 1 = unit.beginning number) : unit.Closes date := by
  have period := periodOf_dayBefore unit valid last
  cases unit with
  | day => trivial
  | week =>
    rw [beginning] at last
    rw [Closes, Date.daysSinceSunday]
    omega
  | month =>
    -- otherwise the next day would be in the same month
    by_contra inside
    obtain ⟨first, within⟩ := Date.isValid_iff.mp valid
    have next : ({ date with day := date.day + 1 } : Date).isValid = true := by
      rw [Date.isValid_iff]
      exact ⟨Nat.le_add_left 1 _, lt_of_le_of_ne within inside⟩
    have following : ({ date with day := date.day + 1 } : Date).dayNumber = date.dayNumber + 1 := by
      simp only [Date.dayNumber, daysBeforeMonth]
      omega
    have reached := (beginning_le_iff .month number next).mp
      (following.trans last).ge
    have same : TimeUnit.month.periodOf { date with day := date.day + 1 } =
      TimeUnit.month.periodOf date := rfl
    omega
  | year =>
    have days : date.dayNumber = (Date.mk (number - 1) 12 31).dayNumber := by
      rw [Date.dayNumber_newYearsEve, sub_add_cancel]
      exact eq_sub_of_add_eq last
    have eve := Date.eq_of_dayNumber_eq valid (Date.isValid_newYearsEve (number - 1)) days
    rw [eve]
    exact ⟨rfl, rfl⟩

theorem dayNumber_firstOfMonth (valid : date.isValid = true) :
    date.firstOfMonth.dayNumber = TimeUnit.month.beginning (TimeUnit.month.periodOf date) := by
  obtain ⟨first, twelve⟩ := Date.month_bounds valid
  have year : (date.year * 12 + (date.month - 1 : Nat)) / 12 = date.year := by omega
  have month : ((date.year * 12 + (date.month - 1 : Nat)) % 12).toNat + 1 = date.month := by omega
  rw [beginning, periodOf, year, month]
  rfl

theorem dayNumber_sundayOnOrBefore (date : Date) :
    date.sundayOnOrBefore.dayNumber = TimeUnit.week.beginning (TimeUnit.week.periodOf date) := by
  rw [Date.sundayOnOrBefore, Date.dayNumber_ofDayNumber, Date.daysSinceSunday, beginning, periodOf]
  omega

theorem daysBeforeYear_le_beginning (unit : TimeUnit) (valid : date.isValid = true) :
    daysBeforeYear (date.year - 1) ≤ unit.beginning (unit.periodOf date - 1) := by
  obtain ⟨begun, -⟩ := Date.dayNumber_bounds valid
  have year := daysBeforeYear_succ (date.year - 1)
  have long := daysInYear_pos (date.year - 1)
  rw [sub_add_cancel] at year
  cases unit with
  | day =>
    simp only [beginning, periodOf]
    omega
  | week =>
    simp only [beginning, periodOf]
    omega
  | month =>
    have january : daysBeforeYear (date.year - 1) =
        TimeUnit.month.beginning (12 * (date.year - 1)) := by
      rw [beginning, Int.mul_ediv_cancel_left _ (by decide), Int.mul_emod_right,
        ← Date.dayNumber_newYear]
      rfl
    rw [january, beginning_le_beginning_iff, periodOf]
    omega
  | year => exact le_rfl

end TimeUnit

end AnalystQuery.Calendar
