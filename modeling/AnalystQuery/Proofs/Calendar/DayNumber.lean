import AnalystQuery.Calendar.Date
import Mathlib.Order.Monotone.Basic
import Mathlib.Algebra.Order.Group.Int
import Mathlib.Data.Int.SuccPred
import Mathlib.Data.List.GetD

/-! Days and their numbers: every number is that of exactly one date of the calendar. A day number
lies between the beginnings of two years, and what is left of it within the lengths of the months
of that year. -/

namespace AnalystQuery.Calendar

def daysInYear (year : Int) : Nat := if isLeapYear year then 366 else 365

theorem isLeapYear_iff (year : Int) :
    isLeapYear year = true ↔ year % 4 = 0 ∧ (year % 100 ≠ 0 ∨ year % 400 = 0) := by
  simp [isLeapYear]

theorem daysBeforeYear_succ (year : Int) :
    daysBeforeYear (year + 1) = daysBeforeYear year + daysInYear year := by
  simp only [daysBeforeYear, daysInYear]
  split
  · rename_i leap
    rw [isLeapYear_iff] at leap
    omega
  · rename_i plain
    rw [isLeapYear_iff] at plain
    omega

theorem daysInYear_pos (year : Int) : 365 ≤ daysInYear year := by
  rw [daysInYear]
  split <;> decide

theorem daysBeforeYear_lt_iff {year other : Int} :
    daysBeforeYear year < daysBeforeYear other ↔ year < other := by
  have ascending : StrictMono daysBeforeYear := by
    refine strictMono_int_of_lt_succ fun year => ?_
    have next := daysBeforeYear_succ year
    have long := daysInYear_pos year
    omega
  exact ascending.lt_iff_lt

theorem daysBeforeYear_mono {year other : Int} (earlier : year ≤ other) :
    daysBeforeYear year ≤ daysBeforeYear other :=
  Int.not_lt.mp (mt daysBeforeYear_lt_iff.mp (Int.not_lt.mpr earlier))

theorem yearOfDay_bounds (number : Int) :
    daysBeforeYear (yearOfDay number) ≤ number ∧
      number < daysBeforeYear (yearOfDay number + 1) := by
  have estimate : ∃ past, past = number * 400 / 146097 := ⟨_, rfl⟩
  obtain ⟨past, quotient⟩ := estimate
  have low : past * 146097 ≤ number * 400 := by omega
  have high : number * 400 < (past + 1) * 146097 := by omega
  rw [yearOfDay, ← quotient]
  split
  · rename_i early
    simp only [daysBeforeYear] at early ⊢
    omega
  · split
    · rename_i begun ended
      simp only [daysBeforeYear] at begun ended ⊢
      omega
    · rename_i begun ended
      omega

theorem yearOfDay_eq {number year : Int} (begun : daysBeforeYear year ≤ number)
    (lasting : number < daysBeforeYear (year + 1)) : yearOfDay number = year := by
  obtain ⟨low, high⟩ := yearOfDay_bounds number
  have notLater := daysBeforeYear_lt_iff.mp (low.trans_lt lasting)
  have notEarlier := daysBeforeYear_lt_iff.mp (begun.trans_lt high)
  omega

/-- The days of the first months among those of the given lengths. -/
def daysBefore (lengths : List Nat) (months : Nat) : Nat :=
  (lengths.take months).foldl (· + ·) 0

theorem daysBefore_cons (length : Nat) (rest : List Nat) (months : Nat) :
    daysBefore (length :: rest) (months + 1) = length + daysBefore rest months := by
  have moved : ∀ (days : List Nat) (start : Nat),
      days.foldl (· + ·) start = start + days.foldl (· + ·) 0 := by
    intro days
    induction days with
    | nil => simp
    | cons day days ih =>
      intro start
      rw [List.foldl_cons, List.foldl_cons, ih, ih (0 + day)]
      omega
  rw [daysBefore, List.take_succ_cons, List.foldl_cons, moved, Nat.zero_add]
  rfl

theorem daysBefore_succ (lengths : List Nat) (months : Nat) :
    daysBefore lengths (months + 1) = daysBefore lengths months + lengths.getD months 0 := by
  rw [daysBefore, List.take_add_one, List.foldl_append, List.getD_eq_getElem?_getD]
  cases lengths[months]? <;> rfl

theorem daysBefore_mono (lengths : List Nat) : Monotone (daysBefore lengths) :=
  monotone_nat_of_le_succ fun months => daysBefore_succ lengths months ▸ Nat.le_add_right _ _

theorem daysBefore_lt {lengths : List Nat} {months day : Nat} (known : months < lengths.length)
    (inside : day < lengths.getD months 0) :
    daysBefore lengths months + day < daysBefore lengths lengths.length := by
  have next := daysBefore_succ lengths months
  have whole := daysBefore_mono lengths (show months + 1 ≤ lengths.length from known)
  omega

theorem exists_month {lengths : List Nat} {passed : Nat}
    (within : passed < daysBefore lengths lengths.length) :
    ∃ months day, months < lengths.length ∧ day < lengths.getD months 0 ∧
      passed = daysBefore lengths months + day := by
  induction lengths generalizing passed with
  | nil => exact absurd within (Nat.not_lt_zero _)
  | cons length rest ih =>
    by_cases early : passed < length
    · exact ⟨0, passed, Nat.zero_lt_succ _, early, (Nat.zero_add passed).symm⟩
    · rw [List.length_cons, daysBefore_cons] at within
      have left : passed - length < daysBefore rest rest.length := by omega
      obtain ⟨months, day, known, inside, split⟩ := ih left
      refine ⟨months + 1, day, Nat.succ_lt_succ known, inside, ?_⟩
      rw [daysBefore_cons]
      omega

theorem monthOfDay_daysBefore {lengths : List Nat} {months day : Nat} (month : Nat)
    (known : months < lengths.length) (inside : day < lengths.getD months 0) :
    monthOfDay month (daysBefore lengths months + day) lengths = (month + months, day + 1) := by
  induction lengths generalizing month months with
  | nil => exact absurd known (Nat.not_lt_zero _)
  | cons length rest ih =>
    cases months with
    | zero =>
      have none : daysBefore (length :: rest) 0 = 0 := rfl
      have early : day < length := inside
      rw [none, Nat.zero_add]
      cases rest with
      | nil => rfl
      | cons next later => exact if_pos early
    | succ months =>
      have knownLater : months < rest.length := Nat.lt_of_succ_lt_succ known
      obtain ⟨next, later, split⟩ := List.exists_cons_of_ne_nil
        (List.ne_nil_of_length_pos (Nat.zero_lt_of_lt knownLater))
      have found := ih (month + 1) knownLater inside
      have passed : length + daysBefore rest months + day - length =
          daysBefore rest months + day := by omega
      have late : ¬ length + daysBefore rest months + day < length := by omega
      rw [daysBefore_cons]
      rw [split] at found passed late ⊢
      rw [monthOfDay, if_neg late, passed, found, Nat.add_right_comm, Nat.add_assoc]
      exact List.cons_ne_nil _ _

theorem daysBefore_monthLengths (year : Int) :
    daysBefore (monthLengths (isLeapYear year)) 12 = daysInYear year := by
  rw [daysInYear]
  cases isLeapYear year <;> rfl

namespace Date

variable {date : Date}

theorem isValid_iff : date.isValid = true ↔
    1 ≤ date.day ∧ date.day ≤ daysInMonth date.year date.month := by
  simp [isValid]

theorem daysInMonth_succ (year : Int) (months : Nat) :
    daysInMonth year (months + 1) = (monthLengths (isLeapYear year)).getD months 0 := rfl

theorem month_bounds (valid : date.isValid = true) : 1 ≤ date.month ∧ date.month ≤ 12 := by
  obtain ⟨first, last⟩ := isValid_iff.mp valid
  rw [daysInMonth] at last
  split at last
  · omega
  · refine ⟨by omega, ?_⟩
    by_contra late
    rw [List.getD_eq_default _ _ (by simp [monthLengths]; omega)] at last
    omega

/-- The parts of a valid date counted from zero, with its number. -/
theorem exists_parts (valid : date.isValid = true) :
    ∃ months day, date.month = months + 1 ∧ date.day = day + 1 ∧ months < 12 ∧
      day < (monthLengths (isLeapYear date.year)).getD months 0 ∧
      date.dayNumber = daysBeforeYear date.year +
        (daysBefore (monthLengths (isLeapYear date.year)) months + day : Nat) := by
  obtain ⟨known, twelve⟩ := month_bounds valid
  obtain ⟨first, last⟩ := isValid_iff.mp valid
  obtain ⟨months, month⟩ := Nat.exists_eq_add_of_le' known
  obtain ⟨day, dayOfMonth⟩ := Nat.exists_eq_add_of_le' first
  rw [month, daysInMonth_succ] at last
  refine ⟨months, day, month, dayOfMonth, by omega, by omega, ?_⟩
  rw [dayNumber, daysBeforeMonth, month, dayOfMonth, Nat.add_sub_cancel, Nat.add_sub_cancel,
    Nat.cast_add, add_assoc]
  rfl

theorem dayNumber_bounds (valid : date.isValid = true) :
    daysBeforeYear date.year ≤ date.dayNumber ∧
      date.dayNumber < daysBeforeYear (date.year + 1) := by
  obtain ⟨months, day, -, -, known, inside, number⟩ := exists_parts valid
  have within := daysBefore_lt known inside
  have whole := daysBefore_monthLengths date.year
  have next := daysBeforeYear_succ date.year
  have twelve : (monthLengths (isLeapYear date.year)).length = 12 := rfl
  rw [twelve] at within
  omega

theorem ofDayNumber_dayNumber (valid : date.isValid = true) :
    ofDayNumber date.dayNumber = date := by
  obtain ⟨begun, lasting⟩ := dayNumber_bounds valid
  obtain ⟨months, day, month, dayOfMonth, known, inside, number⟩ := exists_parts valid
  have passed : (date.dayNumber - daysBeforeYear date.year).toNat =
      daysBefore (monthLengths (isLeapYear date.year)) months + day := by omega
  have found := monthOfDay_daysBefore 1 known inside
  rw [ofDayNumber, yearOfDay_eq begun lasting, passed, found, Nat.add_comm 1, ← month,
    ← dayOfMonth]

theorem exists_dayNumber_eq (number : Int) :
    ∃ date : Date, date.isValid = true ∧ date.dayNumber = number := by
  obtain ⟨begun, lasting⟩ := yearOfDay_bounds number
  generalize yearOfDay number = year at begun lasting
  have whole := daysBefore_monthLengths year
  have next := daysBeforeYear_succ year
  have within : (number - daysBeforeYear year).toNat <
      daysBefore (monthLengths (isLeapYear year)) 12 := by omega
  obtain ⟨months, day, known, inside, split⟩ := exists_month within
  refine ⟨⟨year, months + 1, day + 1⟩, ?_, ?_⟩
  · rw [isValid_iff, daysInMonth_succ]
    exact ⟨Nat.le_add_left 1 day, inside⟩
  · rw [dayNumber, daysBeforeMonth, Nat.add_sub_cancel, Nat.add_sub_cancel]
    change daysBeforeYear year + (daysBefore (monthLengths (isLeapYear year)) months : Int) + day =
      number
    omega

theorem isValid_ofDayNumber (number : Int) : (ofDayNumber number).isValid = true := by
  obtain ⟨date, valid, rfl⟩ := exists_dayNumber_eq number
  rwa [ofDayNumber_dayNumber valid]

@[simp] theorem dayNumber_ofDayNumber (number : Int) : (ofDayNumber number).dayNumber = number := by
  obtain ⟨date, valid, rfl⟩ := exists_dayNumber_eq number
  rw [ofDayNumber_dayNumber valid]

end Date

end AnalystQuery.Calendar
