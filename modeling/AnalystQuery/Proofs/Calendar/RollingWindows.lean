import AnalystQuery.Proofs.Calendar.PhraseSearch
import AnalystQuery.Proofs.Calendar.Phrases

/-! Windows that end at the reference instant: how far "last" or "past" with an amount and a unit
reaches back, and when there is no such window. -/

namespace AnalystQuery.Calendar

open Number (digitsValue)

namespace Instant

/-- A reading that is earlier by a distance in milliseconds. A step out of a leap second starts
from its end. -/
structure EarlierBy (now : Instant) (start : Reading) (distance : Nat) : Prop where
  offset : start.offset = now.offset
  millis : start.millis = now.millis - distance
  milli : start.milli = if 0 < distance ∧ 1000 ≤ now.milli then now.milli - 1000 else now.milli

/-- The same time of day a number of months earlier, on the same day of the month or on the last
day of a shorter month. -/
structure EarlierByMonths (now : Instant) (start : Reading) (months : Nat) : Prop where
  offset : start.offset = now.offset
  month : TimeUnit.month.periodOf start.date = TimeUnit.month.periodOf now.date - months
  day : start.date.day = min now.date.day (daysInMonth start.date.year start.date.month)
  clock : start.secondOfDay = now.secondOfDay
  milli : start.milli = now.milli

theorem earlierBy_secondsEarlier (now : Instant) (seconds : Nat) :
    now.EarlierBy (now.secondsEarlier seconds) (seconds * 1000) := by
  by_cases leap : 1000 ≤ now.milli ∧ 0 < seconds
  · have settled : now.secondsEarlier seconds =
        ⟨now.second + 1 - seconds, now.milli - 1000, now.offset⟩ := by
      simp [Reading.secondsEarlier, leap]
    rw [settled]
    refine ⟨rfl, ?_, (if_pos (by omega)).symm⟩
    simp only [Reading.millis]
    omega
  · have settled : now.secondsEarlier seconds =
        ⟨now.second - seconds, now.milli, now.offset⟩ := by
      simp [Reading.secondsEarlier, leap]
    rw [settled]
    refine ⟨rfl, ?_, (if_neg (by omega)).symm⟩
    simp only [Reading.millis]
    omega

theorem exists_secondsEarlier (now : Instant) (seconds : Nat) :
    ∃ start : Reading, now.EarlierBy start (seconds * 1000) ∧
      (now.secondsEarlier? seconds).map Instant.toReading =
        if start.inRange then some start else none := by
  have earlier := now.earlierBy_secondsEarlier seconds
  have short := now.milli_lt
  refine ⟨_, earlier, Reading.map_instant? ?_ ?_⟩
  · rw [earlier.milli]
    split <;> omega
  · rw [earlier.offset]
    exact now.isOffset_offset

theorem exists_monthsEarlier (now : Instant) (months : Nat) :
    ∃ start : Reading, now.EarlierByMonths start months ∧
      (now.monthsEarlier? months).map Instant.toReading =
        if start.date.inRange && start.inRange then some start else none := by
  obtain ⟨first, -⟩ := Date.isValid_iff.mp now.isValid_date
  obtain ⟨count, counted⟩ : ∃ count, count = TimeUnit.month.periodOf now.date - months := ⟨_, rfl⟩
  obtain ⟨date, sameDate⟩ : ∃ date : Date, date = ⟨count / 12, (count % 12).toNat + 1,
      min now.date.day (daysInMonth (count / 12) ((count % 12).toNat + 1))⟩ := ⟨_, rfl⟩
  have long : 28 ≤ daysInMonth (count / 12) ((count % 12).toNat + 1) :=
    Date.le_daysInMonth (by omega)
  have valid : date.isValid = true := by
    rw [sameDate, Date.isValid_iff]
    exact ⟨le_min first (by omega), min_le_right _ _⟩
  have clock : now.secondOfDay < 86400 := by
    rw [Reading.secondOfDay, daySeconds]
    omega
  have found : (Reading.onDay date.dayNumber now.secondOfDay now.milli now.offset).date = date := by
    rw [Reading.date_onDay clock, Date.ofDayNumber_dayNumber valid]
  refine ⟨.onDay date.dayNumber now.secondOfDay now.milli now.offset,
    ⟨rfl, ?_, ?_, Reading.secondOfDay_onDay clock _ _ _, rfl⟩, ?_⟩
  · rw [found, sameDate, ← counted, TimeUnit.periodOf]
    simp only [Nat.add_sub_cancel]
    omega
  · rw [found, sameDate]
  · have computed : now.date.monthsEarlier? months = if date.inRange then some date else none := by
      have whole : now.date.monthsEarlier? months =
          if date.isValid && date.inRange then some date else none := by
        rw [sameDate, counted]
        rfl
      rw [whole, valid, Bool.true_and]
    have placed : (at? date now.secondOfDay now.milli now.offset).map Instant.toReading =
        if (Reading.onDay date.dayNumber now.secondOfDay now.milli now.offset).inRange then
          some (.onDay date.dayNumber now.secondOfDay now.milli now.offset)
        else none := Reading.map_instant? now.milli_lt now.isOffset_offset
    rw [monthsEarlier?, computed, found]
    cases date.inRange
    · rfl
    · exact placed

end Instant

/-- The start of the window of the last `amount` units: days are 24 hours and weeks 168 hours of
3600000 milliseconds, and a year is twelve months. -/
def TimeUnit.ReachesBack (now : Instant) (start : Reading) (amount : Nat) : TimeUnit → Prop
  | .day => now.EarlierBy start (amount * (24 * 3600000))
  | .week => now.EarlierBy start (amount * (168 * 3600000))
  | .month => now.EarlierByMonths start amount
  | .year => now.EarlierByMonths start (12 * amount)

def TimeUnit.fits (amount : Nat) : TimeUnit → Bool
  | .day | .week | .month => amount < Nat.pow 2 32
  | .year => 12 * amount < Nat.pow 2 32

/-- Whether a window starts within the calendar. Days and weeks go back in universal time, months
and years on the calendar of the reference instant's own offset. -/
def TimeUnit.startsInRange (start : Reading) : TimeUnit → Bool
  | .day | .week => start.inRange
  | .month | .year => start.date.inRange && start.inRange

section Windows

variable {now : Instant} {phrase : RollingPhrase}

theorem nested_ite {α : Type} (first : Prop) [Decidable first] (second : Bool) (found : Option α) :
    (if first then if second then found else none else none) =
      if decide first && second then found else none := by
  by_cases first <;> simp [*]

theorem exists_rollingStart (now : Instant) (amount : Nat) (unit : TimeUnit) :
    ∃ start, unit.ReachesBack now start amount ∧
      (if amount < Nat.pow 2 32 then (rollingStart? now amount unit).map Instant.toReading
        else none) =
          if unit.fits amount && unit.startsInRange start then some start else none := by
  have byLength (seconds : Nat) : ∃ start, now.EarlierBy start (amount * (seconds * 1000)) ∧
      (if amount < Nat.pow 2 32 then
        (now.secondsEarlier? (amount * seconds)).map Instant.toReading else none) =
          if decide (amount < Nat.pow 2 32) && start.inRange then some start else none := by
    obtain ⟨start, earlier, computed⟩ := now.exists_secondsEarlier (amount * seconds)
    rw [Nat.mul_assoc] at earlier
    exact ⟨start, earlier, by rw [computed, nested_ite]⟩
  cases unit with
  | day => exact byLength 86400
  | week => exact byLength 604800
  | month =>
    obtain ⟨start, earlier, computed⟩ := now.exists_monthsEarlier amount
    refine ⟨start, earlier, ?_⟩
    rw [rollingStart?, computed, nested_ite]
    rfl
  | year =>
    obtain ⟨start, earlier, computed⟩ := now.exists_monthsEarlier (12 * amount)
    refine ⟨start, earlier, ?_⟩
    rw [rollingStart?, Nat.mul_comm amount, apply_ite (Option.map Instant.toReading), computed,
      Option.map_none, nested_ite]
    by_cases months : 12 * amount < Nat.pow 2 32
    · have small : amount < Nat.pow 2 32 := by omega
      rw [if_pos small]
      rfl
    · rw [decide_eq_false months, TimeUnit.fits, decide_eq_false months]
      exact ite_self _

theorem exists_rollingRange (now : Instant)
    (ascii : phrase.amount.all Char.isDigit = true) :
    ∃ start, phrase.unit.ReachesBack now start (digitsValue phrase.amount) ∧
      phrase.range? now =
        if phrase.unit.fits (digitsValue phrase.amount) && phrase.unit.startsInRange start then
          some (.between start now)
        else none := by
  obtain ⟨start, back, computed⟩ :=
    exists_rollingStart now (digitsValue phrase.amount) phrase.unit
  refine ⟨start, back, ?_⟩
  have mapped : phrase.range? now =
      (if digitsValue phrase.amount < Nat.pow 2 32 then
        (rollingStart? now (digitsValue phrase.amount) phrase.unit).map Instant.toReading
      else none).map (TimeRange.between · now) := by
    rw [RollingPhrase.range?, ascii]
    by_cases small : digitsValue phrase.amount < Nat.pow 2 32
    · dsimp only
      rw [if_pos small, if_pos small]
      cases rollingStart? now (digitsValue phrase.amount) phrase.unit <;> rfl
    · dsimp only
      rw [if_neg small, if_neg small]
      rfl
  rw [mapped, computed]
  split <;> rfl

theorem not_unrestricted {text : List Char} (found : findRolling? none text = some phrase) :
    unrestricted.contains text = false := by
  have none : ∀ plain ∈ unrestricted, findRolling? none plain = none := by decide +kernel
  rw [← Bool.not_eq_true, List.contains_iff_mem]
  intro member
  rw [none text member] at found
  cases found

theorem resolve_of_rolling {text : String}
    (found : findRolling? none (plainPhrase text) = some phrase) :
    resolve now text = if now.date.inRange then .ok (phrase.range? now) else .error .today := by
  rw [resolve, resolvePlain_eq, not_unrestricted found, if_neg Bool.false_ne_true, found]

/-- The leftmost rolling phrase of a text decides. Its window ends now and goes back by the amount
in the unit; there is none exactly if the amount is too large or the start is out of range. An
instant whose own date is not in the calendar gets no answer. -/
theorem rolling_windows_exact {text : String} {place : Nat}
    (ascii : ∀ c ∈ phrase.amount, c.isDigit = true)
    (stands : phrase.StandsAt place (plainPhrase text))
    (leftmost : ∀ other : RollingPhrase, ∀ sooner < place,
      ¬ other.StandsAt sooner (plainPhrase text)) :
    ∃ start, phrase.unit.ReachesBack now start (digitsValue phrase.amount) ∧
      resolve now text =
        if now.date.inRange then
          .ok (if phrase.unit.fits (digitsValue phrase.amount) && phrase.unit.startsInRange start
            then some (.between start now)
            else none)
        else .error .today := by
  have found := findRolling?_of_leftmost stands leftmost
  obtain ⟨start, back, range⟩ := exists_rollingRange now (List.all_eq_true.mpr ascii)
  exact ⟨start, back, (resolve_of_rolling found).trans (by rw [range])⟩

end Windows

/-- The last morning of a March; February has no such day. -/
def monthsEnd : Instant := ⟨.onDay 739705 37800 250 7200, by decide +kernel⟩

theorem last_month_on_monthsEnd :
    monthsEnd.date = ⟨2026, 3, 31⟩ ∧
    resolve monthsEnd "In LAST 01  Month, past 3 days" =
      .ok (some ⟨"2026-02-28T10:30:00.250+02:00", "2026-03-31T10:30:00.250+02:00"⟩) ∧
    ∃ start, monthsEnd.EarlierByMonths start 1 ∧
      resolve monthsEnd "In LAST 01  Month, past 3 days" =
        if monthsEnd.date.inRange then
          .ok (if TimeUnit.month.fits 1 && TimeUnit.month.startsInRange start then
            some (.between start monthsEnd)
          else none)
        else .error .today := by
  have plain : plainPhrase "In LAST 01  Month, past 3 days" =
      "in last 01 month, past 3 days".toList := by decide +kernel
  have written : RollingPhrase.WrittenAs ⟨['0', '1'], .month⟩ "last 01 month".toList :=
    ⟨by decide, List.all_eq_true.mp (by decide), "last ".toList, by decide, "".toList, by decide,
      rfl⟩
  refine ⟨by decide +kernel, by rw [resolve, plain]; decide +kernel, ?_⟩
  refine @rolling_windows_exact monthsEnd ⟨['0', '1'], .month⟩ _ 3
    (List.all_eq_true.mp (by decide)) ?_ ?_
  · rw [plain]
    exact ⟨_, written, "in ".toList, ", past 3 days".toList, rfl, rfl,
      all_notJoining_iff.mp (by decide +kernel), all_notJoining_iff.mp (by decide +kernel)⟩
  · rw [plain]
    have nothing : ∀ place < 3, readRolling? endsWord
        ("in last 01 month, past 3 days".toList.drop place) = none := by
      decide +kernel
    exact fun other sooner before => RollingPhrase.not_standsAt (nothing sooner before)

/-- The last second of the calendar, on a clock an hour east where the next day has begun. -/
def calendarsEnd : Instant :=
  ⟨.onDay ((Date.mk latestYear 12 31).dayNumber + 1) 3599 0 3600, by decide +kernel⟩

def lastThreeDays : RollingPhrase := ⟨['3'], .day⟩

/-- Two amounts of three days, of which the first is written with an Arabic digit. -/
def twoScripts : String := "last \u0663 days, last 3 days"

def RollingPhrase.GoesBack (phrase : RollingPhrase) (now : Instant)
    (answer : Except MissingDay (Option TimeRange)) : Prop :=
  ∃ start, phrase.unit.ReachesBack now start (digitsValue phrase.amount) ∧
    answer =
      .ok (if phrase.unit.fits (digitsValue phrase.amount) && phrase.unit.startsInRange start then
        some (.between start now)
      else none)

theorem lastThreeDays_standsAt (front back : List Char) {text : String}
    (plain : plainPhrase text = front ++ ("last 3 days".toList ++ back))
    (before : ∀ c ∈ front.getLast?, Text.isWordCharacter c = false)
    (behind : ∀ c ∈ back.head?, Text.isWordCharacter c = false) :
    lastThreeDays.StandsAt front.length (plainPhrase text) := by
  have written : lastThreeDays.WrittenAs "last 3 days".toList :=
    ⟨by decide, List.all_eq_true.mp (by decide), "last ".toList, by decide, "s".toList, by decide,
      rfl⟩
  exact ⟨_, written, front, back, rfl, plain, before, behind⟩

theorem threeDaysEarlier_inRange {start : Reading}
    (earlier : monthsEnd.EarlierBy start (3 * (24 * 3600000))) : start.inRange = true := by
  have milli : start.milli = 250 := earlier.milli
  have millis := earlier.millis
  rw [Reading.millis, Reading.millis, milli, show monthsEnd.milli = 250 from rfl] at millis
  have second : start.second = monthsEnd.second - 259200 := by omega
  rw [Reading.inRange, second]
  decide +kernel

/-- No answer is given for an instant whose own date is not in the calendar, and a phrase whose
amount is not in ASCII hides the next one, which is the leftmost in ASCII. -/
theorem rolling_windows_missed :
    (lastThreeDays.StandsAt 0 (plainPhrase "last 3 days") ∧
      ¬lastThreeDays.GoesBack calendarsEnd (resolve calendarsEnd "last 3 days")) ∧
    lastThreeDays.StandsAt 13 (plainPhrase twoScripts) ∧
      (∀ other : RollingPhrase, (∀ c ∈ other.amount, c.isDigit = true) →
        ∀ sooner < 13, ¬other.StandsAt sooner (plainPhrase twoScripts)) ∧
      ¬lastThreeDays.GoesBack monthsEnd (resolve monthsEnd twoScripts) := by
  have alone : plainPhrase "last 3 days" = "last 3 days".toList := by decide +kernel
  have plain : plainPhrase twoScripts = twoScripts.toList := by decide +kernel
  refine ⟨⟨?_, ?_⟩, ?_, ?_, ?_⟩
  · exact lastThreeDays_standsAt [] [] alone nofun nofun
  · rintro ⟨start, -, answered⟩
    have unanswered : resolve calendarsEnd "last 3 days" = .error .today := by
      rw [resolve, alone]
      decide +kernel
    cases unanswered.symm.trans answered
  · exact lastThreeDays_standsAt "last \u0663 days, ".toList [] plain
      (all_notJoining_iff.mp (by decide +kernel)) nofun
  · intro other ascii sooner before stands
    have foreign : ∀ place < 13, ∀ found ∈ readRolling? endsWord (twoScripts.toList.drop place),
        found.amount.all Char.isDigit = false := by
      decide +kernel
    rw [plain] at stands
    have mixed := foreign sooner before other stands.reads
    rw [List.all_eq_true.mpr ascii] at mixed
    cases mixed
  · rintro ⟨start, back, answered⟩
    have unanswered : resolve monthsEnd twoScripts = .ok none := by
      rw [resolve, plain]
      decide +kernel
    have reached : (lastThreeDays.unit.fits (digitsValue lastThreeDays.amount) &&
        lastThreeDays.unit.startsInRange start) = true :=
      (Bool.and_eq_true _ _).mpr ⟨rfl, threeDaysEarlier_inRange back⟩
    rw [unanswered, if_pos reached] at answered
    cases answered

end AnalystQuery.Calendar
