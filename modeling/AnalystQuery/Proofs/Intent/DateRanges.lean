import AnalystQuery.Proofs.Calendar.Phrases
import AnalystQuery.Proofs.Calendar.WrittenDays
import AnalystQuery.Proofs.Intent.Parts

/-! Windows between two written days. Each of the days stands for its first instant, so that a
window holds its first day whole and of its last one no more than midnight. -/

namespace AnalystQuery.Intent

open Calendar (Date Instant Reading TimeRange WritesDay)
open Text (trimmed)

/-- A window that holds every instant of the days from one to another, as clocks in an offset
show them. -/
def CoversDays (firstDay lastDay : Date) (offset : Int) (start finish : Instant) : Prop :=
  ∀ moment : Instant, moment.offset = offset → moment.milli < 1000 →
    firstDay.dayNumber ≤ moment.date.dayNumber → moment.date.dayNumber ≤ lastDay.dayNumber →
      start.millis ≤ moment.millis ∧ moment.millis ≤ finish.millis

section Windows

variable {firstDay lastDay date : Date} {offset : Int} {start finish moment now : Instant}
  {first last text : String}

theorem trimmedText?_of_writes (valid : date.isValid = true) (ranged : date.inRange = true)
    (written : WritesDay date (trimmed text.toList))
    (begun : Instant.startOfDay? date offset = some start) :
    ∃ given, trimmedText? (.string text) = some given ∧
      Calendar.normalizeTimestamp given offset = start.render := by
  have nonempty : Text.trim text ≠ "" := fun empty =>
    written.ne_nil (String.ofList_eq_empty_iff.mp empty)
  refine ⟨Text.trim text, ?_, ?_⟩
  · simp [trimmedText?, Json.asString?, nonempty]
  · exact Calendar.normalizeTimestamp_of_writes valid ranged
      ((Text.trimmed_trim text).symm ▸ written) begun

theorem readTimeRange?_of_writes
    (firstValid : firstDay.isValid = true) (firstRanged : firstDay.inRange = true)
    (lastValid : lastDay.isValid = true) (lastRanged : lastDay.inRange = true)
    (opens : WritesDay firstDay (trimmed first.toList))
    (closes : WritesDay lastDay (trimmed last.toList))
    (begun : Instant.startOfDay? firstDay now.offset = some start)
    (ended : Instant.startOfDay? lastDay now.offset = some finish) :
    readTimeRange? now (.object [("from", .string first), ("to", .string last)]) =
      some (.between start finish) := by
  obtain ⟨firstGiven, firstRead, firstNormal⟩ :=
    trimmedText?_of_writes firstValid firstRanged opens begun
  obtain ⟨lastGiven, lastRead, lastNormal⟩ :=
    trimmedText?_of_writes lastValid lastRanged closes ended
  have noPhrase : firstValue? [("from", .string first), ("to", .string last)]
      ["relative", "phrase"] = none := rfl
  have fromFound : Json.lookup "from" [("from", .string first), ("to", .string last)] =
      some (.string first) := rfl
  have toFound : Json.lookup "to" [("from", .string first), ("to", .string last)] =
      some (.string last) := rfl
  simp only [readTimeRange?, noPhrase, fromFound, toFound, firstRead, lastRead, firstNormal,
    lastNormal, Option.bind_none, Option.bind_some, Option.bind_eq_bind]
  rfl

/-- A window between the beginnings of two days holds the days before the last one, and the very
first instant of that. -/
theorem between_midnights_iff (begun : Instant.startOfDay? firstDay offset = some start)
    (ended : Instant.startOfDay? lastDay offset = some finish)
    (sameOffset : moment.offset = offset) (settled : moment.milli < 1000) :
    start.millis ≤ moment.millis ∧ moment.millis ≤ finish.millis ↔
      firstDay.dayNumber ≤ moment.date.dayNumber ∧
        (moment.date.dayNumber < lastDay.dayNumber ∨ moment = finish) := by
  have opens := Instant.eq_onDay_of_at? begun
  have closes := Instant.eq_onDay_of_at? ended
  have midnight : moment = finish ↔
      moment.localSecond = lastDay.dayNumber * Calendar.daySeconds ∧ moment.milli = 0 := by
    rw [← Instant.toReading_injective.eq_iff, closes]
    constructor
    · intro same
      rw [same]
      exact ⟨by rw [Reading.localSecond_onDay, Int.natCast_zero, add_zero], rfl⟩
    · rintro ⟨second, milli⟩
      have universal : moment.second = lastDay.dayNumber * Calendar.daySeconds + 0 - offset := by
        rw [Reading.localSecond, sameOffset] at second
        omega
      rw [show moment.toReading = ⟨moment.second, moment.milli, moment.offset⟩ from rfl, universal,
        milli, sameOffset]
      rfl
  rw [midnight, Reading.dayNumber_date, opens, closes]
  simp only [Reading.millis, Reading.onDay, Reading.localSecond, sameOffset, Calendar.daySeconds]
  omega

theorem not_coversDays (ended : Instant.startOfDay? lastDay offset = some finish)
    (valid : lastDay.isValid = true) (ordered : firstDay.dayNumber ≤ lastDay.dayNumber) :
    ¬CoversDays firstDay lastDay offset start finish := by
  intro covers
  have midnight := Instant.eq_onDay_of_at? ended
  have held : (Reading.onDay lastDay.dayNumber 0 1 offset).isInstant = true := by
    have within := finish.inRange
    have zone := finish.isOffset_offset
    rw [midnight] at within zone
    exact Reading.isInstant_iff.mpr ⟨within, show 1 < 2000 by decide, zone⟩
  have sameDay : (Reading.onDay lastDay.dayNumber 0 1 offset).date = lastDay := by
    rw [Reading.date_onDay (by decide), Date.ofDayNumber_dayNumber valid]
  have inside := covers ⟨_, held⟩ rfl (show 1 < 1000 by decide) (sameDay.symm ▸ ordered)
    (sameDay.symm ▸ le_rfl)
  have past := inside.2
  rw [midnight] at past
  simp only [Reading.millis, Reading.onDay] at past
  omega

/-- Two written days in order give a window that holds each day before the last one, of the last
day only its first instant, and so never all that it names. -/
theorem written_days_end_at_midnight
    (firstValid : firstDay.isValid = true) (firstRanged : firstDay.inRange = true)
    (lastValid : lastDay.isValid = true) (lastRanged : lastDay.inRange = true)
    (ordered : firstDay.dayNumber ≤ lastDay.dayNumber)
    (opens : WritesDay firstDay (trimmed first.toList))
    (closes : WritesDay lastDay (trimmed last.toList))
    (begun : Instant.startOfDay? firstDay now.offset = some start)
    (ended : Instant.startOfDay? lastDay now.offset = some finish) :
    readTimeRange? now (.object [("from", .string first), ("to", .string last)]) =
        some (.between start finish) ∧
      (∀ moment : Instant, moment.offset = now.offset → moment.milli < 1000 →
        (start.millis ≤ moment.millis ∧ moment.millis ≤ finish.millis ↔
          firstDay.dayNumber ≤ moment.date.dayNumber ∧
            (moment.date.dayNumber < lastDay.dayNumber ∨ moment = finish))) ∧
      ¬CoversDays firstDay lastDay now.offset start finish := by
  refine ⟨?_, fun moment => between_midnights_iff begun ended, ?_⟩
  · exact readTimeRange?_of_writes firstValid firstRanged lastValid lastRanged opens closes begun
      ended
  · exact not_coversDays ended lastValid ordered

end Windows

theorem numeral_of_check {value : Nat} {digits : List Char}
    (check : (digits.all Char.isDigit && 1 ≤ digits.length && digits.length ≤ 2 &&
      Number.digitsValue digits = value) = true) : Calendar.Numeral value digits := by
  simp only [Bool.and_eq_true, decide_eq_true_eq, List.all_eq_true] at check
  obtain ⟨⟨⟨ascii, nonempty⟩, short⟩, same⟩ := check
  exact ⟨ascii, nonempty, short, same⟩

theorem newYear_written : WritesDay ⟨2026, 1, 1⟩ (trimmed "2026/01/01".toList) := by
  have text : trimmed "2026/01/01".toList =
      Reading.yearText 2026 ++ '/' :: (['0', '1'] ++ '/' :: ['0', '1']) := by decide
  rw [text]
  exact .yearFirst (numeral_of_check rfl) (numeral_of_check rfl)

theorem endOfJanuary_written : WritesDay ⟨2026, 1, 31⟩ (trimmed "01/31/2026".toList) := by
  have text : trimmed "01/31/2026".toList =
      ['0', '1'] ++ '/' :: (['3', '1'] ++ '/' :: Reading.yearText 2026) := by decide
  rw [text]
  exact .monthFirst (numeral_of_check rfl) (numeral_of_check rfl)

/-- Half past three in the afternoon of the fourteenth of October. -/
def afternoon : Instant := ⟨.onDay (Date.mk 2026 10 14).dayNumber 55800 0 0, by decide +kernel⟩

def newYear : Instant := ⟨.onDay (Date.mk 2026 1 1).dayNumber 0 0 0, by decide +kernel⟩

def endOfJanuary : Instant := ⟨.onDay (Date.mk 2026 1 31).dayNumber 0 0 0, by decide +kernel⟩

theorem january_ends_early :
    readTimeRange? afternoon
        (.object [("from", .string "2026/01/01"), ("to", .string "01/31/2026")]) =
      some (.between newYear endOfJanuary) :=
  (written_days_end_at_midnight (by decide) (by decide) (by decide) (by decide) (by decide)
    newYear_written endOfJanuary_written rfl rfl).1

/-- January without its last day. -/
theorem endOfJanuary_missed :
    readTimeRange? afternoon
        (.object [("from", .string "2026/01/01"), ("to", .string "01/31/2026")]) =
      some (.between newYear endOfJanuary) ∧
    ¬CoversDays ⟨2026, 1, 1⟩ ⟨2026, 1, 31⟩ afternoon.offset newYear endOfJanuary := by
  constructor
  · exact readTimeRange?_of_writes (by decide) (by decide) (by decide) (by decide)
      newYear_written endOfJanuary_written rfl rfl
  · exact not_coversDays rfl (by decide) (by decide)

end AnalystQuery.Intent
