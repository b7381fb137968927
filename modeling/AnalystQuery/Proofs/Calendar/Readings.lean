import AnalystQuery.Calendar.Zone
import AnalystQuery.Proofs.Calendar.Periods

/-! What clocks show: the day, the time of day and the milliseconds of a reading in an offset, and
which readings are instants. -/

namespace AnalystQuery.Calendar

theorem isOffset_iff {seconds : Int} :
    isOffset seconds = true ↔ -86400 < seconds ∧ seconds < 86400 := by
  rw [isOffset, Bool.and_eq_true, decide_eq_true_iff, decide_eq_true_iff]
  rfl

namespace Date

/-- The years within range are those that begin within the days of the calendar. -/
theorem inRange_iff {date : Date} (valid : date.isValid = true) : date.inRange = true ↔
    daysBeforeYear earliestYear ≤ date.dayNumber ∧
      date.dayNumber < daysBeforeYear (latestYear + 1) := by
  have early := TimeUnit.beginning_le_iff .year earliestYear valid
  have late := TimeUnit.beginning_le_iff .year (latestYear + 1) valid
  simp only [TimeUnit.beginning, TimeUnit.periodOf] at early late
  rw [inRange, Bool.and_eq_true, decide_eq_true_iff, decide_eq_true_iff, ← early, ← not_le, late,
    not_le, Int.lt_add_one_iff]

end Date

namespace Reading

def onDay (day : Int) (clock milli : Nat) (offset : Int) : Reading :=
  ⟨day * daySeconds + clock - offset, milli, offset⟩

/-- The milliseconds of universal time since the beginning of year one. -/
def millis (reading : Reading) : Int := reading.second * 1000 + reading.milli

theorem localSecond_onDay (day : Int) (clock milli : Nat) (offset : Int) :
    (onDay day clock milli offset).localSecond = day * daySeconds + clock :=
  sub_add_cancel _ _

theorem date_onDay {clock : Nat} (sameDay : clock < 86400) (day : Int) (milli : Nat)
    (offset : Int) : (onDay day clock milli offset).date = Date.ofDayNumber day := by
  have whole : (day * daySeconds + clock) / daySeconds = day := by
    rw [daySeconds]
    omega
  rw [date, localSecond_onDay, whole]

theorem secondOfDay_onDay {clock : Nat} (sameDay : clock < 86400) (day : Int) (milli : Nat)
    (offset : Int) : (onDay day clock milli offset).secondOfDay = clock := by
  rw [secondOfDay, localSecond_onDay, daySeconds]
  omega

theorem isValid_date (reading : Reading) : reading.date.isValid = true :=
  Date.isValid_ofDayNumber _

theorem dayNumber_date (reading : Reading) :
    reading.date.dayNumber = reading.localSecond / daySeconds :=
  Date.dayNumber_ofDayNumber _

theorem isInstant_iff {reading : Reading} : reading.isInstant = true ↔
    reading.inRange = true ∧ reading.milli < 2000 ∧ isOffset reading.offset = true := by
  rw [isInstant, Bool.and_eq_true, Bool.and_eq_true, decide_eq_true_iff, and_assoc]

theorem instant?_eq_some_iff {reading : Reading} {instant : Instant} :
    reading.instant? = some instant ↔ instant.toReading = reading := by
  rw [instant?]
  constructor
  · intro found
    split at found
    · rw [← Option.some.inj found]
    · cases found
  · rintro rfl
    exact dif_pos instant.held

theorem instant?_eq_none {reading : Reading} (outside : reading.inRange = false) :
    reading.instant? = none := by
  rw [instant?, dif_neg]
  rw [isInstant, outside]
  exact Bool.false_ne_true

/-- A reading with the offset and the milliseconds of an instant is one where it is in range. -/
theorem map_instant? {reading : Reading} (settled : reading.milli < 2000)
    (zone : isOffset reading.offset = true) :
    reading.instant?.map Instant.toReading = if reading.inRange then some reading else none := by
  by_cases within : reading.inRange = true
  · rw [instant?, dif_pos (isInstant_iff.mpr ⟨within, settled, zone⟩), if_pos within]
    rfl
  · rw [if_neg within, instant?_eq_none (Bool.not_eq_true _ ▸ within)]
    rfl

theorem inRange_onDay {day offset : Int} {clock : Nat} (sameDay : clock < 86400)
    (zone : isOffset offset = true) (early : daysBeforeYear (earliestYear + 1) ≤ day)
    (late : day < daysBeforeYear latestYear) (milli : Nat) :
    (onDay day clock milli offset).inRange = true := by
  have first := daysBeforeYear_succ earliestYear
  have firstLong := daysInYear_pos earliestYear
  have last := daysBeforeYear_succ latestYear
  have lastLong := daysInYear_pos latestYear
  obtain ⟨west, east⟩ := isOffset_iff.mp zone
  rw [inRange, Bool.and_eq_true, decide_eq_true_iff, decide_eq_true_iff, Date.dayNumber_newYear,
    Date.dayNumber_newYearsEve, onDay, daySeconds]
  dsimp only
  omega

end Reading

namespace Instant

theorem toReading_injective : Function.Injective Instant.toReading := by
  rintro ⟨reading, held⟩ ⟨other, otherHeld⟩ same
  cases same
  rfl

theorem inRange (instant : Instant) : instant.toReading.inRange = true :=
  (Reading.isInstant_iff.mp instant.held).1

theorem milli_lt (instant : Instant) : instant.milli < 2000 :=
  (Reading.isInstant_iff.mp instant.held).2.1

theorem isOffset_offset (instant : Instant) : isOffset instant.offset = true :=
  (Reading.isInstant_iff.mp instant.held).2.2

theorem eq_onDay_of_at? {date : Date} {clock milli : Nat} {offset : Int} {instant : Instant}
    (found : at? date clock milli offset = some instant) :
    instant.toReading = .onDay date.dayNumber clock milli offset :=
  Reading.instant?_eq_some_iff.mp found

theorem at?_congr {date other : Date} (same : date.dayNumber = other.dayNumber)
    (clock milli : Nat) (offset : Int) :
    at? date clock milli offset = at? other clock milli offset := by
  rw [at?, at?, same]

theorem advance_eq {instant later : Instant} {millis : Nat}
    (reached : instant.toReading.advance millis = later.toReading) :
    instant.advance millis = later := by
  rw [advance, Reading.instant?_eq_some_iff.mpr reached.symm]
  rfl

theorem inZone_congr (instant : Instant) {timezone other : Option String}
    (same : timezone.elim 0 zoneOffset = other.elim 0 zoneOffset) :
    instant.inZone timezone = instant.inZone other :=
  toReading_injective (congrArg (Reading.mk instant.second instant.milli) same)

end Instant

end AnalystQuery.Calendar
