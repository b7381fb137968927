import AnalystQuery.Proofs.Calendar.RollingWindows

/-! Calendar phrases within text. Of those that occur, the one that is looked for first decides,
and every window that is found starts no later than it ends. -/

namespace AnalystQuery.Calendar

/-- The ends of a window, in one offset and in order. -/
structure InOrder (offset : Int) (start finish : Reading) : Prop where
  startOffset : start.offset = offset
  finishOffset : finish.offset = offset
  le : start.millis ≤ finish.millis

section Order

variable {now begun ended : Instant} {start : Reading}

/-- Every calendar phrase is "last" or "this" with a unit, "yesterday" and "today" among them. -/
theorem Period.eq_previous_or_current (period : Period) :
    ∃ unit : TimeUnit, period = unit.previous ∨ period = unit.current := by
  cases period with
  | yesterday => exact ⟨.day, Or.inl rfl⟩
  | today => exact ⟨.day, Or.inr rfl⟩
  | lastWeek => exact ⟨.week, Or.inl rfl⟩
  | lastMonth => exact ⟨.month, Or.inl rfl⟩
  | lastYear => exact ⟨.year, Or.inl rfl⟩
  | thisWeek => exact ⟨.week, Or.inr rfl⟩
  | thisMonth => exact ⟨.month, Or.inr rfl⟩
  | thisYear => exact ⟨.year, Or.inr rfl⟩

theorem TimeUnit.inOrder_previous (unit : TimeUnit)
    (found : unit.previous.window? now = some (begun, ended)) :
    InOrder now.offset begun ended := by
  obtain ⟨first, last, opens, closes, window⟩ := unit.exists_ends_previous now
  rw [window] at found
  obtain ⟨start, foundStart, found⟩ := Option.bind_eq_some_iff.mp found
  obtain ⟨finish, foundFinish, found⟩ := Option.bind_eq_some_iff.mp found
  obtain ⟨rfl, rfl⟩ := Prod.mk.inj (Option.some.inj found)
  rw [Instant.eq_onDay_of_at? foundStart, Instant.eq_onDay_of_at? foundFinish]
  have later := unit.beginning_le_beginning_iff.not.mpr
    (show ¬ unit.periodOf now.date ≤ unit.periodOf now.date - 1 by omega)
  refine ⟨rfl, rfl, ?_⟩
  simp only [Reading.millis, Reading.onDay, daySeconds]
  omega

theorem TimeUnit.inOrder_current (unit : TimeUnit)
    (found : unit.current.window? now = some (begun, ended)) :
    InOrder now.offset begun ended := by
  obtain ⟨first, opens, window⟩ := unit.exists_start_current now
  rw [window] at found
  obtain ⟨start, foundStart, found⟩ := Option.bind_eq_some_iff.mp found
  obtain ⟨rfl, rfl⟩ := Prod.mk.inj (Option.some.inj found)
  rw [Instant.eq_onDay_of_at? foundStart]
  have reached := (beginning_le_iff unit _ now.isValid_date).mpr (le_refl (unit.periodOf now.date))
  rw [← opens, Reading.dayNumber_date, Reading.localSecond, daySeconds] at reached
  refine ⟨rfl, rfl, ?_⟩
  simp only [Reading.millis, Reading.onDay, daySeconds]
  omega

theorem Date.dayNumber_eq_firstOfMonth (date : Date) :
    date.dayNumber = date.firstOfMonth.dayNumber + (date.day - 1 : Nat) := by
  simp [dayNumber, firstOfMonth]

theorem Instant.EarlierByMonths.inOrder {months : Nat}
    (earlier : now.EarlierByMonths start months) : InOrder now.offset start now := by
  have sooner : start.date.dayNumber ≤ now.date.dayNumber := by
    have first := Date.dayNumber_eq_firstOfMonth start.date
    have reference := Date.dayNumber_eq_firstOfMonth now.date
    rw [TimeUnit.dayNumber_firstOfMonth start.isValid_date] at first
    rw [TimeUnit.dayNumber_firstOfMonth now.isValid_date] at reference
    have day := earlier.day
    rcases Nat.eq_zero_or_pos months with rfl | positive
    · have same := earlier.month
      rw [Int.ofNat_zero, sub_zero] at same
      rw [same] at first
      omega
    · have begun := TimeUnit.beginning_le_iff .month
        (TimeUnit.month.periodOf now.date) start.isValid_date
      have past := earlier.month
      omega
  refine ⟨earlier.offset, rfl, ?_⟩
  have clock := earlier.clock
  have milli := earlier.milli
  rw [Reading.dayNumber_date, Reading.dayNumber_date] at sooner
  rw [Reading.secondOfDay, Reading.secondOfDay, Reading.localSecond, Reading.localSecond,
    daySeconds, earlier.offset] at clock
  rw [Reading.localSecond, Reading.localSecond, daySeconds, earlier.offset] at sooner
  rw [Reading.millis, Reading.millis]
  omega

theorem TimeUnit.ReachesBack.inOrder {amount : Nat} {unit : TimeUnit}
    (back : unit.ReachesBack now start amount) : InOrder now.offset start now := by
  have byLength {distance : Nat} (earlier : now.EarlierBy start distance) :
      InOrder now.offset start now := by
    refine ⟨earlier.offset, rfl, ?_⟩
    rw [earlier.millis]
    omega
  cases unit with
  | day | week => exact byLength back
  | month | year => exact Instant.EarlierByMonths.inOrder back

/-- A start in range is an instant: it has the offset of the reference instant, and its
milliseconds or what a step out of a leap second leaves of them. -/
theorem TimeUnit.ReachesBack.isInstant {amount : Nat} {unit : TimeUnit}
    (back : unit.ReachesBack now start amount) (within : unit.startsInRange start = true) :
    start.isInstant = true := by
  have short := now.milli_lt
  have byLength {distance : Nat} (earlier : now.EarlierBy start distance)
      (within : start.inRange = true) : start.isInstant = true := by
    refine Reading.isInstant_iff.mpr ⟨within, ?_, earlier.offset ▸ now.isOffset_offset⟩
    rw [earlier.milli]
    split <;> omega
  have byMonths {months : Nat} (earlier : now.EarlierByMonths start months)
      (within : (start.date.inRange && start.inRange) = true) : start.isInstant = true :=
    Reading.isInstant_iff.mpr ⟨((Bool.and_eq_true _ _).mp within).2, earlier.milli ▸ short,
      earlier.offset ▸ now.isOffset_offset⟩
  cases unit with
  | day | week => exact byLength back within
  | month | year => exact byMonths back within

variable {range : TimeRange}

theorem inOrder_of_range? {period : Period} (found : period.range? now = some range) :
    ∃ start finish : Instant, range = .between start finish ∧
      InOrder now.offset start finish := by
  obtain ⟨⟨start, finish⟩, window, rfl⟩ := Option.map_eq_some_iff.mp found
  refine ⟨start, finish, rfl, ?_⟩
  obtain ⟨unit, rfl | rfl⟩ := period.eq_previous_or_current
  · exact unit.inOrder_previous window
  · exact unit.inOrder_current window

theorem inOrder_of_rolling {phrase : RollingPhrase} (found : phrase.range? now = some range) :
    ∃ start finish : Instant, range = .between start finish ∧
      InOrder now.offset start finish := by
  by_cases ascii : phrase.amount.all Char.isDigit = true
  · obtain ⟨start, back, computed⟩ := exists_rollingRange now ascii
    rw [computed] at found
    obtain ⟨fitting, same⟩ := Option.ite_none_right_eq_some.mp found
    have held := back.isInstant ((Bool.and_eq_true _ _).mp fitting).2
    exact ⟨⟨start, held⟩, now, (Option.some.inj same).symm, back.inOrder⟩
  · rw [Bool.not_eq_true] at ascii
    rw [RollingPhrase.range?, ascii] at found
    cases found

theorem resolve?_eq_some_iff {text : String} :
    resolve? now text = some range ↔ resolve now text = .ok (some range) := by
  rw [resolve?]
  cases resolve now text with
  | error day => exact ⟨nofun, nofun⟩
  | ok found =>
    rw [Except.ok.injEq]
    exact Iff.rfl

theorem answer_of_ite {possible : Bool} {answer : Except MissingDay (Option TimeRange)}
    {day : MissingDay} (found : (if possible then answer else .error day) = .ok (some range)) :
    answer = .ok (some range) := by
  cases possible with
  | false => cases found
  | true => exact found

theorem exists_range?_of_rangeOf {leading : Option Period}
    (found : Period.rangeOf now leading = .ok (some range)) :
    ∃ period : Period, period.range? now = some range := by
  cases leading with
  | none => cases found
  | some period => exact ⟨period, Except.ok.inj (answer_of_ite found)⟩

theorem inOrder_of_resolve {text : String} (found : resolve now text = .ok (some range)) :
    ∃ start finish : Instant, range = .between start finish ∧
      InOrder now.offset start finish := by
  rw [resolve, resolvePlain_eq] at found
  split at found
  · cases found
  · have answered := answer_of_ite found
    split at answered
    · exact inOrder_of_rolling (Except.ok.inj answered)
    · obtain ⟨period, ranged⟩ := exists_range?_of_rangeOf answered
      exact inOrder_of_range? ranged

end Order

end AnalystQuery.Calendar
