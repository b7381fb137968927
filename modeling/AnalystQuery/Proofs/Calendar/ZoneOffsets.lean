import AnalystQuery.Calendar.Zone
import AnalystQuery.Proofs.Number.Digits
import AnalystQuery.Proofs.Calendar.Phrases
import AnalystQuery.Proofs.Calendar.Timestamp

/-! Time zones: which texts write a fixed offset, and what each of them is read as. A whole-minute
offset of less than a day is read back from its printed form. -/

namespace AnalystQuery.Calendar

open Text (isDecimalDigit isDecimalDigit_of_isDigit IsTrimmed trimmed)
open Number (digitsValue padded)

inductive OffsetMark : Char → Int → Prop
  | east : OffsetMark '+' 1
  | west : OffsetMark '-' (-1)

/-- What stands behind the sign: one or two digits for the hours, and then possibly two for the
minutes with or without a colon. -/
inductive OffsetDigits : List Char → List Char → List Char → Prop
  | hours {hours : List Char} (width : hours.length = 1 ∨ hours.length = 2) :
      OffsetDigits hours hours []
  | joined {hours minutes : List Char} (width : hours.length = 1 ∨ hours.length = 2)
      (two : minutes.length = 2) : OffsetDigits (hours ++ minutes) hours minutes
  | apart {hours minutes : List Char} (width : hours.length = 1 ∨ hours.length = 2)
      (two : minutes.length = 2) : OffsetDigits (hours ++ ':' :: minutes) hours minutes

/-- The texts that write an offset of some hours and minutes, whatever their size. -/
inductive WritesOffset : List Char → Int → Nat → Nat → Prop
  | intro {name : String} {mark : Char} {sign : Int} {digits hours minutes : List Char}
      (named : name ∈ ["", "UTC", "GMT"]) (signed : OffsetMark mark sign)
      (written : OffsetDigits digits hours minutes)
      (ascii : ∀ c ∈ hours ++ minutes, c.isDigit = true) :
      WritesOffset (name.toList ++ mark :: digits) sign (digitsValue hours) (digitsValue minutes)

section Reading

variable {text rest hours minutes : List Char} {mark : Char} {sign : Int} {hour minute : Nat}

theorem withoutZoneName_append {name : String} (named : name ∈ ["", "UTC", "GMT"])
    (signed : OffsetMark mark sign) :
    withoutZoneName (name.toList ++ mark :: rest) = mark :: rest := by
  rw [withoutZoneName]
  simp only [List.mem_cons, List.not_mem_nil, or_false] at named
  rcases named with rfl | rfl | rfl
  · cases signed <;> simp
  all_goals simp

theorem exists_zoneName (text : List Char) :
    ∃ name ∈ ["", "UTC", "GMT"], text = name.toList ++ withoutZoneName text := by
  rw [withoutZoneName]
  split
  · rename_i named
    simp only [List.contains_cons, List.contains_nil, Bool.or_false, Bool.or_eq_true,
      beq_iff_eq] at named
    rcases named with named | named
    · exact ⟨"UTC", by simp, by rw [← named, List.take_append_drop]⟩
    · exact ⟨"GMT", by simp, by rw [← named, List.take_append_drop]⟩
  · exact ⟨"", by simp, rfl⟩

theorem OffsetDigits.of_hoursAndMinutes? (read : hoursAndMinutes? text = some (hours, minutes)) :
    OffsetDigits text hours minutes ∧ ∀ c ∈ hours ++ minutes, isDecimalDigit c = true := by
  unfold hoursAndMinutes? at read
  split at read <;> simp only [Option.ite_none_right_eq_some, Option.some.injEq, Prod.mk.injEq,
    reduceCtorEq] at read <;> obtain ⟨digits, rfl, rfl⟩ := read
  · exact ⟨.hours (.inl rfl), by simpa using digits⟩
  · exact ⟨.hours (.inr rfl), by simpa using digits⟩
  · exact ⟨@OffsetDigits.joined [_] [_, _] (.inl rfl) rfl, by simpa using digits⟩
  · exact ⟨@OffsetDigits.apart [_] [_, _] (.inl rfl) rfl, by simpa using digits⟩
  · exact ⟨@OffsetDigits.joined [_, _] [_, _] (.inr rfl) rfl, by simpa using digits⟩
  · exact ⟨@OffsetDigits.apart [_, _] [_, _] (.inr rfl) rfl, by simpa using digits⟩

theorem OffsetDigits.hoursAndMinutes?_eq (written : OffsetDigits text hours minutes)
    (digits : ∀ c ∈ hours ++ minutes, isDecimalDigit c = true) :
    hoursAndMinutes? text = some (hours, minutes) := by
  have colon : isDecimalDigit ':' = false := by decide
  cases written with
  | hours width =>
    rcases width with width | width
    · obtain ⟨a, rfl⟩ := List.length_eq_one_iff.mp width
      simpa [hoursAndMinutes?] using digits
    · obtain ⟨a, b, rfl⟩ := List.length_eq_two.mp width
      simpa [hoursAndMinutes?] using digits
  | joined width two =>
    obtain ⟨c, d, rfl⟩ := List.length_eq_two.mp two
    rcases width with width | width
    · obtain ⟨a, rfl⟩ := List.length_eq_one_iff.mp width
      simpa [hoursAndMinutes?] using digits
    · obtain ⟨a, b, rfl⟩ := List.length_eq_two.mp width
      -- The second digit is no colon, which would end the hours before it.
      have unmarked : b ≠ ':' := by
        rintro rfl
        simp [colon] at digits
      simpa [hoursAndMinutes?, unmarked] using digits
  | apart width two =>
    obtain ⟨c, d, rfl⟩ := List.length_eq_two.mp two
    rcases width with width | width
    · obtain ⟨a, rfl⟩ := List.length_eq_one_iff.mp width
      simpa [hoursAndMinutes?] using digits
    · obtain ⟨a, b, rfl⟩ := List.length_eq_two.mp width
      simpa [hoursAndMinutes?] using digits

theorem asciiValue?_eq_some_iff {digits : List Char} {value : Nat} :
    asciiValue? digits = some value ↔
      (∀ c ∈ digits, c.isDigit = true) ∧ digitsValue digits = value := by
  rw [asciiValue?, Option.ite_none_right_eq_some, List.all_eq_true, Option.some.injEq]

theorem clockValues?_eq_some_iff : clockValues? text = some (hour, minute) ↔
    ∃ hours minutes, OffsetDigits text hours minutes ∧
      (∀ c ∈ hours ++ minutes, c.isDigit = true) ∧
      digitsValue hours = hour ∧ digitsValue minutes = minute := by
  constructor
  · intro read
    obtain ⟨⟨hours, minutes⟩, found, values⟩ := Option.bind_eq_some_iff.mp read
    obtain ⟨first, hourRead, values⟩ := Option.bind_eq_some_iff.mp values
    obtain ⟨second, minuteRead, values⟩ := Option.bind_eq_some_iff.mp values
    obtain ⟨rfl, rfl⟩ := Prod.mk.inj (Option.some.inj values)
    obtain ⟨hourDigits, hourValue⟩ := asciiValue?_eq_some_iff.mp hourRead
    obtain ⟨minuteDigits, minuteValue⟩ := asciiValue?_eq_some_iff.mp minuteRead
    refine ⟨hours, minutes, (OffsetDigits.of_hoursAndMinutes? found).1, ?_, hourValue, minuteValue⟩
    exact List.forall_mem_append.mpr ⟨hourDigits, minuteDigits⟩
  · rintro ⟨hours, minutes, written, ascii, rfl, rfl⟩
    have digits : ∀ c ∈ hours ++ minutes, isDecimalDigit c = true :=
      fun c member => isDecimalDigit_of_isDigit c (ascii c member)
    obtain ⟨hourDigits, minuteDigits⟩ := List.forall_mem_append.mp ascii
    have hourRead := asciiValue?_eq_some_iff.mpr ⟨hourDigits, rfl⟩
    have minuteRead := asciiValue?_eq_some_iff.mpr ⟨minuteDigits, rfl⟩
    simp only [clockValues?, written.hoursAndMinutes?_eq digits, Option.bind_eq_bind,
      Option.bind_some, hourRead, minuteRead, Option.pure_def]

theorem offsetParts?_eq_some_iff :
    offsetParts? text = some (sign, hour, minute) ↔ WritesOffset text sign hour minute := by
  constructor
  · intro read
    obtain ⟨name, named, split⟩ := exists_zoneName text
    rw [split]
    -- A text without a sign in front of its digits writes no offset.
    have behind (mark : Char) (clock : List Char) (signed : OffsetMark mark sign)
        (values : clockValues? clock = some (hour, minute)) :
        WritesOffset (name.toList ++ mark :: clock) sign hour minute := by
      obtain ⟨hours, minutes, written, ascii, rfl, rfl⟩ := clockValues?_eq_some_iff.mp values
      exact .intro named signed written ascii
    rw [offsetParts?] at read
    split at read
    · rename_i clock begins
      obtain ⟨⟨_, _⟩, values, parts⟩ := Option.map_eq_some_iff.mp read
      cases parts
      rw [begins]
      exact behind _ clock .east values
    · rename_i clock begins
      obtain ⟨⟨_, _⟩, values, parts⟩ := Option.map_eq_some_iff.mp read
      cases parts
      rw [begins]
      exact behind _ clock .west values
    · cases read
  · rintro ⟨named, signed, written, ascii⟩
    have values := clockValues?_eq_some_iff.mpr ⟨_, _, written, ascii, rfl, rfl⟩
    rw [offsetParts?, withoutZoneName_append named signed]
    cases signed <;> simp only [values, Option.map_some]

theorem WritesOffset.sign_eq (written : WritesOffset text sign hour minute) :
    sign = 1 ∨ sign = -1 := by
  obtain ⟨-, signed, -, -⟩ := written
  cases signed
  · exact .inl rfl
  · exact .inr rfl

theorem WritesOffset.unique {sign' : Int} {hour' minute' : Nat}
    (written : WritesOffset text sign hour minute)
    (other : WritesOffset text sign' hour' minute') :
    sign = sign' ∧ hour = hour' ∧ minute = minute' := by
  have same := offsetParts?_eq_some_iff.mpr other
  rw [offsetParts?_eq_some_iff.mpr written] at same
  simpa using same

theorem isOffset_signed (signed : sign = 1 ∨ sign = -1) :
    isOffset (sign * (hour * 3600 + minute * 60 : Nat)) = true ↔ hour * 60 + minute < 1440 := by
  rw [isOffset_iff]
  rcases signed with rfl | rfl <;> omega

theorem WritesOffset.fixedOffset?_eq (written : WritesOffset text sign hour minute) :
    fixedOffset? text = if hour * 60 + minute < 1440
      then some (sign * (hour * 3600 + minute * 60 : Nat)) else none := by
  simp only [fixedOffset?, offsetParts?_eq_some_iff.mpr written, Option.bind_eq_bind,
    Option.bind_some, isOffset_signed written.sign_eq]

theorem fixedOffset?_eq_none (unwritten : ∀ sign hour minute, ¬WritesOffset text sign hour minute) :
    fixedOffset? text = none := by
  have none : offsetParts? text = none := by
    rw [Option.eq_none_iff_forall_ne_some]
    rintro ⟨sign, hour, minute⟩ read
    exact unwritten _ _ _ (offsetParts?_eq_some_iff.mp read)
  rw [fixedOffset?, none]
  rfl

end Reading

/-- An offset that a text stands for by the clock: what it writes, if its hours and minutes are
those of a clock, and universal time otherwise. -/
structure ClockOffset (text : List Char) (offset : Int) : Prop where
  written : ∀ sign hour minute, WritesOffset text sign hour minute → hour ≤ 23 → minute ≤ 59 →
    offset = sign * (hour * 3600 + minute * 60 : Nat)
  otherwise : (∀ sign hour minute, WritesOffset text sign hour minute →
    ¬(hour ≤ 23 ∧ minute ≤ 59)) → offset = 0

section Zones

variable {zone : String} {text : List Char} {mark : Char} {sign : Int} {hour minute minutes : Nat}

theorem zoneOffset_of_writes (written : WritesOffset (trimmed zone.toList) sign hour minute) :
    zoneOffset zone = if hour * 60 + minute < 1440
      then sign * (hour * 3600 + minute * 60 : Nat) else 0 := by
  rw [zoneOffset, written.fixedOffset?_eq]
  split <;> rfl

theorem zoneOffset_of_not_writes
    (unwritten : ∀ sign hour minute, ¬WritesOffset (trimmed zone.toList) sign hour minute) :
    zoneOffset zone = 0 := by
  rw [zoneOffset, fixedOffset?_eq_none unwritten]
  rfl

/-- Minutes past 59 are the only ones that are not read by the clock. -/
theorem clockOffset_iff : ClockOffset (trimmed zone.toList) (zoneOffset zone) ↔
    ∀ sign hour minute, WritesOffset (trimmed zone.toList) sign hour minute → 60 ≤ minute →
      1440 ≤ hour * 60 + minute := by
  constructor
  · intro clock sign hour minute written long
    by_contra short
    have offset := zoneOffset_of_writes written
    rw [if_pos (by omega), clock.otherwise] at offset
    · rcases written.sign_eq with rfl | rfl <;> omega
    · intro sign' hour' minute' other inside
      obtain ⟨-, -, same⟩ := written.unique other
      omega
  · intro bounded
    refine ⟨fun sign hour minute written hours minutes => ?_, fun outside => ?_⟩
    · rw [zoneOffset_of_writes written, if_pos (by omega)]
    · by_cases written : ∃ sign hour minute, WritesOffset (trimmed zone.toList) sign hour minute
      · obtain ⟨sign, hour, minute, written⟩ := written
        have apart := outside _ _ _ written
        have long := bounded _ _ _ written
        rw [zoneOffset_of_writes written, if_neg (by omega)]
      · refine zoneOffset_of_not_writes fun sign hour minute writes => written ?_
        exact ⟨sign, hour, minute, writes⟩

theorem writes_printed (signed : OffsetMark mark sign) (day : minutes < 1440) :
    WritesOffset (mark :: (padded 2 (minutes / 60) ++ ':' :: padded 2 (minutes % 60))) sign
      (minutes / 60) (minutes % 60) := by
  have hourWidth : (padded 2 (minutes / 60)).length = 2 :=
    Number.length_padded (by decide) (show _ < 100 by omega)
  have minuteWidth : (padded 2 (minutes % 60)).length = 2 :=
    Number.length_padded (by decide) (show _ < 100 by omega)
  have ascii : ∀ c ∈ padded 2 (minutes / 60) ++ padded 2 (minutes % 60), c.isDigit = true :=
    List.forall_mem_append.mpr
      ⟨fun _ => Number.isDigit_of_mem_padded, fun _ => Number.isDigit_of_mem_padded⟩
  have written := @WritesOffset.intro "" _ _ _ _ _ (by simp) signed
    (.apart (.inr hourWidth) minuteWidth) ascii
  rwa [Number.digitsValue_padded, Number.digitsValue_padded] at written

theorem isTrimmed_printed (signed : OffsetMark mark sign) (first second : Nat) :
    IsTrimmed (mark :: (padded 2 first ++ ':' :: padded 2 second)) := by
  have written : (mark :: (padded 2 first ++ ':' :: padded 2 second)).all isInstantCharacter := by
    rw [List.all_cons, List.all_append, List.all_cons, all_padded, all_padded]
    cases signed <;> rfl
  exact .of_visible fun c member =>
    isBlank_of_isInstantCharacter (List.all_eq_true.mp written c member)

theorem zoneOffset_printed (signed : OffsetMark mark sign) (day : minutes < 1440)
    (printed : zone.toList = mark :: (padded 2 (minutes / 60) ++ ':' :: padded 2 (minutes % 60))) :
    zoneOffset zone = sign * (minutes * 60 : Nat) := by
  have written := writes_printed signed day
  rw [← (isTrimmed_printed signed _ _).trimmed_eq, ← printed] at written
  rw [zoneOffset_of_writes written, if_pos (by omega)]
  congr 2
  omega

end Zones

/-- A time zone is read by its hours and minutes, which stay below a day, and means universal time
where it writes none. The clock's limits hold unless minutes past 59 keep below a day, and printed
offsets are read back. -/
theorem zone_offsets_read (zone : String) :
    (∀ sign hour minute, WritesOffset (trimmed zone.toList) sign hour minute →
      zoneOffset zone = if hour * 60 + minute < 1440
        then sign * (hour * 3600 + minute * 60 : Nat) else 0) ∧
    ((∀ sign hour minute, ¬WritesOffset (trimmed zone.toList) sign hour minute) →
      zoneOffset zone = 0) ∧
    (ClockOffset (trimmed zone.toList) (zoneOffset zone) ↔
      ∀ sign hour minute, WritesOffset (trimmed zone.toList) sign hour minute → 60 ≤ minute →
        1440 ≤ hour * 60 + minute) ∧
    ∀ mark sign minutes, OffsetMark mark sign → minutes < 1440 →
      zone.toList = mark :: (padded 2 (minutes / 60) ++ ':' :: padded 2 (minutes % 60)) →
      zoneOffset zone = sign * (minutes * 60 : Nat) := by
  refine ⟨fun _ _ _ => zoneOffset_of_writes, zoneOffset_of_not_writes, clockOffset_iff, ?_⟩
  exact fun _ _ _ => zoneOffset_printed

theorem halfPastFive_read :
    WritesOffset (trimmed "GMT+5:30".toList) 1 5 30 ∧ zoneOffset "GMT+5:30" = 19800 := by
  have written : WritesOffset (trimmed "GMT+5:30".toList) 1 5 30 := by
    have text : trimmed "GMT+5:30".toList =
        "GMT".toList ++ '+' :: (['5'] ++ ':' :: ['3', '0']) := by
      decide
    rw [text]
    exact .intro (by simp) .east (.apart (.inl rfl) rfl) (List.all_eq_true.mp (by decide))
  exact ⟨written, (zone_offsets_read "GMT+5:30").1 1 5 30 written⟩

/-- Seventy-five minutes behind twelve hours are counted, although no clock shows them. -/
theorem long_minutes_counted :
    ¬ClockOffset (trimmed "+12:75".toList) (zoneOffset "+12:75") := by
  have written : WritesOffset (trimmed "+12:75".toList) 1 12 75 := by
    have text : trimmed "+12:75".toList =
        "".toList ++ '+' :: (['1', '2'] ++ ':' :: ['7', '5']) := by
      decide
    rw [text]
    exact .intro (by simp) .east (.apart (.inr rfl) rfl) (List.all_eq_true.mp (by decide))
  intro clock
  have bounded := clockOffset_iff.mp clock _ _ _ written
  omega

end AnalystQuery.Calendar
