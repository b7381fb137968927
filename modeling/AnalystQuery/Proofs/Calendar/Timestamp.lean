import AnalystQuery.Calendar.Timestamp
import AnalystQuery.Proofs.Number.Digits
import AnalystQuery.Proofs.Text.Blank

/-! Normal timestamps: the text of an instant is one, whatever its year, and a timestamp that is
normalized once stays as it is. -/

namespace AnalystQuery.Calendar

open Number (padded)
open Text (isBlank trimmed)

theorem monthOfDay_le (month passed : Nat) (lengths : List Nat) :
    (monthOfDay month passed lengths).1 ≤ month + lengths.length := by
  fun_induction monthOfDay month passed lengths with
  | case1 month passed => exact Nat.le_add_right month 0
  | case2 month passed length => exact Nat.le_add_right month 1
  | case3 month passed length rest more early => exact Nat.le_add_right month _
  | case4 month passed length rest more late ih =>
    rw [List.length_cons]
    omega

theorem month_lt (reading : Reading) : reading.date.month < Nat.pow 10 2 := by
  have bound := monthOfDay_le 1 (reading.localSecond / daySeconds -
    daysBeforeYear (yearOfDay (reading.localSecond / daySeconds))).toNat
    (monthLengths (isLeapYear (yearOfDay (reading.localSecond / daySeconds))))
  have twelve : (monthLengths (isLeapYear (yearOfDay
    (reading.localSecond / daySeconds)))).length = 12 := rfl
  rw [twelve] at bound
  exact Nat.lt_of_le_of_lt bound (by decide)

def isInstantCharacter (c : Char) : Bool := c.isDigit || ['-', '+', ':', '.', 'T', 'Z'].contains c

theorem isBlank_of_isInstantCharacter {c : Char} (written : isInstantCharacter c = true) :
    isBlank c = false := by
  rcases Bool.or_eq_true_iff.mp written with digit | mark
  · have bounds : 48 ≤ c.toNat ∧ c.toNat ≤ 57 := by
      simpa [Char.isDigit, UInt32.le_iff_toNat_le] using digit
    simp [isBlank, Text.inRanges, Text.blankRanges]
    omega
  · have visible : ∀ mark ∈ ['-', '+', ':', '.', 'T', 'Z'], isBlank mark = false := by
      simp only [List.forall_mem_cons]
      exact ⟨by decide, by decide, by decide, by decide, by decide, by decide,
        List.forall_mem_nil _⟩
    exact visible c (List.contains_iff_mem.mp mark)

variable {reading : Reading} {rest : List Char}

theorem all_padded (width value : Nat) : (padded width value).all isInstantCharacter = true := by
  refine List.all_eq_true.mpr fun c member => ?_
  rw [isInstantCharacter, Number.isDigit_of_mem_padded member]
  rfl

theorem all_yearText (year : Int) : (Reading.yearText year).all isInstantCharacter = true := by
  rw [Reading.yearText]
  split
  · exact all_padded _ _
  · rw [List.all_cons, all_padded]
    split <;> rfl

theorem all_offsetText (offset : Int) :
    (Reading.offsetText offset).all isInstantCharacter = true := by
  rw [Reading.offsetText]
  split
  · rfl
  · simp only [List.all_cons, List.all_append, all_padded]
    split <;> rfl

theorem all_render (reading : Reading) :
    reading.render.toList.all isInstantCharacter = true := by
  simp only [Reading.render, String.toList_ofList, List.all_cons, List.all_append, all_padded,
    all_yearText, all_offsetText]
  rfl

theorem isTrimmed_render (reading : Reading) : Text.IsTrimmed reading.render.toList :=
  .of_visible fun c member =>
    isBlank_of_isInstantCharacter (List.all_eq_true.mp (all_render reading) c member)

theorem render_eq (reading : Reading) :
    ∃ rest, reading.render.toList = Reading.yearText reading.date.year ++
      '-' :: (padded 2 reading.date.month ++ '-' :: (padded 2 reading.date.day ++ rest)) := by
  simp only [Reading.render, String.toList_ofList, List.append_assoc, List.cons_append]
  exact ⟨_, rfl⟩

theorem yearText_eq (year : Int) : Reading.yearText year =
    if 0 ≤ year ∧ year ≤ 9999 then padded 4 year.toNat
    else (if year < 0 then '-' else '+') :: padded 4 year.natAbs := by
  simp only [Reading.yearText, Bool.and_eq_true, decide_eq_true_eq]

theorem isDecimalDigit_of_mem_padded {c : Char} {width value : Nat}
    (member : c ∈ padded width value) : Text.isDecimalDigit c = true :=
  Text.isDecimalDigit_of_isDigit c (Number.isDigit_of_mem_padded member)

theorem beginsWithIsoDate_render (plain : 0 ≤ reading.date.year ∧ reading.date.year ≤ 9999) :
    beginsWithIsoDate reading.render.toList = true := by
  obtain ⟨rest, text⟩ := render_eq reading
  have yearDigits (c : Char) : c ∈ padded 4 reading.date.year.toNat →
      Text.isDecimalDigit c = true := isDecimalDigit_of_mem_padded
  have monthDigits (c : Char) : c ∈ padded 2 reading.date.month →
      Text.isDecimalDigit c = true := isDecimalDigit_of_mem_padded
  have dayDigits (c : Char) : c ∈ padded 2 reading.date.day →
      Text.isDecimalDigit c = true := isDecimalDigit_of_mem_padded
  have fourDigits : reading.date.year.toNat < Nat.pow 10 4 := by
    have value : Nat.pow 10 4 = 10000 := rfl
    omega
  obtain ⟨a, b, c, d, year⟩ := List.length_eq_four.mp
    (Number.length_padded (by decide) fourDigits)
  obtain ⟨e, f, month⟩ := List.length_eq_two.mp
    (Number.length_padded (by decide) (month_lt reading))
  have dayLength := Number.le_length_padded 2 reading.date.day
  rcases day : padded 2 reading.date.day with - | ⟨g, - | ⟨h, days⟩⟩
  · rw [day] at dayLength
    cases dayLength
  · rw [day] at dayLength
    cases dayLength with
    | step none => cases none
  · simp only [year, month, day, List.mem_cons] at yearDigits monthDigits dayDigits
    rw [text, yearText_eq, if_pos plain, year, month, day]
    simp [beginsWithIsoDate, yearDigits, monthDigits, dayDigits]

theorem render_of_signed_year (signed : ¬ (0 ≤ reading.date.year ∧ reading.date.year ≤ 9999)) :
    ∃ sign digits rest, (sign = '-' ∨ sign = '+') ∧ (∀ c ∈ digits, c.isDigit = true) ∧
      reading.render.toList = sign :: (digits ++ '-' :: rest) := by
  obtain ⟨rest, text⟩ := render_eq reading
  have sign : (if reading.date.year < 0 then '-' else '+') = '-' ∨
      (if reading.date.year < 0 then '-' else '+') = '+' := by
    split
    · exact Or.inl rfl
    · exact Or.inr rfl
  rw [yearText_eq, if_neg signed] at text
  exact ⟨_, _, _, sign, fun c => Number.isDigit_of_mem_padded, text⟩

section Signed

variable {sign : Char} {digits : List Char}

theorem mailDate_of_sign (signed : sign = '-' ∨ sign = '+') :
    MailDate.read? (sign :: rest) = none := by
  rcases signed with rfl | rfl <;> rfl

theorem wholeNumber_append (numeric : ∀ c ∈ digits, c.isDigit = true) {least value : Nat}
    {after : List Char}
    (read : Scan.wholeNumber? least (digits ++ '-' :: rest) = some (value, after)) :
    after = '-' :: rest := by
  have taken : (digits ++ '-' :: rest).takeWhile Char.isDigit = digits := by
    rw [List.takeWhile_append_of_pos numeric, List.takeWhile_cons_of_neg (by decide),
      List.append_nil]
  rw [Scan.wholeNumber?, Scan.number?, List.take_length, taken] at read
  split at read
  · cases read
  · rw [List.drop_left] at read
    exact (Prod.mk.inj (Option.some.inj read)).2.symm

/-- Only a year has a sign, and no year is followed by a hyphen. -/
theorem readParts_of_signed_year (signed : sign = '-' ∨ sign = '+')
    (numeric : ∀ c ∈ digits, c.isDigit = true) :
    ∀ form ∈ dateForms, readParts? ⟨0, 0, 0⟩ form (sign :: (digits ++ '-' :: rest)) = none := by
  have yearFirst (parts : List DatePart) :
      readParts? ⟨0, 0, 0⟩ (.year :: .mark '/' :: parts) (sign :: (digits ++ '-' :: rest)) =
        none := by
    have unspaced : Scan.skipBlank (sign :: (digits ++ '-' :: rest)) =
        sign :: (digits ++ '-' :: rest) := by
      rcases signed with rfl | rfl <;> rfl
    simp only [readParts?, unspaced, Option.bind_eq_bind, Option.bind_eq_none_iff]
    rintro ⟨year, after⟩ read
    have hyphen : after = '-' :: rest := by
      rcases signed with rfl | rfl
      all_goals
        obtain ⟨⟨value, behind⟩, number, same⟩ := Option.map_eq_some_iff.mp read
        rw [← (Prod.mk.inj same).2]
        exact wholeNumber_append numeric number
    subst hyphen
    intro behind mark
    cases mark
  simp only [dateForms, List.forall_mem_cons]
  rcases signed with rfl | rfl
  · exact ⟨yearFirst _, rfl, rfl, rfl, rfl, rfl, List.forall_mem_nil _⟩
  · exact ⟨yearFirst _, rfl, rfl, rfl, rfl, rfl, List.forall_mem_nil _⟩

theorem writtenDay_of_signed_year (signed : sign = '-' ∨ sign = '+')
    (numeric : ∀ c ∈ digits, c.isDigit = true) (offset : Int) :
    writtenDay? (sign :: (digits ++ '-' :: rest)) offset = none := by
  rw [writtenDay?, List.findSome?_eq_none_iff]
  intro form member
  rw [readParts_of_signed_year signed numeric form member]
  rfl

end Signed

/-- A timestamp that reading it again leaves as it is. -/
structure IsNormalTimestamp (offset : Int) (text : String) : Prop where
  trimmed : Text.trim text = text
  nonempty : text ≠ ""
  normal : normalizeTimestamp text offset = text

theorem isNormalTimestamp_render (reading : Reading) (offset : Int) :
    IsNormalTimestamp offset reading.render := by
  have bare := (isTrimmed_render reading).trimmed_eq
  obtain ⟨rest, text⟩ := render_eq reading
  refine ⟨by rw [Text.trim, bare, String.ofList_toList], ?_, ?_⟩
  · intro empty
    rw [empty] at text
    simp at text
  · rw [normalizeTimestamp, bare]
    by_cases plain : 0 ≤ reading.date.year ∧ reading.date.year ≤ 9999
    · simp [beginsWithIsoDate_render plain]
    · obtain ⟨sign, digits, rest, signed, numeric, text⟩ := render_of_signed_year plain
      have noMail : MailDate.read? reading.render.toList = none := text ▸ mailDate_of_sign signed
      have noDay : writtenDay? reading.render.toList offset = none :=
        text ▸ writtenDay_of_signed_year signed numeric offset
      simp [noMail, noDay]

theorem normalizeTimestamp_trim (value : String) (offset : Int) :
    normalizeTimestamp (Text.trim value) offset = normalizeTimestamp value offset := by
  rw [normalizeTimestamp, normalizeTimestamp, Text.trimmed_trim]

/-- Normalizing a timestamp only trims it, or gives the text of an instant. -/
theorem normalizeTimestamp_cases (value : String) (offset : Int) :
    normalizeTimestamp value offset = Text.trim value ∨
      ∃ instant : Instant, normalizeTimestamp value offset = instant.render := by
  by_cases begins : beginsWithIsoDate (trimmed value.toList) = true
  · exact Or.inl (by simp [normalizeTimestamp, begins, Text.trim])
  · cases mail : MailDate.read? (trimmed value.toList) with
    | some instant => exact Or.inr ⟨instant, by simp [normalizeTimestamp, begins, mail]⟩
    | none =>
      cases day : writtenDay? (trimmed value.toList) offset with
      | some instant => exact Or.inr ⟨instant, by simp [normalizeTimestamp, begins, mail, day]⟩
      | none => exact Or.inl (by simp [normalizeTimestamp, begins, mail, day, Text.trim])

theorem isNormalTimestamp_normalizeTimestamp {value : String} (offset : Int)
    (given : Text.trim value ≠ "") :
    IsNormalTimestamp offset (normalizeTimestamp value offset) := by
  rcases normalizeTimestamp_cases value offset with kept | ⟨instant, written⟩
  · rw [kept]
    exact ⟨Text.trim_trim value, given, (normalizeTimestamp_trim value offset).trans kept⟩
  · rw [written]
    exact isNormalTimestamp_render instant offset

/-- A timestamp that is normalized twice is the same as after the first time. One that was brought
into another form stays the same in any offset. -/
theorem normalizeTimestamp_idempotent (value : String) (offset : Int) :
    normalizeTimestamp (normalizeTimestamp value offset) offset = normalizeTimestamp value offset ∧
      (normalizeTimestamp value offset ≠ Text.trim value → ∀ other,
        normalizeTimestamp (normalizeTimestamp value offset) other =
          normalizeTimestamp value offset) := by
  rcases normalizeTimestamp_cases value offset with kept | ⟨instant, written⟩
  · refine ⟨?_, fun changed => absurd kept changed⟩
    rw [kept, normalizeTimestamp_trim, kept]
  · rw [written]
    exact ⟨(isNormalTimestamp_render instant offset).normal,
      fun _ other => (isNormalTimestamp_render instant other).normal⟩

end AnalystQuery.Calendar
