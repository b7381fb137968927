import AnalystQuery.Proofs.Calendar.DayNumber
import AnalystQuery.Proofs.Calendar.Scanners

/-! Written days, such as `2026/01/31`, `01/31/2026` or `31 January 2026`. Whatever the form, the
day that is read is the day that is written. -/

namespace AnalystQuery.Calendar

open Number (padded digitsValue)
open Text (isBlank isDecimalDigit trimmed)

namespace MailDate

theorem weekday?_suffix {text rest : List Char} {weekday : Option Nat}
    (read : weekday? text = some (weekday, rest)) : rest <:+ text := by
  rw [weekday?] at read
  split at read
  · rename_i found
    obtain ⟨behind, comma, same⟩ := Option.map_eq_some_iff.mp read
    rw [← (Prod.mk.inj same).2]
    rw [Scan.exactly?_eq_some_iff.mp comma] at found
    exact (List.suffix_cons _ behind).trans (Scan.oneOf?_suffix found)
  · exact (Prod.mk.inj (Option.some.inj read)).2 ▸ List.suffix_rfl

/-- A mail date has a time of day. -/
theorem colon_mem_of_read? {text : List Char} {instant : Instant}
    (read : read? text = some instant) : ':' ∈ text := by
  obtain ⟨⟨_, _⟩, weekday, read⟩ := Option.bind_eq_some_iff.mp read
  obtain ⟨⟨_, _⟩, day, read⟩ := Option.bind_eq_some_iff.mp read
  obtain ⟨_, beforeMonth, read⟩ := Option.bind_eq_some_iff.mp read
  obtain ⟨⟨_, _⟩, month, read⟩ := Option.bind_eq_some_iff.mp read
  obtain ⟨_, beforeYear, read⟩ := Option.bind_eq_some_iff.mp read
  obtain ⟨⟨_, _⟩, year, read⟩ := Option.bind_eq_some_iff.mp read
  obtain ⟨_, beforeHour, read⟩ := Option.bind_eq_some_iff.mp read
  obtain ⟨⟨_, behind⟩, hour, read⟩ := Option.bind_eq_some_iff.mp read
  obtain ⟨_, colon, -⟩ := Option.bind_eq_some_iff.mp read
  have found : ':' ∈ Scan.skipBlank behind := by
    rw [Scan.exactly?_eq_some_iff.mp colon]
    exact List.mem_cons_self
  have fromHour := (Scan.number?_suffix hour).trans (Scan.blank?_suffix beforeHour)
  have fromYear := (Scan.number?_suffix year).trans (Scan.blank?_suffix beforeYear)
  have fromMonth := (Scan.shortMonth?_suffix month).trans (Scan.blank?_suffix beforeMonth)
  have fromDay := (Scan.number?_suffix day).trans (Scan.skipBlank_suffix _)
  have fromWeekday := (weekday?_suffix weekday).trans (Scan.skipBlank_suffix _)
  exact (((((Scan.skipBlank_suffix _).trans fromHour).trans fromYear).trans fromMonth).trans
    (fromDay.trans fromWeekday)).mem found

end MailDate

theorem not_beginsWithIsoDate {digits rest : List Char} {c : Char}
    (numeric : ∀ d ∈ digits, isDecimalDigit d = true) (stop : isDecimalDigit c = false)
    (mark : c ≠ '-' ∨ digits = []) : beginsWithIsoDate (digits ++ c :: rest) = false := by
  have hyphen : isDecimalDigit '-' = false := by decide
  rw [Bool.eq_false_iff]
  intro begins
  unfold beginsWithIsoDate at begins
  split at begins
  · rename_i split
    rcases digits with _ | ⟨a, _ | ⟨b, _ | ⟨d, _ | ⟨e, _ | ⟨f, more⟩⟩⟩⟩⟩ <;> simp_all
  · cases begins

structure Numeral (value : Nat) (digits : List Char) : Prop where
  ascii : ∀ c ∈ digits, c.isDigit = true
  nonempty : 1 ≤ digits.length
  short : digits.length ≤ 2
  value : digitsValue digits = value

/-- The name of a month or its first three letters, in capital or small letters. -/
def NamesMonth (month : Nat) (name : List Char) : Prop :=
  name.map Char.toLower = Scan.monthName month ∨
    name.map Char.toLower = (Scan.monthName month).take 3

structure Blanks (spaces : List Char) : Prop where
  nonempty : spaces ≠ []
  blank : ∀ c ∈ spaces, isBlank c = true

/-- The texts of a day: numbers between slashes with the year in front or behind, or the name of
the month behind the day or before it. -/
inductive WritesDay (date : Date) : List Char → Prop
  | yearFirst {month day : List Char} (months : Numeral date.month month)
      (days : Numeral date.day day) :
      WritesDay date (Reading.yearText date.year ++ '/' :: (month ++ '/' :: day))
  | monthFirst {month day : List Char} (months : Numeral date.month month)
      (days : Numeral date.day day) :
      WritesDay date (month ++ '/' :: (day ++ '/' :: Reading.yearText date.year))
  | dayAndName {day name first second : List Char} (days : Numeral date.day day)
      (named : NamesMonth date.month name) (before : Blanks first) (behind : Blanks second) :
      WritesDay date (day ++ (first ++ (name ++ (second ++ Reading.yearText date.year))))
  | nameAndDay {day name first second : List Char} (days : Numeral date.day day)
      (named : NamesMonth date.month name) (before : Blanks first) (behind : Blanks second) :
      WritesDay date (name ++ (first ++ (day ++ ',' :: (second ++ Reading.yearText date.year))))

section Parts

variable {numbers : DateNumbers} {parts : List DatePart} {digits name spaces rest text : List Char}
  {c : Char} {year : Int} {month value : Nat} {p : Char → Bool}

theorem head_cons (outside : p c = false) : ∀ d ∈ (c :: rest).head?, p d = false := by
  rintro d ⟨⟩
  exact outside

theorem head_append (nonempty : digits ≠ []) {q : Char → Prop} (all : ∀ d ∈ digits, q d) :
    ∀ d ∈ (digits ++ rest).head?, q d := by
  intro d first
  rw [List.head?_append_of_ne_nil _ nonempty] at first
  exact all d (List.mem_of_mem_head? first)

theorem Numeral.ne_nil (numeral : Numeral value digits) : digits ≠ [] :=
  List.ne_nil_of_length_pos numeral.nonempty

theorem isBlank_of_isDigit (digit : c.isDigit = true) : isBlank c = false :=
  isBlank_of_isInstantCharacter (by rw [isInstantCharacter, digit]; rfl)

theorem Numeral.visible (numeral : Numeral value digits) :
    ∀ d ∈ (digits ++ rest).head?, isBlank d = false :=
  head_append numeral.ne_nil fun d member => isBlank_of_isDigit (numeral.ascii d member)

theorem Numeral.reads (numeral : Numeral value digits)
    (stop : ∀ d ∈ rest.head?, d.isDigit = false) :
    Scan.number? 1 2 (Scan.skipBlank (digits ++ rest)) = some (value, rest) := by
  rw [Scan.skipBlank_eq numeral.visible,
    Scan.number?_append numeral.ascii numeral.nonempty numeral.short fun _ => stop, numeral.value]

theorem readParts?_day (numeral : Numeral value digits)
    (stop : ∀ d ∈ rest.head?, d.isDigit = false) :
    readParts? numbers (.day :: parts) (digits ++ rest) =
      readParts? { numbers with day := value } parts rest := by
  simp only [readParts?, numeral.reads stop, Option.bind_eq_bind, Option.bind_some]

theorem readParts?_monthNumber (numeral : Numeral value digits)
    (stop : ∀ d ∈ rest.head?, d.isDigit = false) :
    readParts? numbers (.monthNumber :: parts) (digits ++ rest) =
      readParts? { numbers with month := value } parts rest := by
  simp only [readParts?, numeral.reads stop, Option.bind_eq_bind, Option.bind_some]

theorem readParts?_mark :
    readParts? numbers (.mark c :: parts) (c :: rest) = readParts? numbers parts rest := by
  have read : Scan.exactly? c (c :: rest) = some rest := Scan.exactly?_eq_some_iff.mpr rfl
  simp only [readParts?, read, Option.bind_eq_bind, Option.bind_some]

theorem readParts?_mark_eq_none (other : ∀ d ∈ text.head?, d ≠ c) :
    readParts? numbers (.mark c :: parts) text = none := by
  have unread : Scan.exactly? c text = none := by
    rw [Option.eq_none_iff_forall_ne_some]
    intro rest read
    rw [Scan.exactly?_eq_some_iff.mp read] at other
    exact other c rfl rfl
  simp only [readParts?, unread, Option.bind_eq_bind, Option.bind_none]

theorem readParts?_blank (blanks : Blanks spaces) (stop : ∀ d ∈ rest.head?, isBlank d = false) :
    readParts? numbers (.blank :: parts) (spaces ++ rest) = readParts? numbers parts rest := by
  simp only [readParts?, Scan.skipBlank_append blanks.blank stop]

theorem readParts?_monthName (known : 1 ≤ month ∧ month ≤ 12) (named : NamesMonth month name)
    (stop : ∀ d ∈ rest.head?, isBlank d = true) :
    readParts? numbers (.monthName :: parts) (name ++ rest) =
      readParts? { numbers with month } parts rest := by
  have read : Scan.month? (name ++ rest) = some (month, rest) := by
    rcases named with whole | short
    · exact Scan.month?_append known whole
    · exact Scan.month?_append_of_short known short stop
  simp only [readParts?, read, Option.bind_eq_bind, Option.bind_some]

end Parts

section Years

variable {numbers : DateNumbers} {parts : List DatePart} {digits rest : List Char}

theorem readYear?_of_unsigned {c : Char} (unsigned : c ≠ '-' ∧ c ≠ '+') :
    readYear? (c :: rest) =
      (Scan.number? 1 4 (c :: rest)).map fun (year, rest) => ((year : Int), rest) := by
  unfold readYear?
  split
  · exact absurd (List.cons.inj ‹_›).1 unsigned.1
  · exact absurd (List.cons.inj ‹_›).1 unsigned.2
  · rfl

theorem readYear?_append (ascii : ∀ c ∈ digits, c.isDigit = true) (nonempty : 1 ≤ digits.length)
    (short : digits.length ≤ 4) (stop : ∀ c ∈ rest.head?, c.isDigit = false) :
    readYear? (digits ++ rest) = some ((digitsValue digits : Int), rest) := by
  have read := Scan.number?_append ascii nonempty short fun _ => stop
  cases digits with
  | nil => cases nonempty
  | cons c digits =>
    have digit := ascii c List.mem_cons_self
    have unsigned : c ≠ '-' ∧ c ≠ '+' := by
      constructor <;> rintro rfl <;> cases digit
    rw [List.cons_append] at read ⊢
    rw [readYear?_of_unsigned unsigned, read]
    rfl

theorem readYear?_yearText (year : Int) (stop : ∀ c ∈ rest.head?, c.isDigit = false) :
    readYear? (Reading.yearText year ++ rest) = some (year, rest) := by
  have ascii (value : Nat) : ∀ c ∈ padded 4 value, c.isDigit = true :=
    fun _ => Number.isDigit_of_mem_padded
  have wide (value : Nat) : 1 ≤ (padded 4 value).length :=
    (show 1 ≤ 4 by decide).trans (Number.le_length_padded 4 value)
  rw [yearText_eq]
  split
  · rename_i plain
    have four : (padded 4 year.toNat).length = 4 :=
      Number.length_padded (by decide) (show _ < 10000 by omega)
    rw [readYear?_append (ascii _) (wide _) four.le stop, Number.digitsValue_padded,
      Int.toNat_of_nonneg plain.1]
  · have read : Scan.wholeNumber? 1 (padded 4 year.natAbs ++ rest) = some (year.natAbs, rest) := by
      rw [Scan.wholeNumber?, Scan.number?_append (ascii _) (wide _) _ fun _ => stop,
        Number.digitsValue_padded]
      rw [List.length_append]
      exact Nat.le_add_right _ _
    split
    · rename_i before
      rw [List.cons_append, readYear?, read, Option.map_some]
      dsimp only
      rw [Int.ofNat_natAbs_of_nonpos before.le, neg_neg]
    · rename_i after
      rw [List.cons_append, readYear?, read, Option.map_some]
      dsimp only
      rw [Int.natAbs_of_nonneg (not_lt.mp after)]

theorem yearText_ne_nil (year : Int) : Reading.yearText year ≠ [] := by
  intro empty
  have read := @readYear?_yearText [] year nofun
  rw [empty] at read
  cases read

theorem visible_yearText (year : Int) :
    ∀ c ∈ (Reading.yearText year ++ rest).head?, isBlank c = false :=
  head_append (yearText_ne_nil year) fun c member =>
    isBlank_of_isInstantCharacter (List.all_eq_true.mp (all_yearText year) c member)

theorem readParts?_year (year : Int) (stop : ∀ c ∈ rest.head?, c.isDigit = false) :
    readParts? numbers (.year :: parts) (Reading.yearText year ++ rest) =
      readParts? { numbers with year } parts rest := by
  simp only [readParts?, Scan.skipBlank_eq (visible_yearText year), readYear?_yearText year stop,
    Option.bind_eq_bind, Option.bind_some]

theorem readParts?_numeral_as_year {value : Nat} (numeral : Numeral value digits)
    (stop : ∀ c ∈ rest.head?, c.isDigit = false) :
    readParts? numbers (.year :: parts) (digits ++ rest) =
      readParts? { numbers with year := value } parts rest := by
  have read := readYear?_append numeral.ascii numeral.nonempty
    (numeral.short.trans (by decide)) stop
  simp only [readParts?, Scan.skipBlank_eq numeral.visible, read, numeral.value,
    Option.bind_eq_bind, Option.bind_some]

/-- A year is no day: it is wider, or it has a sign. -/
theorem readParts?_year_as_day (year : Int) :
    readParts? numbers [.day] (Reading.yearText year) = none := by
  have visible := @visible_yearText [] year
  rw [List.append_nil] at visible
  simp only [readParts?, Scan.skipBlank_eq visible]
  rw [yearText_eq]
  split
  · rename_i plain
    have four : (padded 4 year.toNat).length = 4 :=
      Number.length_padded (by decide) (show _ < 10000 by omega)
    have two : ((padded 4 year.toNat).take 2).length = 2 := by
      rw [List.length_take, four]
      rfl
    have more : ((padded 4 year.toNat).drop 2).isEmpty = false := by
      rw [Bool.eq_false_iff, ne_eq, List.isEmpty_iff_length_eq_zero, List.length_drop, four]
      decide
    rw [← List.take_append_drop 2 (padded 4 year.toNat), Scan.number?_append _ (by omega) two.le]
    · simp only [Option.bind_eq_bind, Option.bind_some, more, Bool.false_eq_true, if_false]
    · intro narrow
      omega
    · exact fun c member => Number.isDigit_of_mem_padded (List.mem_of_mem_take member)
  · rw [Scan.number?_eq_none (by decide)]
    · rfl
    · split <;> exact head_cons rfl

end Years

section Names

variable {month : Nat} {name rest : List Char} {c : Char}

def IsLetter (c : Char) : Prop := Text.inRanges [(65, 90), (97, 122)] c.toNat = true

theorem isLetter_of_toLower (small : 97 ≤ c.toLower.toNat ∧ c.toLower.toNat ≤ 122) :
    IsLetter c := by
  by_cases capital : 65 ≤ c.toNat ∧ c.toNat ≤ 90
  · simp [IsLetter, Text.inRanges, capital]
  · rw [Scan.toLower_eq_self capital] at small
    simp [IsLetter, Text.inRanges, small]

theorem IsLetter.isBlank_eq_false (letter : IsLetter c) : isBlank c = false :=
  inRanges_disjoint (by decide) letter

theorem IsLetter.isDecimalDigit_eq_false (letter : IsLetter c) : isDecimalDigit c = false :=
  inRanges_disjoint (by decide +kernel) letter

theorem IsLetter.isDigit_eq_false (letter : IsLetter c) : c.isDigit = false :=
  isDigit_of_not_decimal letter.isDecimalDigit_eq_false

theorem NamesMonth.begins (known : 1 ≤ month ∧ month ≤ 12) (named : NamesMonth month name) :
    ∃ c letters, name = c :: letters ∧ IsLetter c := by
  have small : ∀ word ∈ Scan.monthNames,
      word.head?.any (fun c => 97 ≤ c.toNat && c.toNat ≤ 122) = true := by decide
  have first := small _ (List.mem_of_getElem? (Scan.getElem?_monthNames known))
  have same : (name.map Char.toLower).head? = (Scan.monthName month).head? := by
    rcases named with whole | short
    · rw [whole]
    · rw [short, List.head?_take, if_neg (by decide)]
  rw [← same] at first
  cases name with
  | nil => cases first
  | cons c letters =>
    refine ⟨c, letters, rfl, isLetter_of_toLower ?_⟩
    simpa using first

theorem NamesMonth.visible (known : 1 ≤ month ∧ month ≤ 12) (named : NamesMonth month name) :
    ∀ c ∈ (name ++ rest).head?, isBlank c = false := by
  obtain ⟨c, letters, rfl, letter⟩ := named.begins known
  exact head_cons letter.isBlank_eq_false

end Names

section Forms

variable {numbers : DateNumbers} {date : Date} {text month day name first second : List Char}

theorem not_isDigit_of_isBlank {c : Char} (blank : isBlank c = true) : c.isDigit = false :=
  isDigit_of_not_decimal (isDecimalDigit_of_isBlank blank)

theorem Blanks.stop {rest : List Char} (blanks : Blanks first) :
    ∀ c ∈ (first ++ rest).head?, isBlank c = true :=
  head_append blanks.nonempty blanks.blank

theorem Blanks.stopNumber {rest : List Char} (blanks : Blanks first) :
    ∀ c ∈ (first ++ rest).head?, c.isDigit = false :=
  fun c found => not_isDigit_of_isBlank (blanks.stop c found)

theorem readParts?_numeral_at_end {value : Nat} (numeral : Numeral value day) :
    readParts? numbers [.day] day = some { numbers with day := value } := by
  have read := @readParts?_day numbers [] day [] value numeral nofun
  rwa [List.append_nil] at read

theorem readParts?_year_at_end (year : Int) :
    readParts? numbers [.year] (Reading.yearText year) = some { numbers with year } := by
  have read := @readParts?_year numbers [] [] year nofun
  rwa [List.append_nil] at read

theorem read_yearFirst (months : Numeral date.month month) (days : Numeral date.day day) :
    readParts? numbers [.year, .mark '/', .monthNumber, .mark '/', .day]
      (Reading.yearText date.year ++ '/' :: (month ++ '/' :: day)) =
        some ⟨date.year, date.month, date.day⟩ := by
  rw [readParts?_year _ (head_cons rfl), readParts?_mark,
    readParts?_monthNumber months (head_cons rfl), readParts?_mark, readParts?_numeral_at_end days]

theorem read_monthFirst (months : Numeral date.month month) (days : Numeral date.day day) :
    readParts? numbers [.monthNumber, .mark '/', .day, .mark '/', .year]
      (month ++ '/' :: (day ++ '/' :: Reading.yearText date.year)) =
        some ⟨date.year, date.month, date.day⟩ := by
  rw [readParts?_monthNumber months (head_cons rfl), readParts?_mark,
    readParts?_day days (head_cons rfl), readParts?_mark, readParts?_year_at_end]

theorem read_dayAndName (known : 1 ≤ date.month ∧ date.month ≤ 12)
    (days : Numeral date.day day) (named : NamesMonth date.month name) (before : Blanks first)
    (behind : Blanks second) :
    readParts? numbers [.day, .blank, .monthName, .blank, .year]
      (day ++ (first ++ (name ++ (second ++ Reading.yearText date.year)))) =
        some ⟨date.year, date.month, date.day⟩ := by
  have year := @visible_yearText [] date.year
  rw [List.append_nil] at year
  rw [readParts?_day days before.stopNumber, readParts?_blank before (named.visible known),
    readParts?_monthName known named behind.stop, readParts?_blank behind year,
    readParts?_year_at_end]

theorem read_nameAndDay (known : 1 ≤ date.month ∧ date.month ≤ 12)
    (days : Numeral date.day day) (named : NamesMonth date.month name) (before : Blanks first)
    (behind : Blanks second) :
    readParts? numbers [.monthName, .blank, .day, .mark ',', .blank, .year]
      (name ++ (first ++ (day ++ ',' :: (second ++ Reading.yearText date.year)))) =
        some ⟨date.year, date.month, date.day⟩ := by
  have year := @visible_yearText [] date.year
  rw [List.append_nil] at year
  rw [readParts?_monthName known named before.stop, readParts?_blank before days.visible,
    readParts?_day days (head_cons rfl), readParts?_mark, readParts?_blank behind year,
    readParts?_year_at_end]

theorem unread_monthFirst (months : Numeral date.month month) (days : Numeral date.day day) :
    readParts? numbers [.year, .mark '/', .monthNumber, .mark '/', .day]
      (month ++ '/' :: (day ++ '/' :: Reading.yearText date.year)) = none := by
  rw [readParts?_numeral_as_year months (head_cons rfl), readParts?_mark,
    readParts?_monthNumber days (head_cons rfl), readParts?_mark, readParts?_year_as_day]

/-- Where white space follows a number, no slash does. -/
theorem unread_dayAndName {value : Nat} {rest : List Char} (days : Numeral value day)
    (before : Blanks first) :
    ∀ form ∈ dateForms.take 2, readParts? numbers form (day ++ (first ++ rest)) = none := by
  have noSlash : ∀ c ∈ (first ++ rest).head?, c ≠ '/' := by
    rintro c found rfl
    have blank := before.stop _ found
    cases blank
  have slashes : dateForms.take 2 = [[.year, .mark '/', .monthNumber, .mark '/', .day],
      [.monthNumber, .mark '/', .day, .mark '/', .year]] := rfl
  rw [slashes, List.forall_mem_cons, List.forall_mem_singleton]
  constructor
  · rw [readParts?_numeral_as_year days before.stopNumber, readParts?_mark_eq_none noSlash]
  · rw [readParts?_monthNumber days before.stopNumber, readParts?_mark_eq_none noSlash]

/-- No number begins with a letter. -/
theorem unread_nameAndDay {rest : List Char} (known : 1 ≤ date.month ∧ date.month ≤ 12)
    (named : NamesMonth date.month name) :
    ∀ form ∈ dateForms.take 3, readParts? numbers form (name ++ rest) = none := by
  obtain ⟨c, letters, rfl, letter⟩ := named.begins known
  rw [List.cons_append]
  have skipped : Scan.skipBlank (c :: (letters ++ rest)) = c :: (letters ++ rest) :=
    Scan.skipBlank_eq (head_cons letter.isBlank_eq_false)
  have number (most : Nat) : Scan.number? 1 most (c :: (letters ++ rest)) = none :=
    Scan.number?_eq_none (by decide) (head_cons letter.isDigit_eq_false)
  have year : readYear? (c :: (letters ++ rest)) = none := by
    have unsigned : c ≠ '-' ∧ c ≠ '+' := by
      constructor <;> rintro rfl <;> cases letter
    rw [readYear?_of_unsigned unsigned, number]
    rfl
  have front : dateForms.take 3 = [[.year, .mark '/', .monthNumber, .mark '/', .day],
      [.monthNumber, .mark '/', .day, .mark '/', .year],
      [.day, .blank, .monthName, .blank, .year]] := rfl
  rw [front, List.forall_mem_cons, List.forall_mem_cons, List.forall_mem_singleton]
  simp only [readParts?, skipped, number, year, Option.bind_eq_bind, Option.bind_none, and_self]

theorem writtenDay?_of_read {count : Nat} {form : List DatePart} {offset : Int} {start : Instant}
    (listed : dateForms[count]? = some form)
    (unread : ∀ other ∈ dateForms.take count, readParts? ⟨0, 0, 0⟩ other text = none)
    (read : readParts? ⟨0, 0, 0⟩ form text = some ⟨date.year, date.month, date.day⟩)
    (known : Date.of? date.year date.month date.day = some date)
    (begun : Instant.startOfDay? date offset = some start) :
    writtenDay? text offset = some start := by
  obtain ⟨bound, rfl⟩ := List.getElem?_eq_some_iff.mp listed
  rw [writtenDay?, ← List.take_append_drop count dateForms, List.drop_eq_getElem_cons bound,
    List.findSome?_append, List.findSome?_eq_none_iff.mpr, Option.none_or, List.findSome?_cons]
  · simp only [read, known, begun, Option.bind_eq_bind, Option.bind_some]
  · intro other member
    rw [unread other member]
    rfl

/-- The day that is read is the day that is written, whatever the form. -/
theorem writtenDay?_of_writes {offset : Int} {start : Instant} (valid : date.isValid = true)
    (ranged : date.inRange = true) (written : WritesDay date text)
    (begun : Instant.startOfDay? date offset = some start) :
    writtenDay? text offset = some start := by
  have months := Date.month_bounds valid
  have known : Date.of? date.year date.month date.day = some date := by
    rw [Date.of?, valid, ranged]
    rfl
  cases written with
  | yearFirst month day =>
    have first : dateForms[0]? = some _ := rfl
    exact writtenDay?_of_read first (List.forall_mem_nil _) (read_yearFirst month day) known begun
  | monthFirst month day =>
    have second : dateForms[1]? = some _ := rfl
    exact writtenDay?_of_read second
      (List.forall_mem_singleton.mpr (unread_monthFirst month day)) (read_monthFirst month day)
      known begun
  | dayAndName day named before behind =>
    have third : dateForms[2]? = some _ := rfl
    exact writtenDay?_of_read third (unread_dayAndName day before)
      (read_dayAndName months day named before behind) known begun
  | nameAndDay day named before behind =>
    have fourth : dateForms[3]? = some _ := rfl
    exact writtenDay?_of_read fourth (unread_nameAndDay months named)
      (read_nameAndDay months day named before behind) known begun

theorem WritesDay.ne_nil (written : WritesDay date text) : text ≠ [] := by
  cases written <;> simp [yearText_ne_nil]

theorem WritesDay.not_iso (valid : date.isValid = true) (written : WritesDay date text) :
    beginsWithIsoDate text = false := by
  cases written with
  | yearFirst month day =>
    rw [yearText_eq]
    split
    · exact not_beginsWithIsoDate (fun _ => isDecimalDigit_of_mem_padded) (by decide)
        (.inl (by decide))
    · refine @not_beginsWithIsoDate [] _ _ (List.forall_mem_nil _) ?_ (.inr rfl)
      split <;> decide
  | monthFirst month day =>
    exact not_beginsWithIsoDate (fun c member => Text.isDecimalDigit_of_isDigit c
      (month.ascii c member)) (by decide) (.inl (by decide))
  | @dayAndName _ _ first _ day named before behind =>
    obtain ⟨nonempty, blank⟩ := before
    cases first with
    | nil => exact absurd rfl nonempty
    | cons c spaces =>
      have space := blank c List.mem_cons_self
      refine not_beginsWithIsoDate (fun c member => Text.isDecimalDigit_of_isDigit c
        (day.ascii c member)) (isDecimalDigit_of_isBlank space) (.inl ?_)
      rintro rfl
      cases space
  | nameAndDay day named before behind =>
    obtain ⟨c, letters, rfl, letter⟩ := named.begins (Date.month_bounds valid)
    exact @not_beginsWithIsoDate [] _ _ (List.forall_mem_nil _) letter.isDecimalDigit_eq_false
      (.inr rfl)

theorem colon_not_mem_yearText (year : Int) : ':' ∉ Reading.yearText year := by
  intro member
  have digits (value : Nat) : ':' ∉ padded 4 value := fun found =>
    absurd (Number.isDigit_of_mem_padded found) (by decide)
  rw [yearText_eq] at member
  split at member
  · exact digits _ member
  · rcases List.mem_cons.mp member with sign | member
    · split at sign <;> cases sign
    · exact digits _ member

theorem WritesDay.colon_not_mem (valid : date.isValid = true) (written : WritesDay date text) :
    ':' ∉ text := by
  have numeral {value : Nat} {digits : List Char} (written : Numeral value digits) :
      ':' ∉ digits := fun member => absurd (written.ascii _ member) (by decide)
  have blanks {spaces : List Char} (written : Blanks spaces) : ':' ∉ spaces :=
    fun member => absurd (written.blank _ member) (by decide)
  have names {name : List Char} (named : NamesMonth date.month name) : ':' ∉ name := by
    intro member
    have plain : ∀ word ∈ Scan.monthNames, ':' ∉ word := by decide
    have unmarked := plain _ (List.mem_of_getElem?
      (Scan.getElem?_monthNames (Date.month_bounds valid)))
    have lowered : ':' ∈ name.map Char.toLower := List.mem_map_of_mem (f := Char.toLower) member
    rcases named with whole | short
    · exact unmarked (whole ▸ lowered)
    · exact unmarked (List.mem_of_mem_take (short ▸ lowered))
  have year := colon_not_mem_yearText date.year
  cases written with
  | yearFirst month day => simp [numeral month, numeral day, year]
  | monthFirst month day => simp [numeral month, numeral day, year]
  | dayAndName day named before behind =>
    simp [numeral day, names named, blanks before, blanks behind, year]
  | nameAndDay day named before behind =>
    simp [numeral day, names named, blanks before, blanks behind, year]

theorem normalizeTimestamp_of_writes {value : String} {offset : Int} {start : Instant}
    (valid : date.isValid = true) (ranged : date.inRange = true)
    (written : WritesDay date (trimmed value.toList))
    (begun : Instant.startOfDay? date offset = some start) :
    normalizeTimestamp value offset = start.render := by
  have noMail : MailDate.read? (trimmed value.toList) = none := by
    rw [Option.eq_none_iff_forall_ne_some]
    exact fun instant read => written.colon_not_mem valid (MailDate.colon_mem_of_read? read)
  rw [normalizeTimestamp]
  simp only [written.not_iso valid, noMail, writtenDay?_of_writes valid ranged written begun,
    Bool.false_eq_true, if_false]

end Forms

end AnalystQuery.Calendar
