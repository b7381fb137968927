import AnalystQuery.Calendar.Phrase
import Mathlib.Data.List.Basic
import Mathlib.Data.List.TakeWhile

/-! Phrases within text. A rolling phrase is found at the leftmost place where no character next to
it belongs to its words, a calendar phrase at any place where it touches neither letters nor
numbers. -/

namespace AnalystQuery.Calendar

open Text (isWordCharacter isAlphanumeric isDecimalDigit)

/-- A part of a text that begins at a place and that neither character next to it joins. -/
def StandsAt (joins : Char → Bool) (place : Nat) (part text : List Char) : Prop :=
  ∃ front back, front.length = place ∧ text = front ++ (part ++ back) ∧
    (∀ c ∈ front.getLast?, joins c = false) ∧ ∀ c ∈ back.head?, joins c = false

section Parts

variable {joins : Char → Bool} {place : Nat} {part earlier text : List Char}

theorem standsAt_length_iff : StandsAt joins earlier.length part (earlier ++ text) ↔
    (∀ c ∈ earlier.getLast?, joins c = false) ∧
      ∃ back, text = part ++ back ∧ ∀ c ∈ back.head?, joins c = false := by
  constructor
  · rintro ⟨front, back, here, split, before, behind⟩
    obtain ⟨rfl, rfl⟩ := List.append_inj split here.symm
    exact ⟨before, back, rfl, behind⟩
  · rintro ⟨before, back, rfl, behind⟩
    exact ⟨earlier, back, rfl, rfl, before, behind⟩

theorem StandsAt.place_le (stands : StandsAt joins place part text) : place ≤ text.length := by
  obtain ⟨front, back, rfl, rfl, -, -⟩ := stands
  rw [List.length_append]
  exact Nat.le_add_right _ _

end Parts

theorem dropWord?_eq_some_iff {word text rest : List Char} :
    dropWord? word text = some rest ↔ text = word ++ rest := by
  rw [dropWord?]
  constructor
  · intro dropped
    split at dropped
    · rename_i found
      obtain ⟨behind, rfl⟩ := List.isPrefixOf_iff_prefix.mp found
      rw [List.drop_left] at dropped
      rw [Option.some.inj dropped]
    · cases dropped
  · rintro rfl
    rw [if_pos (List.isPrefixOf_iff_prefix.mpr (List.prefix_append word rest)), List.drop_left]

/-- The ways to write a rolling phrase: "last" or "past", the digits of the amount, and the unit in
singular or plural. -/
structure RollingPhrase.WrittenAs (phrase : RollingPhrase) (body : List Char) : Prop where
  amount : phrase.amount ≠ []
  digits : ∀ c ∈ phrase.amount, isDecimalDigit c = true
  wording : ∃ lead ∈ ["last ".toList, "past ".toList], ∃ plural ∈ ["".toList, "s".toList],
    body = lead ++ (phrase.amount ++ ' ' :: (phrase.unit.word ++ plural))

section Reading

variable {boundary : List Char → Bool} {text : List Char} {unit : TimeUnit}
  {phrase : RollingPhrase}

theorem dropWord?_unit {other : TimeUnit} {rest : List Char}
    (found : dropWord? unit.word text = some rest) (apart : other ≠ unit) :
    dropWord? other.word text = none := by
  rw [dropWord?_eq_some_iff] at found
  subst found
  cases unit <;> cases other <;> first | rfl | exact absurd rfl apart

theorem find?_unit {test : TimeUnit → Bool} (found : test unit = true)
    (others : ∀ other ≠ unit, test other = false) : TimeUnit.all.find? test = some unit := by
  cases unit <;> simp [TimeUnit.all, found, others]

theorem readUnit?_eq_some_iff : readUnit? boundary text = some unit ↔
    ∃ plural ∈ ["".toList, "s".toList], ∃ back,
      text = unit.word ++ (plural ++ back) ∧ boundary back = true := by
  constructor
  · intro read
    have tried := List.find?_some read
    split at tried
    · rename_i rest dropped
      rw [dropWord?_eq_some_iff] at dropped
      rcases Bool.or_eq_true_iff.mp tried with single | several
      · exact ⟨_, List.mem_cons_self, rest, dropped, single⟩
      · split at several
        · rename_i back
          exact ⟨_, List.mem_cons_of_mem _ List.mem_cons_self, back, dropped, several⟩
        · cases several
    · cases tried
  · rintro ⟨plural, form, back, rfl, bounded⟩
    have dropped : dropWord? unit.word (unit.word ++ (plural ++ back)) = some (plural ++ back) :=
      dropWord?_eq_some_iff.mpr rfl
    refine find?_unit ?_ fun other apart => ?_
    · rw [dropped]
      rcases List.mem_pair.mp form with rfl | rfl
      · exact Bool.or_eq_true_iff.mpr (Or.inl bounded)
      · exact Bool.or_eq_true_iff.mpr (Or.inr bounded)
    · rw [dropWord?_unit dropped apart]

theorem readRolling?_eq_some_iff : readRolling? boundary text = some phrase ↔
    ∃ body back, text = body ++ back ∧ phrase.WrittenAs body ∧ boundary back = true := by
  constructor
  · intro found
    obtain ⟨rest, led, read⟩ := Option.bind_eq_some_iff.mp found
    obtain ⟨lead, known, rfl⟩ : ∃ lead ∈ ["last ".toList, "past ".toList], text = lead ++ rest := by
      cases last : dropWord? "last ".toList text with
      | some dropped =>
        rw [last] at led
        cases led
        exact ⟨_, List.mem_cons_self, dropWord?_eq_some_iff.mp last⟩
      | none =>
        rw [last] at led
        exact ⟨_, List.mem_cons_of_mem _ List.mem_cons_self, dropWord?_eq_some_iff.mp led⟩
    dsimp only at read
    split at read
    · cases read
    · rename_i some
      split at read
      · rename_i behind split
        obtain ⟨unit, readUnit, rfl⟩ := Option.map_eq_some_iff.mp read
        obtain ⟨plural, form, back, rfl, bounded⟩ := readUnit?_eq_some_iff.mp readUnit
        have whole := List.takeWhile_append_dropWhile (p := isDecimalDigit) (l := rest)
        have digits : ∀ c ∈ rest.takeWhile isDecimalDigit, isDecimalDigit c = true :=
          fun c => List.mem_takeWhile_imp
        rw [split] at whole
        generalize rest.takeWhile isDecimalDigit = amount at some whole digits
        subst whole
        refine ⟨lead ++ (amount ++ ' ' :: (unit.word ++ plural)), back, by simp,
          ⟨by simpa using some, digits, lead, known, plural, form, rfl⟩, bounded⟩
      · cases read
  · rintro ⟨body, back, rfl, ⟨some, digits, lead, known, plural, form, rfl⟩, bounded⟩
    have unit : readUnit? boundary (phrase.unit.word ++ (plural ++ back)) = phrase.unit :=
      readUnit?_eq_some_iff.mpr ⟨plural, form, back, rfl, bounded⟩
    have whole : lead ++ (phrase.amount ++ ' ' :: (phrase.unit.word ++ plural)) ++ back =
        lead ++ (phrase.amount ++ ' ' :: (phrase.unit.word ++ (plural ++ back))) := by simp
    have space : isDecimalDigit ' ' = false := by decide
    generalize phrase.unit.word ++ (plural ++ back) = behind at unit whole
    have led : (dropWord? "last ".toList (lead ++ (phrase.amount ++ ' ' :: behind)) <|>
        dropWord? "past ".toList (lead ++ (phrase.amount ++ ' ' :: behind))) =
          Option.some (phrase.amount ++ ' ' :: behind) := by
      rcases List.mem_pair.mp known with rfl | rfl <;> rfl
    have taken : (phrase.amount ++ ' ' :: behind).takeWhile isDecimalDigit = phrase.amount := by
      rw [List.takeWhile_append_of_pos digits, List.takeWhile_cons_of_neg (by simp [space]),
        List.append_nil]
    have dropped : (phrase.amount ++ ' ' :: behind).dropWhile isDecimalDigit = ' ' :: behind := by
      rw [List.dropWhile_append_of_pos digits, List.dropWhile_cons_of_neg (by simp [space])]
    rw [whole]
    refine Option.bind_eq_some_iff.mpr ⟨_, led, ?_⟩
    dsimp only
    rw [taken, dropped, if_neg (by simpa using some)]
    exact Option.map_eq_some_iff.mpr ⟨_, unit, rfl⟩

end Reading

def RollingPhrase.StandsAt (phrase : RollingPhrase) (place : Nat) (text : List Char) : Prop :=
  ∃ body, phrase.WrittenAs body ∧ Calendar.StandsAt isWordCharacter place body text

section Rolling

variable {earlier text : List Char} {phrase : RollingPhrase} {place : Nat}

theorem endsWord_iff : endsWord text = true ↔ ∀ c ∈ text.head?, isWordCharacter c = false := by
  cases text <;> simp [endsWord]

theorem all_notJoining_iff {joins : Char → Bool} {c : Option Char} :
    c.all (!joins ·) = true ↔ ∀ d ∈ c, joins d = false := by
  cases c <;> simp

theorem rolling_here_iff :
    (if earlier.getLast?.all (!isWordCharacter ·) then readRolling? endsWord text else none) =
        some phrase ↔
      phrase.StandsAt earlier.length (earlier ++ text) := by
  rw [Option.ite_none_right_eq_some, all_notJoining_iff, readRolling?_eq_some_iff]
  simp only [RollingPhrase.StandsAt, standsAt_length_iff, endsWord_iff]
  constructor
  · rintro ⟨before, body, back, rfl, written, behind⟩
    exact ⟨body, written, before, back, rfl, behind⟩
  · rintro ⟨body, written, before, back, rfl, behind⟩
    exact ⟨before, body, back, rfl, written, behind⟩

theorem RollingPhrase.StandsAt.reads (stands : phrase.StandsAt place text) :
    readRolling? endsWord (text.drop place) = some phrase := by
  obtain ⟨body, written, front, back, rfl, rfl, before, behind⟩ := stands
  rw [List.drop_left]
  exact readRolling?_eq_some_iff.mpr ⟨body, back, rfl, written, endsWord_iff.mpr behind⟩

theorem RollingPhrase.StandsAt.place_le (stands : phrase.StandsAt place text) :
    place ≤ text.length := by
  obtain ⟨body, -, apart⟩ := stands
  exact apart.place_le

theorem RollingPhrase.not_standsAt (nothing : readRolling? endsWord (text.drop place) = none) :
    ¬ phrase.StandsAt place text := by
  intro stands
  rw [stands.reads] at nothing
  cases nothing

theorem findRolling?_of_here (here : phrase.StandsAt earlier.length (earlier ++ text)) :
    findRolling? earlier.getLast? text = some phrase := by
  rw [findRolling?.eq_def, rolling_here_iff.mpr here]

theorem findRolling?_cons {c : Char}
    (nowhere : ∀ other : RollingPhrase, ¬ other.StandsAt earlier.length (earlier ++ c :: text)) :
    findRolling? earlier.getLast? (c :: text) = findRolling? (earlier ++ [c]).getLast? text := by
  have nothing := Option.eq_none_iff_forall_ne_some.mpr
    fun other found => nowhere other (rolling_here_iff.mp found)
  rw [findRolling?.eq_def, nothing, List.getLast?_concat]

theorem findRolling?_behind_of_leftmost (stands : phrase.StandsAt place (earlier ++ text))
    (begun : earlier.length ≤ place)
    (leftmost : ∀ other : RollingPhrase, ∀ sooner, earlier.length ≤ sooner → sooner < place →
      ¬ other.StandsAt sooner (earlier ++ text)) :
    findRolling? earlier.getLast? text = some phrase := by
  induction text generalizing earlier with
  | nil =>
    have reached := stands.place_le
    rw [List.append_nil] at reached
    obtain rfl : place = earlier.length := le_antisymm reached begun
    exact findRolling?_of_here stands
  | cons c rest ih =>
    rcases begun.eq_or_lt with rfl | later
    · exact findRolling?_of_here stands
    · have moved : earlier ++ c :: rest = earlier ++ [c] ++ rest := by simp
      have length : (earlier ++ [c]).length = earlier.length + 1 := by simp
      rw [findRolling?_cons fun other => leftmost other _ le_rfl later]
      rw [moved] at stands leftmost
      refine ih stands (by omega) fun other sooner notBefore => ?_
      exact leftmost other sooner (by omega)

theorem findRolling?_of_leftmost (stands : phrase.StandsAt place text)
    (leftmost : ∀ other : RollingPhrase, ∀ sooner < place, ¬ other.StandsAt sooner text) :
    findRolling? none text = some phrase :=
  @findRolling?_behind_of_leftmost [] _ _ _ stands (Nat.zero_le place)
    fun other sooner _ => leftmost other sooner

end Rolling

section Calendar

variable {earlier text phrase : List Char}

end Calendar

/-- A calendar phrase holds no rolling phrase and no calendar phrase that is looked for before
it. -/
theorem Period.phrase_alone (period : Period) :
    readRolling? List.isEmpty period.phrase = none ∧ findRolling? none period.phrase = none ∧
      (Period.all.find? fun other => containsPhrase other.phrase none period.phrase) =
        some period := by
  cases period <;> decide +kernel

theorem findRolling?_of_whole {text : List Char} {phrase : RollingPhrase}
    (read : readRolling? List.isEmpty text = some phrase) :
    findRolling? none text = some phrase := by
  obtain ⟨body, back, rfl, written, empty⟩ := readRolling?_eq_some_iff.mp read
  obtain rfl := List.isEmpty_iff.mp empty
  refine @findRolling?_of_here [] _ _ ⟨body, written, ?_⟩
  rw [standsAt_length_iff]
  exact ⟨by simp, [], rfl, by simp⟩

/-- A phrase that stands alone means what it means within text. -/
theorem resolvePlain_eq (now : Instant) (text : List Char) :
    resolvePlain now text =
      if unrestricted.contains text then .ok none
      else if now.date.inRange then
        match findRolling? none text with
        | some rolling => .ok (rolling.range? now)
        | none => Period.rangeOf now
            (Period.all.find? fun period => containsPhrase period.phrase none text)
      else .error .today := by
  rw [resolvePlain]
  split
  · rfl
  · split
    · cases whole : Period.all.find? fun period => period.phrase == text with
      | none =>
        cases alone : readRolling? List.isEmpty text with
        | none => rfl
        | some rolling =>
          rw [findRolling?_of_whole alone]
          rfl
      | some period =>
        have same := List.find?_some whole
        rw [beq_iff_eq] at same
        subst same
        obtain ⟨alone, within, first⟩ := period.phrase_alone
        rw [alone, within, first]
        cases Period.rangeOf now (some period) with
        | error day => rfl
        | ok range => cases range <;> rfl
    · rfl

end AnalystQuery.Calendar
