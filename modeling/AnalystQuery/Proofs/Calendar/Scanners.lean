import AnalystQuery.Proofs.Calendar.Timestamp

/-! Scanners of dates: what each of them reads in front of more text, and that what it leaves is
the end of the text. -/

namespace AnalystQuery.Calendar

open Number (digitsValue)
open Text (isBlank isDecimalDigit)

theorem inRanges_disjoint {ranges others : List (Nat × Nat)} {code : Nat}
    (apart : ∀ range ∈ ranges, ∀ other ∈ others, range.2 < other.1 ∨ other.2 < range.1)
    (member : Text.inRanges ranges code = true) : Text.inRanges others code = false := by
  obtain ⟨range, listed, inside⟩ := List.any_eq_true.mp member
  refine List.any_eq_false.mpr fun other among => ?_
  have disjoint := apart range listed other among
  simp only [Bool.and_eq_true, decide_eq_true_eq] at inside ⊢
  omega

theorem isDecimalDigit_of_isBlank {c : Char} (blank : isBlank c = true) :
    isDecimalDigit c = false :=
  inRanges_disjoint (by decide +kernel) blank

theorem isDigit_of_not_decimal {c : Char} (other : isDecimalDigit c = false) :
    c.isDigit = false := by
  rw [Bool.eq_false_iff] at other ⊢
  exact fun digit => other (Text.isDecimalDigit_of_isDigit c digit)

namespace Scan

variable {least most : Nat} {digits spaces rest text name word : List Char} {p : Char → Bool}

theorem takeWhile_eq_nil (stop : ∀ c ∈ text.head?, p c = false) : text.takeWhile p = [] := by
  cases text with
  | nil => rfl
  | cons c rest => rw [List.takeWhile_cons_of_neg (by simp [stop c rfl])]

theorem stop_take (count : Nat) (stop : ∀ c ∈ text.head?, p c = false) :
    ∀ c ∈ (text.take count).head?, p c = false := by
  intro c first
  rw [List.head?_take] at first
  split at first
  · cases first
  · exact stop c first

theorem skipBlank_append (blank : ∀ c ∈ spaces, isBlank c = true)
    (stop : ∀ c ∈ rest.head?, isBlank c = false) : skipBlank (spaces ++ rest) = rest := by
  rw [skipBlank, List.dropWhile_append_of_pos blank]
  cases rest with
  | nil => rfl
  | cons c rest => rw [List.dropWhile_cons_of_neg (by simp [stop c rfl])]

theorem skipBlank_eq (stop : ∀ c ∈ text.head?, isBlank c = false) : skipBlank text = text :=
  skipBlank_append (List.forall_mem_nil _) stop

/-- A number ends where it is as wide as it may be, or where no digit follows. -/
theorem number?_append (numeric : ∀ c ∈ digits, c.isDigit = true)
    (enough : least ≤ digits.length) (fits : digits.length ≤ most)
    (stop : digits.length < most → ∀ c ∈ rest.head?, c.isDigit = false) :
    number? least most (digits ++ rest) = some (digitsValue digits, rest) := by
  have behind : (rest.take (most - digits.length)).takeWhile Char.isDigit = [] := by
    rcases Nat.eq_or_lt_of_le fits with full | short
    · rw [full, Nat.sub_self]
      rfl
    · exact takeWhile_eq_nil (stop_take _ (stop short))
  have taken : ((digits ++ rest).take most).takeWhile Char.isDigit = digits := by
    rw [List.take_append, List.take_of_length_le fits, List.takeWhile_append_of_pos numeric, behind,
      List.append_nil]
  rw [number?, taken, if_neg (by omega), List.drop_left]

theorem number?_eq_none (positive : 0 < least) (stop : ∀ c ∈ text.head?, c.isDigit = false) :
    number? least most text = none := by
  rw [number?, takeWhile_eq_nil (stop_take most stop)]
  exact if_pos positive

theorem word?_append (width : name.length = word.length) : word? word (name ++ rest) =
    if name.map Char.toLower = word then some rest else none := by
  rw [word?, ← width, List.take_left, List.drop_left]

theorem toLower_eq_self {c : Char} (other : ¬(65 ≤ c.toNat ∧ c.toNat ≤ 90)) : c.toLower = c := by
  refine dif_neg fun capital => other ?_
  simpa [UInt32.le_iff_toNat_le] using capital

theorem toLower_of_isBlank {c : Char} (blank : isBlank c = true) : c.toLower = c := by
  refine toLower_eq_self ?_
  simp [isBlank, Text.inRanges, Text.blankRanges] at blank
  omega

/-- No word that begins visibly is read where white space follows. -/
theorem word?_eq_none {c : Char} (visible : isBlank c = false)
    (stop : ∀ d ∈ text.head?, isBlank d = true) : word? (c :: word) text = none := by
  rw [word?, if_neg]
  intro same
  cases text with
  | nil => cases same
  | cons d rest =>
    have blank := stop d rfl
    rw [List.length_cons, List.take_succ_cons, List.map_cons, toLower_of_isBlank blank] at same
    rw [(List.cons.inj same).1, visible] at blank
    cases blank

theorem oneOf?_append {words : List (List Char)} {index : Nat} (distinct : words.Nodup)
    (widths : ∀ word ∈ words, name.length = word.length)
    (spelled : words[index]? = some (name.map Char.toLower)) :
    oneOf? words (name ++ rest) = some (index, rest) := by
  have read (first : Nat) : (words.zipIdx first).findSome?
      (fun entry => (word? entry.1 (name ++ rest)).map (entry.2, ·)) =
        some (first + index, rest) := by
    induction words generalizing first index with
    | nil => cases spelled
    | cons word words ih =>
      obtain ⟨width, widths⟩ := List.forall_mem_cons.mp widths
      obtain ⟨apart, distinct⟩ := List.nodup_cons.mp distinct
      rw [List.zipIdx_cons, List.findSome?_cons]
      dsimp only
      rw [word?_append width]
      cases index with
      | zero =>
        rw [if_pos (Option.some.inj spelled).symm]
        rfl
      | succ index =>
        rw [List.getElem?_cons_succ] at spelled
        have other : name.map Char.toLower ≠ word := by
          rintro rfl
          exact apart (List.mem_of_getElem? spelled)
        rw [if_neg other, Option.map_none, ih distinct widths spelled, Nat.add_right_comm,
          Nat.add_assoc]
  have whole := read 0
  rwa [Nat.zero_add] at whole

def monthName (month : Nat) : List Char := monthNames.getD (month - 1) []

theorem getElem?_monthNames {month : Nat} (known : 1 ≤ month ∧ month ≤ 12) :
    monthNames[month - 1]? = some (monthName month) := by
  have bound : month - 1 < monthNames.length := show month - 1 < 12 by omega
  rw [monthName, List.getD_eq_getElem?_getD, List.getElem?_eq_getElem bound]
  rfl

theorem shortMonth?_append {month : Nat} (known : 1 ≤ month ∧ month ≤ 12)
    (spelled : name.map Char.toLower = (monthName month).take 3) :
    shortMonth? (name ++ rest) = some (month, rest) := by
  have three : ∀ word ∈ monthNames.map (·.take 3), 3 = word.length := by decide
  have listed : (monthNames.map (·.take 3))[month - 1]? = some (name.map Char.toLower) := by
    rw [List.getElem?_map, getElem?_monthNames known, spelled]
    rfl
  have width : name.length = 3 := by
    rw [← List.length_map Char.toLower, ← three _ (List.mem_of_getElem? listed)]
  rw [shortMonth?, oneOf?_append (by decide) (width ▸ three) listed, Option.map_some]
  dsimp only
  rw [Nat.sub_add_cancel known.1]

theorem month?_append {month : Nat} (known : 1 ≤ month ∧ month ≤ 12)
    (spelled : name.map Char.toLower = monthName month) :
    month? (name ++ rest) = some (month, rest) := by
  have front : (name.take 3).map Char.toLower = (monthName month).take 3 := by
    rw [← spelled, List.map_take]
  have ending : (name.drop 3).map Char.toLower = (monthName month).drop 3 := by
    rw [← spelled, List.map_drop]
  have width : (name.drop 3).length = ((monthName month).drop 3).length := by
    rw [← ending, List.length_map]
  have short : shortMonth? (name ++ rest) = some (month, name.drop 3 ++ rest) := by
    rw [← shortMonth?_append known front, ← List.append_assoc, List.take_append_drop]
  have whole : word? ((monthName month).drop 3) (name.drop 3 ++ rest) = some rest := by
    rw [word?_append width, if_pos ending]
  rw [month?, short]
  simp only [Option.bind_eq_bind, Option.bind_some]
  rw [← monthName, whole]
  rfl

theorem month?_append_of_short {month : Nat} (known : 1 ≤ month ∧ month ≤ 12)
    (spelled : name.map Char.toLower = (monthName month).take 3)
    (stop : ∀ c ∈ rest.head?, isBlank c = true) : month? (name ++ rest) = some (month, rest) := by
  have visible : ∀ word ∈ monthNames, word.all (!isBlank ·) = true := by decide
  have kept : (word? ((monthName month).drop 3) rest).getD rest = rest := by
    cases ending : (monthName month).drop 3 with
    | nil => rfl
    | cons c ending' =>
      have member : c ∈ monthName month := List.mem_of_mem_drop (ending ▸ List.mem_cons_self)
      have listed := List.mem_of_getElem? (getElem?_monthNames known)
      have letter := List.all_eq_true.mp (visible _ listed) c member
      rw [word?_eq_none (by simpa using letter) stop, Option.getD_none]
  rw [month?, shortMonth?_append known spelled]
  simp only [Option.bind_eq_bind, Option.bind_some]
  rw [← monthName, kept]
  rfl

theorem skipBlank_suffix (text : List Char) : skipBlank text <:+ text :=
  List.dropWhile_suffix isBlank

theorem blank?_suffix (read : blank? text = some rest) : rest <:+ text := by
  cases text with
  | nil => cases read
  | cons c behind =>
    rw [← Option.some.inj (Option.ite_none_right_eq_some.mp read).2]
    exact (skipBlank_suffix behind).trans (List.suffix_cons c behind)

theorem exactly?_eq_some_iff {c : Char} : exactly? c text = some rest ↔ text = c :: rest := by
  cases text with
  | nil => simp [exactly?]
  | cons d behind => simp [exactly?]

theorem number?_suffix {value : Nat} (read : number? least most text = some (value, rest)) :
    rest <:+ text := by
  rw [number?] at read
  split at read
  · cases read
  · rw [← (Prod.mk.inj (Option.some.inj read)).2]
    exact List.drop_suffix _ text

theorem oneOf?_suffix {words : List (List Char)} {place : Nat}
    (read : oneOf? words text = some (place, rest)) : rest <:+ text := by
  obtain ⟨⟨word, index⟩, -, found⟩ := List.exists_of_findSome?_eq_some read
  obtain ⟨behind, found, same⟩ := Option.map_eq_some_iff.mp found
  rw [← (Prod.mk.inj same).2, ← Option.some.inj (Option.ite_none_right_eq_some.mp found).2]
  exact List.drop_suffix _ text

theorem shortMonth?_suffix {month : Nat} (read : shortMonth? text = some (month, rest)) :
    rest <:+ text := by
  obtain ⟨⟨index, behind⟩, found, same⟩ := Option.map_eq_some_iff.mp read
  rw [← (Prod.mk.inj same).2]
  exact oneOf?_suffix found

end Scan

end AnalystQuery.Calendar
