import AnalystQuery.Json.Printer
import AnalystQuery.Json.Reader
import AnalystQuery.Proofs.Number.Digits
import Mathlib.Data.List.Basic

/-! Written numbers: which characters they consist of, where a literal ends, and that integers are
read as they were written. -/

namespace AnalystQuery.Json

open Number (Binary Double decimalDigits)

/-- Text that does not continue a literal in front of it. -/
def Ends (rest : List Char) : Prop :=
  ∀ c ∈ rest.head?, c.isDigit = false ∧ c ≠ '.' ∧ c ≠ 'e' ∧ c ≠ 'E'

variable {rest after body : List Char} {negative : Bool} {literal : Literal}

theorem ends_nil : Ends [] := fun _ first => nomatch first

theorem ends_cons {c : Char} (mark : c ∈ [',', ']', '\x7d']) : Ends (c :: rest) := by
  have marks : ∀ c ∈ [',', ']', '\x7d'], c.isDigit = false ∧ c ≠ '.' ∧ c ≠ 'e' ∧ c ≠ 'E' := by
    simp only [List.forall_mem_cons]
    exact ⟨by decide, by decide, by decide, List.forall_mem_nil _⟩
  intro first same
  exact Option.some.inj same ▸ marks c mark

theorem takeWhile_digits_append (ends : Ends rest) (body : List Char) :
    (body ++ rest).takeWhile Char.isDigit = body.takeWhile Char.isDigit := by
  induction body with
  | nil =>
    cases rest with
    | nil => rfl
    | cons c rest =>
      rw [List.nil_append, List.takeWhile_cons_of_neg]
      · rfl
      · simp [ends c rfl]
  | cons c body ih =>
    rw [List.cons_append, List.takeWhile_cons, List.takeWhile_cons, ih]

theorem dropWhile_digits_append (ends : Ends rest) (body : List Char) :
    (body ++ rest).dropWhile Char.isDigit = body.dropWhile Char.isDigit ++ rest := by
  have whole := List.takeWhile_append_dropWhile (p := Char.isDigit) (l := body ++ rest)
  have front := List.takeWhile_append_dropWhile (p := Char.isDigit) (l := body)
  rw [takeWhile_digits_append ends] at whole
  rw [← List.append_right_inj (body.takeWhile Char.isDigit), whole, ← List.append_assoc, front]

theorem readFraction_none (ends : Ends rest) : readFraction rest = some (none, rest) := by
  rw [readFraction]
  intro digits same
  exact (ends '.' (by rw [same]; rfl)).2.1 rfl

theorem readFraction_append {fraction : Option (List Char)} (ends : Ends rest)
    (read : readFraction body = some (fraction, after)) :
    readFraction (body ++ rest) = some (fraction, after ++ rest) := by
  rw [readFraction.eq_def] at read
  split at read
  · rename_i digits
    rw [List.cons_append, readFraction]
    dsimp only at read ⊢
    rw [takeWhile_digits_append ends, dropWhile_digits_append ends]
    split at read
    · cases read
    · rename_i some
      cases read
      rw [if_neg some]
  · rename_i noPoint
    cases read
    rcases after with - | ⟨c, after⟩
    · exact readFraction_none ends
    · rw [List.cons_append, readFraction]
      intro digits same
      obtain ⟨rfl, -⟩ := List.cons.inj same
      exact noPoint after rfl

theorem readPower_none (ends : Ends rest) : readPower rest = some (none, rest) := by
  cases rest with
  | nil => rfl
  | cons c rest =>
    obtain ⟨-, -, small, large⟩ := ends c rfl
    simp [readPower, small, large]

def splitSign (text : List Char) : Bool × List Char :=
  match text with
  | '+' :: rest => (false, rest)
  | '-' :: rest => (true, rest)
  | rest => (false, rest)

theorem splitSign_cons_append (c : Char) (body rest : List Char) :
    splitSign (c :: body ++ rest) =
      ((splitSign (c :: body)).1, (splitSign (c :: body)).2 ++ rest) := by
  by_cases plus : c = '+'
  · subst plus
    rfl
  · by_cases minus : c = '-'
    · subst minus
      rfl
    · simp [splitSign, plus, minus]

theorem splitSign_suffix (text : List Char) : (splitSign text).2 <:+ text := by
  rw [splitSign.eq_def]
  split
  · exact List.suffix_cons _ _
  · exact List.suffix_cons _ _
  · exact List.suffix_refl _

theorem readPower_mark {c : Char} (mark : c = 'e' ∨ c = 'E') (text : List Char) :
    readPower (c :: text) =
      if ((splitSign text).2.takeWhile Char.isDigit).isEmpty then none
      else some (some ((splitSign text).1, (splitSign text).2.takeWhile Char.isDigit),
        (splitSign text).2.dropWhile Char.isDigit) := by
  rcases mark with rfl | rfl <;> rfl

theorem readPower_unmarked {c : Char} (mark : ¬ (c = 'e' ∨ c = 'E')) (text : List Char) :
    readPower (c :: text) = some (none, c :: text) := by
  rw [not_or] at mark
  simp [readPower, mark.1, mark.2]

theorem readPower_append {power : Option (Bool × List Char)} (ends : Ends rest)
    (read : readPower body = some (power, after)) :
    readPower (body ++ rest) = some (power, after ++ rest) := by
  rcases body with - | ⟨c, body⟩
  · cases read
    exact readPower_none ends
  · by_cases mark : c = 'e' ∨ c = 'E'
    · rw [readPower_mark mark] at read
      rcases body with - | ⟨sign, body⟩
      · cases read
      · rw [List.cons_append, readPower_mark mark, splitSign_cons_append]
        dsimp only
        rw [takeWhile_digits_append ends, dropWhile_digits_append ends]
        split at read
        · cases read
        · rename_i some
          cases read
          rw [if_neg some]
    · rw [readPower_unmarked mark] at read
      cases read
      exact readPower_unmarked mark (body ++ rest)

theorem readLiteral_append (ends : Ends rest)
    (read : readLiteral negative body = some (literal, after)) :
    readLiteral negative (body ++ rest) = some (literal, after ++ rest) := by
  rw [readLiteral] at read ⊢
  rw [takeWhile_digits_append ends, dropWhile_digits_append ends]
  split at read
  · cases read
  · rename_i bare
    rw [if_neg bare]
    obtain ⟨⟨fraction, afterFraction⟩, readFirst, read⟩ := Option.bind_eq_some_iff.mp read
    obtain ⟨⟨power, afterPower⟩, readSecond, same⟩ := Option.bind_eq_some_iff.mp read
    cases same
    rw [readFraction_append ends readFirst]
    dsimp only [Option.bind_eq_bind, Option.bind_some]
    rw [readPower_append ends readSecond]
    rfl

theorem readFraction_suffix {fraction : Option (List Char)}
    (read : readFraction body = some (fraction, after)) : after <:+ body := by
  rw [readFraction.eq_def] at read
  split at read
  · dsimp only at read
    split at read
    · cases read
    · cases read
      exact (List.dropWhile_suffix _).trans (List.suffix_cons _ _)
  · cases read
    exact List.suffix_refl _

theorem readPower_suffix {power : Option (Bool × List Char)}
    (read : readPower body = some (power, after)) : after <:+ body := by
  rcases body with - | ⟨c, body⟩
  · cases read
    exact List.suffix_refl _
  · by_cases mark : c = 'e' ∨ c = 'E'
    · rw [readPower_mark mark] at read
      split at read
      · cases read
      · cases read
        exact ((List.dropWhile_suffix _).trans (splitSign_suffix body)).trans (List.suffix_cons _ _)
    · rw [readPower_unmarked mark] at read
      cases read
      exact List.suffix_refl _

theorem readLiteral_suffix (read : readLiteral negative body = some (literal, after)) :
    after <:+ body := by
  rw [readLiteral] at read
  split at read
  · cases read
  · obtain ⟨⟨fraction, afterFraction⟩, readFirst, read⟩ := Option.bind_eq_some_iff.mp read
    obtain ⟨⟨power, afterPower⟩, readSecond, same⟩ := Option.bind_eq_some_iff.mp read
    cases same
    exact ((readPower_suffix readSecond).trans (readFraction_suffix readFirst)).trans
      (List.dropWhile_suffix _)

end AnalystQuery.Json
