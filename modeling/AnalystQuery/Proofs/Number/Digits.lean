import AnalystQuery.Number.Decimal
import Mathlib.Data.List.Basic

/-! The decimal digits of naturals: they are read back as the same natural, the first one is no
zero unless it is the only one, and padding keeps them digits. -/

namespace AnalystQuery.Number

variable {value width : Nat} {c : Char}

theorem isDigit_of_mem_decimalDigits (member : c ∈ decimalDigits value) : c.isDigit = true :=
  Nat.isDigit_of_mem_toDigits (by decide) (by decide) member

theorem decimalDigits_ne_nil (value : Nat) : decimalDigits value ≠ [] := Nat.toDigits_ne_nil

theorem digitsValue_decimalDigits (value : Nat) : digitsValue (decimalDigits value) = value := by
  have read := Nat.ofDigitChars_ten_toDigits (n := value)
  rwa [Nat.ofDigitChars_eq_foldl] at read

theorem head_decimalDigits (positive : 0 < value) : (decimalDigits value).head? ≠ some '0' := by
  induction value using Nat.strongRecOn with
  | ind value ih =>
    rw [decimalDigits]
    rcases Nat.lt_or_ge value 10 with small | large
    · rw [Nat.toDigits_of_lt_base small]
      have apart : ∀ digit < 10, 0 < digit → digit.digitChar ≠ '0' := by decide
      simpa using apart value small positive
    · rw [Nat.toDigits_of_base_le (by decide) large,
        List.head?_append_of_ne_nil _ Nat.toDigits_ne_nil]
      exact ih (value / 10) (by omega) (by omega)

theorem decimalDigits_bare (leading : (decimalDigits value).head? = some '0') :
    (decimalDigits value).length = 1 := by
  rcases Nat.eq_zero_or_pos value with rfl | positive
  · rfl
  · exact absurd leading (head_decimalDigits positive)

theorem isDigit_of_mem_padded (member : c ∈ padded width value) : c.isDigit = true := by
  rcases List.mem_append.mp member with zero | digit
  · rw [List.eq_of_mem_replicate zero]
    rfl
  · exact isDigit_of_mem_decimalDigits digit

theorem digitsValue_padded (width value : Nat) : digitsValue (padded width value) = value := by
  have zeros (count : Nat) (digits : List Char) :
      digitsValue (List.replicate count '0' ++ digits) = digitsValue digits := by
    induction count with
    | zero => rfl
    | succ count same => exact same
  rw [padded, zeros, digitsValue_decimalDigits]

theorem le_length_padded (width value : Nat) : width ≤ (padded width value).length := by
  rw [padded, List.length_append, List.length_replicate]
  omega

theorem length_padded (positive : 0 < width) (small : value < Nat.pow 10 width) :
    (padded width value).length = width := by
  have short : (decimalDigits value).length ≤ width :=
    (Nat.length_toDigits_le_iff (by decide) positive).mpr small
  rw [padded, List.length_append, List.length_replicate]
  omega

end AnalystQuery.Number
