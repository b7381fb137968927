import AnalystQuery.Intent.Normalization
import AnalystQuery.Proofs.Json.RoundTrip
import AnalystQuery.Proofs.Number.UnitInterval

/-! Confidences stay within `[0, 1]`, also when they are rounded to 32 bits, and a confidence that
is read back from its text is clamped to itself. -/

namespace AnalystQuery.Intent

open Number (Binary Single Double Format)
open Number.Binary (unitSingle unitDouble)

/-- A number within `[0, 1]`; zero may have a sign. -/
structure InUnit {format : Format} (value : Binary format) : Prop where
  nonneg : value.negative = true → value.magnitude = 0
  atMost : value.magnitude ≤ (unit format).magnitude

section Clamping

variable {format : Format} {value : Binary format}

theorem negative_unit (format : Format) : (unit format).negative = false := by
  rw [unit, Binary.ofNat, Binary.ofQuotient]
  split <;> rfl

theorem less_zero_eq_false_iff (number : value.isNotANumber = false) :
    value.less .zero = false ↔ (value.negative = true → value.magnitude = 0) := by
  have zero : (⟨false, 0⟩ : Binary format).isNotANumber = false := by
    simp [Binary.isNotANumber]
  cases sign : value.negative <;> simp [Binary.less, number, zero, sign, Binary.zero]

theorem unit_less_eq_false_iff (plain : (unit format).isNotANumber = false)
    (number : value.isNotANumber = false) :
    (unit format).less value = false ↔
      value.negative = true ∨ value.magnitude ≤ (unit format).magnitude := by
  cases sign : value.negative <;>
    simp [Binary.less, number, plain, sign, negative_unit]

theorem inUnit_clampToUnit (plain : (unit format).isNotANumber = false)
    (number : value.isNotANumber = false) : InUnit (clampToUnit value) := by
  rw [clampToUnit]
  split
  · exact ⟨fun _ => rfl, Nat.zero_le _⟩
  · rename_i nonneg
    rw [Bool.not_eq_true, less_zero_eq_false_iff number] at nonneg
    split
    · refine ⟨fun negative => ?_, Nat.le_refl _⟩
      rw [negative_unit] at negative
      cases negative
    · rename_i atMost
      rw [Bool.not_eq_true, unit_less_eq_false_iff plain number] at atMost
      rcases atMost with negative | atMost
      · exact ⟨nonneg, nonneg negative ▸ Nat.zero_le _⟩
      · exact ⟨nonneg, atMost⟩

end Clamping

theorem negative_ofQuotient {format : Format} (negative : Bool) (numerator denominator : Nat) :
    (Binary.ofQuotient negative numerator denominator : Binary format).negative = negative := by
  rw [Binary.ofQuotient]
  split <;> rfl

theorem magnitude_unit_single : (unit .single).magnitude = unitSingle :=
  congrArg Binary.magnitude Binary.ofNat_one_single

theorem magnitude_unit_double : (unit .double).magnitude = unitDouble :=
  congrArg Binary.magnitude Binary.ofNat_one_double

theorem plain_unit_single : (unit .single).isNotANumber = false := by decide

theorem plain_unit_double : (unit .double).isNotANumber = false := by decide

theorem convert_of_inUnit {value : Double} (within : InUnit value) :
    (value.convert : Single) =
      Binary.ofQuotient value.negative value.quotient.1 value.quotient.2 := by
  have small := magnitude_unit_double ▸ within.atMost
  have infinity : unitDouble < Format.double.infinity := by decide
  have number : value.isNotANumber = false := by
    rw [Binary.isNotANumber, decide_eq_false_iff_not]
    omega
  have finite : value.isInfinite = false := by
    rw [Binary.isInfinite, beq_eq_false_iff_ne]
    omega
  simp [Binary.convert, number, finite]

theorem inUnit_convert {value : Double} (within : InUnit value) :
    InUnit (value.convert : Single) := by
  have small := magnitude_unit_double ▸ within.atMost
  rw [convert_of_inUnit within]
  constructor
  · intro negative
    have sign : value.negative = true := (negative_ofQuotient _ _ _).symm.trans negative
    have zero : value.quotient.1 = 0 := by
      simp [Binary.quotient, Number.scaleByTwo, Binary.significand, within.nonneg sign]
    rw [Binary.ofQuotient, if_pos zero]
  · rw [magnitude_unit_single]
    exact Binary.ofQuotient_le_unit _ (Binary.quotient_pos value) (Binary.quotient_le small)

variable {stated : Option Double} {default : Single}

theorem inUnit_clampConfidence
    (number : (clampConfidence stated default).isNotANumber = false) :
    InUnit (clampConfidence stated default) := by
  have assumed (same : clampConfidence stated default = clampToUnit default) :
      InUnit (clampConfidence stated default) := by
    rw [same] at number ⊢
    cases plain : default.isNotANumber with
    | false => exact inUnit_clampToUnit plain_unit_single plain
    | true =>
      have kept : clampToUnit default = default := by
        simp [clampToUnit, Binary.less, plain]
      rw [kept, plain] at number
      cases number
  cases stated with
  | none => exact assumed rfl
  | some value =>
    cases plain : value.isNotANumber with
    | true => exact assumed (by simp [clampConfidence, plain])
    | false =>
      have rounded : clampConfidence (some value) default = (clampToUnit value).convert := by
        simp [clampConfidence, plain]
      rw [rounded]
      exact inUnit_convert (inUnit_clampToUnit plain_unit_double plain)

/-- What is rounded into `[0, 1]` is finite. -/
theorem convert_eq_ofQuotient {read : Double} (within : InUnit (read.convert : Single)) :
    read.isNotANumber = false ∧ (read.convert : Single) =
      Binary.ofQuotient read.negative read.quotient.1 read.quotient.2 := by
  have small := magnitude_unit_single ▸ within.atMost
  cases number : read.isNotANumber with
  | true =>
    simp only [Binary.convert, number, if_true] at small
    exact absurd small (by decide)
  | false =>
    cases finite : read.isInfinite with
    | true =>
      simp only [Binary.convert, number, finite, Bool.false_eq_true, if_true, if_false] at small
      exact absurd (show Format.single.infinity ≤ unitSingle from small) (by decide)
    | false => exact ⟨rfl, by simp [Binary.convert, number, finite]⟩

theorem clampConfidence_of_convert {read : Double} (within : InUnit (read.convert : Single))
    (positive : (read.convert : Single).magnitude ≠ 0) :
    clampConfidence (some read) default = read.convert := by
  obtain ⟨number, rounded⟩ := convert_eq_ofQuotient within
  have sign : read.negative = false := by
    cases negative : read.negative with
    | false => rfl
    | true =>
      have same : (read.convert : Single).negative = true := by
        rw [rounded, negative_ofQuotient, negative]
      exact absurd (within.nonneg same) positive
  have nonneg : read.less .zero = false := by
    rw [less_zero_eq_false_iff number, sign]
    rintro ⟨⟩
  have clamped : clampConfidence (some read) default = (clampToUnit read).convert := by
    simp [clampConfidence, number]
  rw [clamped, clampToUnit, nonneg]
  cases above : (unit .double).less read with
  | false => rfl
  | true =>
    -- Above one the number must have been rounded down to one.
    have large : unitDouble ≤ read.magnitude := by
      by_contra small
      have notAbove := (unit_less_eq_false_iff plain_unit_double number).mpr
        (Or.inr (magnitude_unit_double ▸ Nat.le_of_not_le small))
      rw [notAbove] at above
      cases above
    have least := Binary.unit_le_ofQuotient read.negative (Binary.quotient_pos read)
      (Binary.le_quotient large)
    have most := magnitude_unit_single ▸ within.atMost
    have negative : (Binary.ofQuotient read.negative read.quotient.1 read.quotient.2 :
        Single).negative = read.negative := negative_ofQuotient _ _ _
    have one : (read.convert : Single) = ⟨false, unitSingle⟩ := by
      rw [rounded] at most ⊢
      rw [sign] at negative most least ⊢
      generalize (Binary.ofQuotient false read.quotient.1 read.quotient.2 : Single) = result at *
      obtain ⟨resultSign, magnitude⟩ := result
      obtain rfl : resultSign = false := negative
      obtain rfl : magnitude = unitSingle := Nat.le_antisymm most least
      rfl
    have converted : ((unit .double).convert : Single) = ⟨false, unitSingle⟩ := by decide
    exact converted.trans one.symm

theorem read?_signedZero (negative : Bool) :
    (Json.read? (Json.float ⟨negative, 0⟩).compact).bind Json.asDouble? =
      some ⟨negative, 0⟩ := by
  cases negative <;> decide +kernel

theorem clampConfidence_signedZero (negative : Bool) (default : Single) :
    clampConfidence (some ⟨negative, 0⟩) default = ⟨negative, 0⟩ := by
  have number : (⟨negative, 0⟩ : Double).isNotANumber = false := by cases negative <;> decide
  have converted : ((clampToUnit ⟨negative, 0⟩ : Double).convert : Single) = ⟨negative, 0⟩ := by
    cases negative <;> decide
  simpa [clampConfidence, number] using converted

theorem clampConfidence_again {read : Double}
    (text : Json.read? (Json.ofSingle (clampConfidence stated default)).compact =
      some (.float read))
    (same : read.convert = clampConfidence stated default) :
    clampConfidence (some read) default = clampConfidence stated default := by
  have noNull : Json.ofSingle (clampConfidence stated default) ≠ .null := by
    intro null
    have readNull : Json.read? Json.null.compact = some .null := Json.readsAs_null.read?
    rw [null, readNull] at text
    cases text
  have finite : (clampConfidence stated default).isFinite = true := by
    by_contra infinite
    exact noNull (by simp [Json.ofSingle, infinite])
  have number : (clampConfidence stated default).isNotANumber = false := by
    simp only [Binary.isFinite, Binary.isNotANumber, decide_eq_true_eq,
      decide_eq_false_iff_not] at finite ⊢
    omega
  have within := inUnit_clampConfidence number
  by_cases zero : (clampConfidence stated default).magnitude = 0
  · -- The sign of a zero is written and read as such.
    have written : Json.ofSingle (clampConfidence stated default) =
        .float ⟨(clampConfidence stated default).negative, 0⟩ := by
      simp [Json.ofSingle, finite, Binary.isZero, zero]
    have readZero := read?_signedZero (clampConfidence stated default).negative
    rw [← written, text] at readZero
    rw [Option.some.inj readZero, clampConfidence_signedZero, ← zero]
  · rw [← same] at within zero ⊢
    exact clampConfidence_of_convert within zero

end AnalystQuery.Intent
