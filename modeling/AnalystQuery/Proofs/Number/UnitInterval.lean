import AnalystQuery.Number.Binary
import Mathlib.Algebra.Order.Ring.Nat

/-! Numbers up to one: a quotient is rounded to at most one if it is at most one, and to at least
one if it is at least one. -/

namespace AnalystQuery.Number

theorem le_roundToEven {numerator denominator bound : Nat} (positive : 0 < denominator)
    (above : bound * denominator ≤ numerator) : bound ≤ roundToEven numerator denominator := by
  have whole : bound ≤ numerator / denominator := (Nat.le_div_iff_mul_le positive).mpr above
  rw [roundToEven]
  split
  · exact whole
  · split <;> omega

theorem roundToEven_le {numerator denominator bound : Nat} (positive : 0 < denominator)
    (below : numerator ≤ bound * denominator) : roundToEven numerator denominator ≤ bound := by
  have whole : numerator / denominator ≤ bound := Nat.div_le_of_le_mul (by rwa [Nat.mul_comm])
  rw [roundToEven]
  rcases Nat.eq_or_lt_of_le whole with same | less
  · -- At the bound itself nothing is left to round.
    have rest : numerator % denominator = 0 := by
      have split := Nat.div_add_mod numerator denominator
      rw [same, Nat.mul_comm] at split
      omega
    rw [rest, if_pos (by omega), same]
  · split
    · omega
    · split <;> omega

namespace Binary

variable {numerator denominator power : Nat}

private theorem two_pow_add (first second : Nat) :
    Nat.pow 2 (first + second) = Nat.pow 2 first * Nat.pow 2 second := Nat.pow_add 2 first second

private theorem two_pow_le {first second : Nat} (below : first ≤ second) :
    Nat.pow 2 first ≤ Nat.pow 2 second := Nat.pow_le_pow_right (by decide) below

private theorem mul_two_pow_zero (value : Nat) : value * Nat.pow 2 0 = value := Nat.mul_one value

theorem logTwo_eq (numerator denominator : Nat) :
    logTwo numerator denominator =
      let estimate : Int := (Nat.log2 numerator : Int) - Nat.log2 denominator
      if numerator * Nat.pow 2 (-estimate).toNat < denominator * Nat.pow 2 estimate.toNat then
        estimate - 1
      else estimate := by
  simp only [logTwo, scaleByTwo, Int.neg_neg]

theorem log2_le {first second : Nat} (positive : 0 < first) (below : first ≤ second) :
    first.log2 ≤ second.log2 := by
  rw [Nat.le_log2 (by omega)]
  exact (Nat.log2_self_le (by omega)).trans below

theorem logTwo_nonneg (positive : 0 < denominator) (above : denominator ≤ numerator) :
    0 ≤ logTwo numerator denominator := by
  have order := log2_le positive above
  rw [logTwo_eq]
  dsimp only
  rcases Nat.eq_or_lt_of_le order with same | less
  · rw [same, Int.sub_self, if_neg]
    simpa using above
  · split <;> omega

theorem logTwo_nonpos (positive : 0 < numerator) (below : numerator ≤ denominator) :
    logTwo numerator denominator ≤ 0 := by
  have order := log2_le positive below
  rw [logTwo_eq]
  dsimp only
  split <;> omega

theorem lt_of_logTwo (positive : 0 < denominator)
    (small : logTwo numerator denominator + power < 0) :
    numerator * Nat.pow 2 power < denominator := by
  rw [logTwo_eq] at small
  dsimp only at small
  split at small
  · rename_i less
    have none : ((Nat.log2 numerator : Int) - Nat.log2 denominator).toNat = 0 := by omega
    have more : power ≤ (-((Nat.log2 numerator : Int) - Nat.log2 denominator)).toNat := by omega
    rw [none] at less
    calc numerator * Nat.pow 2 power
        ≤ numerator * Nat.pow 2 (-((Nat.log2 numerator : Int) - Nat.log2 denominator)).toNat :=
          Nat.mul_le_mul_left _ (two_pow_le more)
      _ < denominator * Nat.pow 2 0 := less
      _ = denominator := mul_two_pow_zero denominator
  · have above : numerator < Nat.pow 2 (numerator.log2 + 1) := Nat.lt_log2_self
    calc numerator * Nat.pow 2 power
        < Nat.pow 2 (numerator.log2 + 1) * Nat.pow 2 power :=
          Nat.mul_lt_mul_of_pos_right above (Nat.pow_pos (by decide))
      _ = Nat.pow 2 (numerator.log2 + 1 + power) := (two_pow_add _ _).symm
      _ ≤ Nat.pow 2 denominator.log2 := two_pow_le (by omega)
      _ ≤ denominator := Nat.log2_self_le (by omega)

/-- The bits of one among numbers of 32 and of 64 bits. -/
def unitSingle : Nat := 127 * Nat.pow 2 23
def unitDouble : Nat := 1023 * Nat.pow 2 52

theorem ofNat_one_single : (ofNat 1 : Single) = ⟨false, unitSingle⟩ := by decide

theorem ofNat_one_double : (ofNat 1 : Double) = ⟨false, unitDouble⟩ := by decide

theorem magnitude_ofQuotient_single (negative : Bool) (some : numerator ≠ 0) :
    (ofQuotient negative numerator denominator : Single).magnitude =
      let exponent := max (-149) (logTwo numerator denominator - 23)
      min ((exponent + 149).toNat * Nat.pow 2 23 +
        roundToEven (numerator * Nat.pow 2 (-exponent).toNat)
          (denominator * Nat.pow 2 exponent.toNat)) (255 * Nat.pow 2 23) := by
  have least : Format.single.leastExponent = -149 := by decide
  have infinity : Format.single.infinity = 255 * Nat.pow 2 23 := by decide
  have fraction : (Format.single.fractionBits : Int) = 23 := rfl
  simp only [ofQuotient, if_neg some, least, infinity, fraction, scaleByTwo, Int.neg_neg]
  rfl

theorem unit_le_ofQuotient (negative : Bool) (positive : 0 < denominator)
    (above : denominator ≤ numerator) :
    unitSingle ≤ (ofQuotient negative numerator denominator : Single).magnitude := by
  have nonneg := logTwo_nonneg positive above
  have normal : max (-149) (logTwo numerator denominator - 23) =
      logTwo numerator denominator - 23 := by omega
  rw [magnitude_ofQuotient_single negative (by omega)]
  dsimp only
  rw [normal]
  refine Nat.le_min.mpr ⟨?_, by decide⟩
  rcases Int.le_iff_lt_or_eq.mp nonneg with large | zero
  · have steps : 127 ≤ (logTwo numerator denominator - 23 + 149).toNat := by omega
    exact (Nat.mul_le_mul_right (Nat.pow 2 23) steps).trans (Nat.le_add_right _ _)
  · -- Between one and two the significand alone decides.
    rw [← zero]
    have rounded : Nat.pow 2 23 ≤ roundToEven (numerator * Nat.pow 2 23)
        (denominator * Nat.pow 2 0) := by
      rw [mul_two_pow_zero]
      refine le_roundToEven positive ?_
      rw [Nat.mul_comm]
      exact Nat.mul_le_mul_right _ above
    exact Nat.add_le_add_left rounded (126 * Nat.pow 2 23)

theorem ofQuotient_le_unit (negative : Bool) (positive : 0 < denominator)
    (below : numerator ≤ denominator) :
    (ofQuotient negative numerator denominator : Single).magnitude ≤ unitSingle := by
  rcases Nat.eq_zero_or_pos numerator with rfl | some
  · exact Nat.zero_le _
  · have nonpos := logTwo_nonpos some below
    rw [magnitude_ofQuotient_single negative (by omega)]
    dsimp only
    generalize exponent : max (-149) (logTwo numerator denominator - 23) = power
    have none : power.toNat = 0 := by omega
    rw [none, mul_two_pow_zero]
    refine (Nat.min_le_left _ _).trans ?_
    rcases Int.lt_or_eq_of_le (show power ≤ -23 by omega) with small | rfl
    · have less : numerator * Nat.pow 2 ((-power).toNat - 24) < denominator :=
        lt_of_logTwo positive (by omega)
      have rounded : roundToEven (numerator * Nat.pow 2 (-power).toNat) denominator ≤
          Nat.pow 2 24 := by
        refine roundToEven_le positive ?_
        calc numerator * Nat.pow 2 (-power).toNat
            = numerator * Nat.pow 2 ((-power).toNat - 24) * Nat.pow 2 24 := by
              rw [Nat.mul_assoc, ← two_pow_add, Nat.sub_add_cancel (by omega)]
          _ ≤ denominator * Nat.pow 2 24 := Nat.mul_le_mul_right _ less.le
          _ = Nat.pow 2 24 * denominator := Nat.mul_comm _ _
      have steps : (power + 149).toNat ≤ 125 := by omega
      calc (power + 149).toNat * Nat.pow 2 23 +
            roundToEven (numerator * Nat.pow 2 (-power).toNat) denominator
          ≤ 125 * Nat.pow 2 23 + Nat.pow 2 24 :=
            Nat.add_le_add (Nat.mul_le_mul_right _ steps) rounded
        _ = unitSingle := rfl
    · have rounded : roundToEven (numerator * Nat.pow 2 23) denominator ≤ Nat.pow 2 23 := by
        refine roundToEven_le positive ?_
        rw [Nat.mul_comm]
        exact Nat.mul_le_mul_left _ below
      exact Nat.add_le_add_left rounded (126 * Nat.pow 2 23)

variable {number : Double}

theorem quotient_pos (number : Double) : 0 < number.quotient.2 := by
  rw [quotient, scaleByTwo, Nat.one_mul]
  exact Nat.pow_pos (by decide)

theorem exponent_double (number : Double) :
    number.exponent = -1074 + (number.magnitude / Nat.pow 2 52 - 1 : Nat) := by
  have least : Format.double.leastExponent = -1074 := by decide
  rw [exponent, least]
  rfl

theorem le_quotient (above : unitDouble ≤ number.magnitude) :
    number.quotient.2 ≤ number.quotient.1 := by
  have field : 1023 ≤ number.magnitude / Nat.pow 2 52 :=
    (Nat.le_div_iff_mul_le (Nat.pow_pos (by decide))).mpr above
  have exponent := exponent_double number
  have normal : Nat.pow 2 52 ≤ number.significand := by
    rw [significand]
    exact if_neg (show ¬ number.magnitude / Nat.pow 2 52 = 0 by omega) ▸ Nat.le_add_right _ _
  rw [quotient, scaleByTwo, Nat.one_mul]
  calc Nat.pow 2 (-number.exponent).toNat
      ≤ Nat.pow 2 52 := two_pow_le (by omega)
    _ ≤ number.significand := normal
    _ ≤ number.significand * Nat.pow 2 number.exponent.toNat :=
      Nat.le_mul_of_pos_right _ (Nat.pow_pos (by decide))

theorem quotient_le (below : number.magnitude ≤ unitDouble) :
    number.quotient.1 ≤ number.quotient.2 := by
  rcases Nat.eq_or_lt_of_le below with one | less
  · obtain ⟨negative, magnitude⟩ := number
    obtain rfl : magnitude = unitDouble := one
    cases negative <;> decide
  · have field : number.magnitude / Nat.pow 2 52 < 1023 :=
      (Nat.div_lt_iff_lt_mul (Nat.pow_pos (by decide))).mpr less
    have exponent := exponent_double number
    have none : number.exponent.toNat = 0 := by omega
    have normal : number.significand ≤ Nat.pow 2 53 := by
      have power : Nat.pow 2 Format.double.fractionBits = 4503599627370496 := rfl
      have double : Nat.pow 2 53 = 9007199254740992 := rfl
      simp only [significand, power, double]
      split <;> omega
    rw [quotient, scaleByTwo, Nat.one_mul, none, mul_two_pow_zero]
    exact normal.trans (two_pow_le (by omega))

end Binary

end AnalystQuery.Number
