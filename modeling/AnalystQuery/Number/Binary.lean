import AnalystQuery.Number.Rounding

/-! Binary floating-point numbers of any interchange format. A number is its sign and the
rest of its bit pattern, so that magnitudes are ordered as naturals; every operation computes
the exact result and rounds it once, to the nearest with ties to even. -/

namespace AnalystQuery.Number

structure Format where
  fractionBits : Nat
  exponentBits : Nat
  deriving DecidableEq, Repr

def Format.single : Format := ⟨23, 8⟩

def Format.double : Format := ⟨52, 11⟩

/-- A number of a format: its sign, and its bits without the sign read as a natural. -/
structure Binary (format : Format) where
  negative : Bool
  magnitude : Nat
  deriving DecidableEq, Repr

abbrev Single := Binary Format.single
abbrev Double := Binary Format.double

/-- The magnitude of infinity; larger ones are no numbers. -/
def Format.infinity (format : Format) : Nat :=
  (Nat.pow 2 format.exponentBits - 1) * Nat.pow 2 format.fractionBits

def Format.leastExponent (format : Format) : Int :=
  2 - Nat.pow 2 (format.exponentBits - 1) - format.fractionBits

namespace Binary

variable {format : Format}

def zero : Binary format := ⟨false, 0⟩

def infinity (negative : Bool) : Binary format := ⟨negative, format.infinity⟩

def notANumber : Binary format := ⟨false, format.infinity + Nat.pow 2 (format.fractionBits - 1)⟩

def isNotANumber (number : Binary format) : Bool := format.infinity < number.magnitude

def isInfinite (number : Binary format) : Bool := number.magnitude == format.infinity

def isFinite (number : Binary format) : Bool := number.magnitude < format.infinity

def isZero (number : Binary format) : Bool := number.magnitude == 0

def negate (number : Binary format) : Binary format :=
  { number with negative := !number.negative }

def withSign (number : Binary format) (negative : Bool) : Binary format :=
  { number with negative }

/-- The whole number `m` of a finite magnitude `m * 2 ^ exponent`. -/
def significand (number : Binary format) : Nat :=
  let power := Nat.pow 2 format.fractionBits
  if number.magnitude / power = 0 then number.magnitude else power + number.magnitude % power

/-- The exponent `q` of a finite magnitude `significand * 2 ^ q`. -/
def exponent (number : Binary format) : Int :=
  let field := number.magnitude / Nat.pow 2 format.fractionBits
  format.leastExponent + (field - 1 : Nat)

def logTwo (numerator denominator : Nat) : Int :=
  let estimate : Int := (Nat.log2 numerator : Int) - Nat.log2 denominator
  let (below, above) := scaleByTwo numerator denominator (-estimate)
  if below < above then estimate - 1 else estimate

/-- The number nearest to a non-negative quotient; beyond the largest number it is infinite. -/
def ofQuotient (negative : Bool) (numerator denominator : Nat) : Binary format :=
  if numerator = 0 then ⟨negative, 0⟩
  else
    let exponent := max format.leastExponent (logTwo numerator denominator - format.fractionBits)
    let (above, below) := scaleByTwo numerator denominator (-exponent)
    let bits :=
      (exponent - format.leastExponent).toNat * Nat.pow 2 format.fractionBits +
        roundToEven above below
    ⟨negative, min bits format.infinity⟩

def quotient (number : Binary format) : Nat × Nat :=
  scaleByTwo number.significand 1 number.exponent

def ofInt (whole : Int) : Binary format :=
  ofQuotient (whole < 0) whole.natAbs 1

def ofNat (whole : Nat) : Binary format := ofQuotient false whole 1

def convert {target : Format} (number : Binary format) : Binary target :=
  if number.isNotANumber then notANumber
  else if number.isInfinite then infinity number.negative
  else ofQuotient number.negative number.quotient.1 number.quotient.2

/-- Whether the left number is less than the right one; never with something that is no number. -/
def less (left right : Binary format) : Bool :=
  !left.isNotANumber && !right.isNotANumber &&
    match left.negative, right.negative with
    | false, false => left.magnitude < right.magnitude
    | true, true => right.magnitude < left.magnitude
    | true, false => left.magnitude != 0 || right.magnitude != 0
    | false, true => false

def atMost (left right : Binary format) : Bool :=
  !left.isNotANumber && !right.isNotANumber && !right.less left

private def signedSignificand (number : Binary format) (shift : Int) : Int :=
  let whole : Int := number.significand * Nat.pow 2 (number.exponent - shift).toNat
  if number.negative then -whole else whole

def add (left right : Binary format) : Binary format :=
  if left.isNotANumber || right.isNotANumber then notANumber
  else if left.isInfinite then
    if right.isInfinite && left.negative != right.negative then notANumber else left
  else if right.isInfinite then right
  else
    let shift := min left.exponent right.exponent
    let sum := left.signedSignificand shift + right.signedSignificand shift
    if sum = 0 then ⟨left.negative && right.negative, 0⟩
    else
      let (numerator, denominator) := scaleByTwo sum.natAbs 1 shift
      ofQuotient (sum < 0) numerator denominator

def multiply (left right : Binary format) : Binary format :=
  let negative := left.negative != right.negative
  if left.isNotANumber || right.isNotANumber then notANumber
  else if left.isInfinite || right.isInfinite then
    if left.isZero || right.isZero then notANumber else infinity negative
  else
    let (numerator, denominator) :=
      scaleByTwo (left.significand * right.significand) 1 (left.exponent + right.exponent)
    ofQuotient negative numerator denominator

def divide (left right : Binary format) : Binary format :=
  let negative := left.negative != right.negative
  if left.isNotANumber || right.isNotANumber then notANumber
  else if left.isInfinite then if right.isInfinite then notANumber else infinity negative
  else if right.isInfinite then ⟨negative, 0⟩
  else if right.isZero then if left.isZero then notANumber else infinity negative
  else
    let (numerator, denominator) :=
      scaleByTwo left.significand right.significand (left.exponent - right.exponent)
    ofQuotient negative numerator denominator

/-- The whole part of a number, cut to `[0, limit]`; zero for what is no number. -/
def truncate (number : Binary format) (limit : Nat) : Nat :=
  if number.isNotANumber || number.negative then 0
  else if number.isInfinite then limit
  else min limit (number.quotient.1 / number.quotient.2)

def isWhole (number : Binary format) : Bool :=
  number.isFinite && number.quotient.1 % number.quotient.2 == 0

end Binary

end AnalystQuery.Number
