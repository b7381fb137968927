/-! Rounding of exact quotients to whole numbers, to the nearest and with ties to even. -/

namespace AnalystQuery.Number

/-- The whole number nearest to `numerator / denominator`; a half goes to the even neighbour. -/
def roundToEven (numerator denominator : Nat) : Nat :=
  let quotient := numerator / denominator
  let twice := 2 * (numerator % denominator)
  if twice < denominator then quotient
  else if denominator < twice then quotient + 1
  else quotient + quotient % 2

/-- `numerator / denominator` scaled by a power of two, as a quotient of naturals. -/
def scaleByTwo (numerator denominator : Nat) (power : Int) : Nat × Nat :=
  (numerator * Nat.pow 2 power.toNat, denominator * Nat.pow 2 (-power).toNat)

def scaleByTen (numerator denominator : Nat) (power : Int) : Nat × Nat :=
  (numerator * Nat.pow 10 power.toNat, denominator * Nat.pow 10 (-power).toNat)

end AnalystQuery.Number
