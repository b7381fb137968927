import AnalystQuery.Json.Basic

/-! Number literals of JSON text and the numbers they stand for. Integers are exact. For any
other literal the leading digits that fit 64 bits are taken as one integer, and it is scaled by
a power of ten in a second rounding; a literal beyond the range of 64-bit floats has no value. -/

namespace AnalystQuery.Json

open Number (Double Binary Decimal)

/-- The parts of a number literal, all of them ASCII digits. -/
structure Literal where
  negative : Bool
  whole : List Char
  fraction : Option (List Char)
  power : Option (Bool × List Char)
  deriving Repr, DecidableEq

def integerLimit : Nat := Nat.pow 2 64

private def digitValue (c : Char) : Nat := c.toNat - 48

/-- Takes the leading digits of a whole part while their value fits 64 bits, and counts the
digits left over. -/
def leadingWhole (value : Nat) : List Char → Nat × Nat
  | [] => (value, 0)
  | c :: rest =>
    if 10 * value + digitValue c < integerLimit then leadingWhole (10 * value + digitValue c) rest
    else (value, rest.length + 1)

/-- Continues with the digits after the point while the value fits 64 bits; the count of
digits taken is the second part. -/
def leadingFraction (value taken : Nat) : List Char → Nat × Nat
  | [] => (value, taken)
  | c :: rest =>
    if 10 * value + digitValue c < integerLimit then
      leadingFraction (10 * value + digitValue c) (taken + 1) rest
    else (value, taken)

def scaleReach : Nat := 308

private def tenTo (power : Nat) : Double := Decimal.nearest false ⟨1, power⟩

def scaleDown (value : Double) (power : Nat) : Double :=
  if power ≤ scaleReach then value.divide (tenTo power)
  else if value.isZero then value
  else scaleDown (value.divide (tenTo scaleReach)) (power - scaleReach)
termination_by power
decreasing_by simp only [scaleReach] at *; omega

/-- Scales a value by a power of ten; nothing when it leaves the range. -/
def scaleByPower (value : Double) (power : Int) : Option Double :=
  if power < 0 then some (scaleDown value power.natAbs)
  else if scaleReach < power.natAbs then if value.isZero then some value else none
  else
    let scaled := value.multiply (tenTo power.natAbs)
    if scaled.isInfinite then none else some scaled

namespace Literal

def float? (literal : Literal) : Option Double :=
  let (whole, left) := leadingWhole 0 literal.whole
  let (value, taken) := leadingFraction whole 0 (literal.fraction.getD [])
  let power : Int :=
    match literal.power with
    | some (true, digits) => -(Number.digitsValue digits : Int)
    | some (false, digits) => Number.digitsValue digits
    | none => 0
  (scaleByPower (Binary.ofNat value) ((left : Int) - taken + power)).map fun magnitude =>
    if literal.negative then magnitude.negate else magnitude

def value? (literal : Literal) : Option Json :=
  let whole := Number.digitsValue literal.whole
  let small := if literal.negative then 0 < whole && whole ≤ Nat.pow 2 63 else whole < integerLimit
  if literal.fraction.isNone && literal.power.isNone && small then
    some (.integer (if literal.negative then -(whole : Int) else whole))
  else literal.float?.map .float

end Literal

end AnalystQuery.Json
