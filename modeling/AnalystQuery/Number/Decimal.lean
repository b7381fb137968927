import AnalystQuery.Number.Binary

/-! Decimal text and binary numbers: the nearest number to a decimal, the shortest decimal
that identifies a number, and decimals with a fixed number of places. -/

namespace AnalystQuery.Number

structure Decimal where
  digits : Nat
  exponent : Int
  deriving DecidableEq, Repr

def digitsValue (digits : List Char) : Nat :=
  digits.foldl (fun value c => 10 * value + (c.toNat - 48)) 0

def decimalDigits (value : Nat) : List Char := Nat.toDigits 10 value

def padded (width value : Nat) : List Char :=
  let digits := decimalDigits value
  List.replicate (width - digits.length) '0' ++ digits

/-- Decimal exponents past this one are beyond every format in use. -/
private def exponentReach : Int := 5000

def Decimal.nearest {format : Format} (negative : Bool) (decimal : Decimal) : Binary format :=
  if decimal.digits = 0 then ⟨negative, 0⟩
  else
    let leading := decimal.exponent + (decimalDigits decimal.digits).length
    if exponentReach < leading then Binary.infinity negative
    else if leading < -exponentReach then ⟨negative, 0⟩
    else
      let (numerator, denominator) := scaleByTen decimal.digits 1 decimal.exponent
      Binary.ofQuotient negative numerator denominator

def Decimal.stripZeros (decimal : Decimal) : Decimal :=
  let zeros := ((decimalDigits decimal.digits).reverse.takeWhile (· == '0')).length
  if decimal.digits = 0 then decimal
  else ⟨decimal.digits / Nat.pow 10 zeros, decimal.exponent + zeros⟩

namespace Binary

variable {format : Format}

/-- The reals that round to a positive finite number, as two bounds over one denominator;
the bounds themselves belong to them when the significand is even. -/
structure RoundingInterval where
  low : Nat
  high : Nat
  denominator : Nat
  closed : Bool

def roundingInterval (number : Binary format) : RoundingInterval :=
  let narrow := number.magnitude % Nat.pow 2 format.fractionBits = 0 &&
    Nat.pow 2 format.fractionBits < number.magnitude
  let m := number.significand
  let (scale, denominator) := scaleByTwo 1 1 (number.exponent - 2)
  ⟨(if narrow then 4 * m - 1 else 4 * m - 2) * scale, (4 * m + 2) * scale, denominator, m % 2 = 0⟩

def RoundingInterval.contains (interval : RoundingInterval) (decimal : Decimal) : Bool :=
  let (numerator, denominator) := scaleByTen decimal.digits 1 decimal.exponent
  let value := numerator * interval.denominator
  let low := interval.low * denominator
  let high := interval.high * denominator
  if interval.closed then low ≤ value && value ≤ high else low < value && value < high

/-- The least exponent `k` with the value of a positive quotient below `10 ^ k`. -/
def decimalScale (numerator denominator : Nat) : Int :=
  if denominator ≤ numerator then (decimalDigits (numerator / denominator)).length
  else
    let zeros : Int := (decimalDigits (denominator / numerator)).length - 1
    if numerator * Nat.pow 10 zeros.toNat = denominator then 1 - zeros else -zeros

/-- The nearer of the two decimals around a value that identify the number, on one grid. -/
private def nearestOnGrid (number : Binary format) (exponent : Int) : Option Decimal :=
  let (numerator, denominator) := number.quotient
  let (above, below) := scaleByTen numerator denominator (-exponent)
  let lower := above / below
  let hits := [lower, lower + 1].filter fun digits =>
    number.roundingInterval.contains ⟨digits, exponent⟩
  match hits with
  | [] => none
  | [digits] => some ⟨digits, exponent⟩
  | _ => some ⟨roundToEven above below, exponent⟩

def shortest (number : Binary format) : Decimal :=
  let (numerator, denominator) := number.quotient
  let scale := decimalScale numerator denominator
  let found := (List.range 17).findSome? fun count =>
    number.nearestOnGrid (scale - (count + 1 : Nat))
  match found with
  | some decimal => decimal.stripZeros
  | none => ⟨numerator * Nat.pow 5 (-number.exponent).toNat, min number.exponent 0⟩

/-- Writes a finite number with its shortest digits: positionally when its leading digit
stands for a power of ten from `10 ^ -5` to `10 ^ last`, otherwise with an exponent. -/
def render (last : Int) (number : Binary format) : List Char :=
  let sign := if number.negative then ['-'] else []
  if number.isZero then sign ++ ['0', '.', '0']
  else
    let decimal := number.shortest
    let digits := decimalDigits decimal.digits
    let leading : Int := decimal.exponent + digits.length - 1
    sign ++
      if leading < -5 || last < leading then
        let fraction := if digits.length = 1 then [] else '.' :: digits.drop 1
        let mark := if leading < 0 then ['e', '-'] else ['e', '+']
        digits.take 1 ++ fraction ++ mark ++ decimalDigits leading.natAbs
      else if 0 ≤ decimal.exponent then
        digits ++ List.replicate decimal.exponent.toNat '0' ++ ['.', '0']
      else if leading < 0 then
        ['0', '.'] ++ List.replicate (-leading - 1).toNat '0' ++ digits
      else
        digits.take (leading + 1).toNat ++ ['.'] ++ digits.drop (leading + 1).toNat

def positional (number : Binary format) : List Char :=
  if number.isNotANumber then ['N', 'a', 'N']
  else
    let sign := if number.negative then ['-'] else []
    if number.isInfinite then sign ++ ['i', 'n', 'f']
    else if number.isZero then sign ++ ['0']
    else
      let decimal := number.shortest
      if 0 ≤ decimal.exponent then
        sign ++ decimalDigits decimal.digits ++ List.replicate decimal.exponent.toNat '0'
      else
        let places := decimal.exponent.natAbs
        let digits := padded (places + 1) decimal.digits
        sign ++ digits.take (digits.length - places) ++ '.' :: digits.drop (digits.length - places)

def fixed (places : Nat) (number : Binary format) : List Char :=
  if number.isNotANumber then ['N', 'a', 'N']
  else
    let sign := if number.negative then ['-'] else []
    if number.isInfinite then sign ++ ['i', 'n', 'f']
    else
      let (numerator, denominator) := number.quotient
      let digits := padded (places + 1) (roundToEven (numerator * Nat.pow 10 places) denominator)
      let whole := digits.take (digits.length - places)
      let fraction := digits.drop (digits.length - places)
      sign ++ whole ++ if places = 0 then [] else '.' :: fraction

end Binary

end AnalystQuery.Number
