import AnalystQuery.Number.Decimal

/-! Reading numbers that stand in text: naturals with an optional plus sign, and floats with
optional sign, point and exponent, or one of the words for infinity and for no number. -/

namespace AnalystQuery.Number

def readNatural? (limit : Nat) (text : String) : Option Nat :=
  let digits := match text.toList with
    | '+' :: digits => digits
    | digits => digits
  if digits.isEmpty || !digits.all Char.isDigit then none
  else
    let value := digitsValue digits
    if value < limit then some value else none

private def readExponent? (text : List Char) : Option Int :=
  let (negative, digits) := match text with
    | '-' :: digits => (true, digits)
    | '+' :: digits => (false, digits)
    | digits => (false, digits)
  if digits.isEmpty || !digits.all Char.isDigit then none
  else
    let value : Int := digitsValue digits
    some (if negative then -value else value)

/-- Reads the digits of a float, of which there must be one before or after the point. -/
private def readDecimal? (text : List Char) : Option Decimal := do
  let whole := text.takeWhile Char.isDigit
  let rest := text.dropWhile Char.isDigit
  let (fraction, rest) := match rest with
    | '.' :: rest => (rest.takeWhile Char.isDigit, rest.dropWhile Char.isDigit)
    | rest => ([], rest)
  if whole.isEmpty && fraction.isEmpty then none
  else
    let power ← match rest with
      | [] => some 0
      | mark :: rest => if mark = 'e' || mark = 'E' then readExponent? rest else none
    pure ⟨digitsValue (whole ++ fraction), power - fraction.length⟩

def readFloat? {format : Format} (text : String) : Option (Binary format) :=
  let (negative, rest) := match text.toList with
    | '-' :: rest => (true, rest)
    | '+' :: rest => (false, rest)
    | rest => (false, rest)
  let word := rest.map Char.toLower
  if word = "inf".toList || word = "infinity".toList then some (.infinity negative)
  else if word = "nan".toList then some .notANumber
  else (readDecimal? rest).map (·.nearest negative)

def readDouble? (text : String) : Option Double := readFloat? text

end AnalystQuery.Number
