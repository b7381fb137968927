import AnalystQuery.Json.Raw
import AnalystQuery.Toml.Moment
import AnalystQuery.Toml.Text

/-! The numbers and dates of TOML text. A date is kept as a record with its text under a key of
its own, so that it is neither a text nor a number. -/

namespace AnalystQuery.Toml

open Json (Raw)

/-- The key under which the text of a date stands. -/
def dateKey : String := "$__toml_private_datetime"

/-- Reads digits between which single underscores may stand. -/
def readDigits? (accepts : Char → Bool) (text : List Char) : Option (List Char × List Char) :=
  match text with
  | c :: '_' :: rest =>
    if accepts c then
      match readDigits? accepts rest with
      | some (digits, rest) => some (c :: digits, rest)
      | none => none
    else none
  | c :: rest =>
    if accepts c then
      match readDigits? accepts rest with
      | some (digits, rest) => some (c :: digits, rest)
      | none => some ([c], rest)
    else none
  | [] => none

private def isOctalDigit (c : Char) : Bool := '0' ≤ c && c ≤ '7'

private def isBinaryDigit (c : Char) : Bool := c == '0' || c == '1'

private def readBase? (base : Nat) (accepts : Char → Bool) (text : List Char) :
    Option (Raw × List Char) := do
  let (digits, rest) ← readDigits? accepts text
  let value ← digits.foldlM (fun value c => (Text.hexValue? c).map (base * value + ·)) 0
  if value < Nat.pow 2 63 then pure (.ofInteger value, rest) else none

private def splitSign (text : List Char) : Bool × List Char :=
  match text with
  | '-' :: rest => (true, rest)
  | '+' :: rest => (false, rest)
  | rest => (false, rest)

/-- Reads the whole part of a number. A leading zero stands alone. -/
def readWhole? (text : List Char) : Option (List Char × List Char) :=
  match text with
  | '0' :: rest => some (['0'], rest)
  | text => readDigits? Char.isDigit text

private def readPower? (text : List Char) : Option (List Char × List Char) := do
  match text with
  | mark :: rest =>
    if mark = 'e' || mark = 'E' then
      let (negative, digits) := splitSign rest
      let (digits, rest) ← readDigits? Char.isDigit digits
      pure ('e' :: (if negative then '-' :: digits else digits), rest)
    else none
  | [] => none

private def readFractionAndPower? (text : List Char) : Option (List Char × List Char) := do
  match text with
  | '.' :: rest =>
    let (fraction, rest) ← readDigits? Char.isDigit rest
    let (power, rest) := (readPower? rest).getD ([], rest)
    pure ('.' :: (fraction ++ power), rest)
  | text => readPower? text

/-- Reads a float. One that is too large to be finite is none. -/
def readFloat? (text : List Char) : Option (Raw × List Char) := do
  let (negative, unsigned) := splitSign text
  match unsigned with
  | 'i' :: 'n' :: 'f' :: rest => pure (.float (.infinity negative), rest)
  | 'n' :: 'a' :: 'n' :: rest =>
    pure (.float ((Number.Binary.notANumber : Number.Double).withSign negative), rest)
  | unsigned =>
    let (whole, rest) ← readWhole? unsigned
    let (tail, rest) ← readFractionAndPower? rest
    let value ← Number.readDouble? (String.ofList (whole ++ tail))
    if value.isInfinite && !negative then none
    else pure (.float (value.withSign negative), rest)

def readInteger? (text : List Char) : Option (Raw × List Char) := do
  match text with
  | '0' :: 'x' :: rest => readBase? 16 (Text.hexValue? · |>.isSome) rest
  | '0' :: 'o' :: rest => readBase? 8 isOctalDigit rest
  | '0' :: 'b' :: rest => readBase? 2 isBinaryDigit rest
  | text =>
    let (negative, unsigned) := splitSign text
    let (digits, rest) ← readWhole? unsigned
    let value : Int := Number.digitsValue digits
    let signed := if negative then -value else value
    if -(Nat.pow 2 63 : Int) ≤ signed && signed < Nat.pow 2 63 then
      pure (.ofInteger signed, rest)
    else none

def readNumber? (text : List Char) : Option (Raw × List Char) :=
  match readMoment? text with
  | some (moment, rest) =>
    some (.object [(some dateKey, .string (some (String.ofList moment.render)))], rest)
  | none => (readFloat? text).orElse fun _ => readInteger? text

end AnalystQuery.Toml
