/-! Punycode: text in letters, digits and hyphens. The ASCII characters of a text come first,
with a hyphen behind them. Numbers follow for the others, in the order of their codes: each says
how many steps are passed before the next character goes in, where a step leads to the next place
in the text and, behind the last place, to the next code. Where the digits of a number end
depends on the numbers before it. -/

namespace AnalystQuery.Text.Punycode

/-- A digit below this ends a number. `place` counts its digits in steps of 36. -/
def threshold (place bias : Nat) : Nat := max 1 (min 26 (place - bias))

private def scaledBias (steps : Nat) : Nat :=
  if 455 < steps then 36 + scaledBias (steps / 35) else 36 * steps / (steps + 38)
termination_by steps

/-- The bias behind a number that placed the last of `count` characters. -/
def nextBias (steps count : Nat) (isFirst : Bool) : Nat :=
  let steps := steps / (if isFirst then 700 else 2)
  scaledBias (steps + steps / count)

def digit (value : Nat) : Char := Char.ofNat (if value < 26 then 97 + value else 22 + value)

def digitValue? (c : Char) : Option Nat :=
  if c.isDigit then some (c.toNat - 22)
  else if c.isAlpha then some (c.toLower.toNat - 97)
  else none

def numberDigits (bias place value : Nat) : List Char :=
  let least := threshold place bias
  if value < least then [digit value]
  else
    digit (least + (value - least) % (36 - least)) ::
      numberDigits bias (place + 36) ((value - least) / (36 - least))
termination_by value
decreasing_by
  have positive : 1 ≤ threshold place bias := Nat.le_max_left ..
  have bound := Nat.div_le_self (value - threshold place bias) (36 - threshold place bias)
  omega

structure Writing where
  digits : List Char
  steps : Nat
  bias : Nat
  count : Nat
  isFirst : Bool

def Writing.pass (code : Nat) (writing : Writing) (c : Char) : Writing :=
  if c.toNat < code then { writing with steps := writing.steps + 1 }
  else if c.toNat = code then
    { digits := writing.digits ++ numberDigits writing.bias 36 writing.steps
      steps := 0
      bias := nextBias writing.steps (writing.count + 1) writing.isFirst
      count := writing.count + 1
      isFirst := false }
  else writing

private def isAscii (c : Char) : Bool := c.toNat < 0x80

/-- Writes the characters with each of the codes; codes below `next` are done. -/
def Writing.codes (text : List Char) (next : Nat) (writing : Writing) : List Nat → Writing
  | [] => writing
  | code :: rest =>
    let writing := { writing with
      steps := writing.steps + (code - next) * (writing.count + 1) }
    let writing := text.foldl (Writing.pass code) writing
    Writing.codes text (code + 1) { writing with steps := writing.steps + 1 } rest

def encode (text : List Char) : List Char :=
  let ascii := text.filter isAscii
  let codes := ((text.filter (!isAscii ·)).map Char.toNat).mergeSort.eraseDups
  let numbers := Writing.codes text 0x80 ⟨[], 0, 72, ascii.length, true⟩ codes
  ascii ++ (if ascii.isEmpty then [] else ['-']) ++ numbers.digits

structure Reading where
  text : List Char
  code : Nat
  position : Nat
  bias : Nat
  isFirst : Bool

private def characterOf? (code : Nat) : Option Char :=
  if code.isValidChar then some (Char.ofNat code) else none

/-- Puts a character in behind a number of steps. -/
def Reading.insert? (reading : Reading) (steps : Nat) : Option Reading := do
  let count := reading.text.length + 1
  let reached := reading.position + steps
  let code := reading.code + reached / count
  let c ← characterOf? code
  let position := reached % count
  pure
    { text := reading.text.take position ++ c :: reading.text.drop position
      code := code
      position := position + 1
      bias := nextBias steps count reading.isFirst
      isFirst := false }

/-- Reads numbers. Of the one under way, `value` is read, its next digit is at `place` and counts
`weight` times. -/
def Reading.numbers? (reading : Reading) (value weight place : Nat) :
    List Char → Option (List Char)
  | [] => if place = 36 then some reading.text else none
  | c :: rest => do
    let digit ← digitValue? c
    let value := value + digit * weight
    let least := threshold place reading.bias
    if digit < least then (← reading.insert? value).numbers? 0 1 36 rest
    else reading.numbers? value (weight * (36 - least)) (place + 36) rest

/-- Reads a text. A hyphen in front of everything is no digit. -/
def decode? (text : List Char) : Option (List Char) :=
  let numbers := (text.reverse.takeWhile (· != '-')).reverse
  let ascii := (text.take (text.length - numbers.length)).dropLast
  let numbers := if ascii.isEmpty then text else numbers
  if ascii.all isAscii then (Reading.mk ascii 0x80 0 72 true).numbers? 0 1 36 numbers else none

end AnalystQuery.Text.Punycode
