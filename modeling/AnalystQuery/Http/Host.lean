import AnalystQuery.Http.DomainName
import AnalystQuery.Http.PercentEncoding
import AnalystQuery.Text.Parts

/-! Hosts: names, and addresses of four or of sixteen bytes. -/

namespace AnalystQuery.Http

inductive Host where
  | name (text : List Char)
  | four (number : Nat)
  | sixteen (pieces : List Nat)
  deriving DecidableEq, Repr

namespace Host

private def decimal (number : Nat) : List Char := (toString number).toList

private def hexadecimal (number : Nat) : List Char := Nat.toDigits 16 number

private def fourText (number : Nat) : List Char :=
  ['.'].intercalate ([number >>> 24, number >>> 16, number >>> 8, number].map fun shifted =>
    decimal (shifted % 256))

private def leadingZeros (pieces : List Nat) : Nat := (pieces.takeWhile (· == 0)).length

/-- The place of the first of the longest rows of zeros, and its length. -/
def longestZeros : List Nat → Nat × Nat
  | [] => (0, 0)
  | piece :: rest =>
    let (place, length) := longestZeros rest
    let here := leadingZeros (piece :: rest)
    if length ≤ here then (0, here) else (place + 1, length)

private def piecesText (pieces : List Nat) : List Char :=
  [':'].intercalate (pieces.map hexadecimal)

/-- Two colons stand for the longest row of zeros; a single zero is written. -/
private def sixteenText (pieces : List Nat) : List Char :=
  let (place, length) := longestZeros pieces
  if length < 2 then piecesText pieces
  else piecesText (pieces.take place) ++ [':', ':'] ++ piecesText (pieces.drop (place + length))

def render : Host → List Char
  | name text => text
  | four number => fourText number
  | sixteen pieces => '[' :: sixteenText pieces ++ [']']

private def valueOf? (base : Nat) (digits : List Char) : Option Nat :=
  digits.foldlM (fun value c =>
    (Text.hexValue? c).bind fun digit =>
      if digit < base then some (base * value + digit) else none) 0

/-- A part of an address of four bytes: octal behind a zero, hexadecimal behind `0x`. -/
def numberOf? : List Char → Option Nat
  | [] => none
  | ['0'] => some 0
  | '0' :: 'x' :: digits => valueOf? 16 digits
  | '0' :: 'X' :: digits => valueOf? 16 digits
  | '0' :: digits => valueOf? 8 digits
  | digits => valueOf? 10 digits

private def withoutLastPoint (parts : List (List Char)) : List (List Char) :=
  if 1 < parts.length && parts.getLast? = some [] then parts.dropLast else parts

def endsInNumber (name : List Char) : Bool :=
  (withoutLastPoint (DomainName.labelsOf name)).getLast?.any fun last =>
    (!last.isEmpty && last.all Char.isDigit) || (numberOf? last).isSome

/-- Reads an address of four bytes. The last of its numbers takes the bytes that are left. -/
def four? (name : List Char) : Option Host := do
  let numbers ← (withoutLastPoint (DomainName.labelsOf name)).mapM numberOf?
  let last ← numbers.getLast?
  let front := numbers.dropLast
  if 3 < front.length || front.any (255 < ·) || Nat.pow 256 (4 - front.length) ≤ last then none
  else
    let value := front.foldl (fun value number => 256 * value + number) 0
    some (four (value * Nat.pow 256 (4 - front.length) + last))

private def piece? (digits : List Char) : Option Nat :=
  if digits.isEmpty || 4 < digits.length then none else valueOf? 16 digits

private def byte? (digits : List Char) : Option Nat :=
  if digits.isEmpty || (digits.head? = some '0' && digits != ['0']) then none
  else (valueOf? 10 digits).filter (· < 256)

private def bytePieces? (text : List Char) : Option (List Nat) := do
  match ← (DomainName.labelsOf text).mapM byte? with
  | [a, b, c, d] => some [256 * a + b, 256 * c + d]
  | _ => none

/-- The pieces between colons; four bytes may stand at the end of an address. -/
private def pieces? (atEnd : Bool) : List (List Char) → Option (List Nat)
  | [] => some []
  | part :: rest => do
    if atEnd && rest.isEmpty && part.contains '.' then bytePieces? part
    else some ((← piece? part) :: (← pieces? atEnd rest))

private def side? (atEnd : Bool) (text : List Char) : Option (List Nat) :=
  if text.isEmpty then some [] else pieces? atEnd (Text.parts (· == ':') text)

private def splitGap? : List Char → Option (List Char × List Char)
  | ':' :: ':' :: rest => some ([], rest)
  | c :: rest => (splitGap? rest).map fun (front, behind) => (c :: front, behind)
  | [] => none

/-- Reads an address of sixteen bytes. Two colons stand for one zero or more. -/
def sixteen? (text : List Char) : Option Host := do
  match splitGap? text with
  | none =>
    let pieces ← pieces? true (Text.parts (· == ':') text)
    if pieces.length = 8 then some (sixteen pieces) else none
  | some (front, behind) =>
    let front ← side? false front
    let behind ← side? true behind
    let given := front.length + behind.length
    if 7 < given then none
    else some (sixteen (front ++ List.replicate (8 - given) 0 ++ behind))

private def inBrackets? (text : List Char) : Option (List Char) :=
  match text with
  | '[' :: rest => if rest.getLast? = some ']' then some rest.dropLast else none
  | _ => none

def network? (text : List Char) : Option Host := do
  if text.head? = some '[' then sixteen? (← inBrackets? text)
  else
    let name ← DomainName.ascii? (← PercentEncoding.decode? text)
    if name.isEmpty then none
    else if endsInNumber name then four? name
    else some (.name name)

def unspecific? (text : List Char) : Option Host := do
  if text.head? = some '[' then sixteen? (← inBrackets? text)
  else if text.any "\x00\t\n\r #/:<>?@[\\]^|".toList.contains then none
  else some (.name (PercentEncoding.encode PercentEncoding.inOpaquePart text))

end Host

end AnalystQuery.Http
