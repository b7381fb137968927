import AnalystQuery.Calendar.MailDate
import AnalystQuery.Text.DecimalDigit

/-! Absolute timestamps of untrusted origin. Values that begin like `2026-10-14` pass; mail
dates and the usual ways to write a day are converted; anything else is left alone. -/

namespace AnalystQuery.Calendar

open Scan

def beginsWithIsoDate (text : List Char) : Bool :=
  match text with
  | a :: b :: c :: d :: '-' :: e :: f :: '-' :: g :: h :: _ =>
    [a, b, c, d, e, f, g, h].all Text.isDecimalDigit
  | _ => false

inductive DatePart where
  | year
  | monthNumber
  | monthName
  | shortMonthName
  | day
  | blank
  | mark (c : Char)
  deriving DecidableEq, Repr

structure DateNumbers where
  year : Int
  month : Nat
  day : Nat

/-- Reads a year: at most four digits, or a sign and any number of them. -/
def readYear? (text : List Char) : Option (Int × List Char) :=
  match text with
  | '-' :: rest => (wholeNumber? 1 rest).map fun (year, rest) => (-(year : Int), rest)
  | '+' :: rest => (wholeNumber? 1 rest).map fun (year, rest) => ((year : Int), rest)
  | text => (number? 1 4 text).map fun (year, rest) => ((year : Int), rest)

def readParts? (numbers : DateNumbers) : List DatePart → List Char → Option DateNumbers
  | [], text => if text.isEmpty then some numbers else none
  | part :: parts, text =>
    match part with
    | .year => do
      let (year, rest) ← readYear? (skipBlank text)
      readParts? { numbers with year } parts rest
    | .monthNumber => do
      let (month, rest) ← number? 1 2 (skipBlank text)
      readParts? { numbers with month } parts rest
    | .monthName => do
      let (month, rest) ← month? text
      readParts? { numbers with month } parts rest
    | .shortMonthName => do
      let (month, rest) ← shortMonth? text
      readParts? { numbers with month } parts rest
    | .day => do
      let (day, rest) ← number? 1 2 (skipBlank text)
      readParts? { numbers with day } parts rest
    | .blank => readParts? numbers parts (skipBlank text)
    | .mark c => do readParts? numbers parts (← exactly? c text)

def dateForms : List (List DatePart) :=
  [[.year, .mark '/', .monthNumber, .mark '/', .day],
   [.monthNumber, .mark '/', .day, .mark '/', .year],
   [.day, .blank, .monthName, .blank, .year],
   [.monthName, .blank, .day, .mark ',', .blank, .year],
   [.shortMonthName, .blank, .day, .mark ',', .blank, .year],
   [.day, .blank, .shortMonthName, .blank, .year]]

def writtenDay? (text : List Char) (offset : Int) : Option Instant :=
  dateForms.findSome? fun form => do
    let numbers ← readParts? ⟨0, 0, 0⟩ form text
    let date ← Date.of? numbers.year numbers.month numbers.day
    Instant.startOfDay? date offset

/-- Brings a timestamp into the form in which instants are written, where it is recognized;
a day alone means its beginning in the given offset. -/
def normalizeTimestamp (value : String) (offset : Int) : String :=
  let text := Text.trimmed value.toList
  if beginsWithIsoDate text then String.ofList text
  else match MailDate.read? text with
    | some instant => instant.render
    | none =>
      match writtenDay? text offset with
      | some instant => instant.render
      | none => String.ofList text

def offsetSign? : Char → Option Int
  | '+' => some 1
  | '-' => some (-1)
  | '\u2212' => some (-1)
  | _ => none

def readInstant? (text : String) : Option Instant := do
  let (year, rest) ← number? 4 4 text.toList
  let (month, rest) ← number? 2 2 (← exactly? '-' rest)
  let (day, rest) ← number? 2 2 (← exactly? '-' rest)
  let separator ← rest.head?
  let (hour, rest) ← number? 2 2 (rest.drop 1)
  let (minute, rest) ← number? 2 2 (← exactly? ':' rest)
  let (second, rest) ← number? 2 2 (← exactly? ':' rest)
  let (milli, rest) ← match rest with
    | '.' :: rest =>
      let digits := rest.takeWhile Char.isDigit
      if digits.isEmpty then none
      else some (Number.digitsValue ((digits ++ ['0', '0', '0']).take 3),
        rest.dropWhile Char.isDigit)
    | rest => some (0, rest)
  let offset ← match rest with
    | ['Z'] => some 0
    | ['z'] => some 0
    | sign :: a :: b :: ':' :: c :: d :: [] =>
      if [a, b, c, d].all Char.isDigit && c < '6' then
        let seconds : Int := Number.digitsValue [a, b] * 3600 + Number.digitsValue [c, d] * 60
        (offsetSign? sign).map (· * seconds)
      else none
    | _ => none
  let date ← Date.of? year month day
  if [('T'), ('t'), (' ')].contains separator && hour < 24 && minute < 60 && second ≤ 60
      && isOffset offset then
    Instant.at? date (hour * 3600 + minute * 60 + min second 59)
      (if second = 60 then milli + 1000 else milli) offset
  else none

end AnalystQuery.Calendar
