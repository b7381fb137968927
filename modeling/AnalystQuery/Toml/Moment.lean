import AnalystQuery.Calendar.Date
import AnalystQuery.Calendar.Scan

/-! The dates and times of TOML text: a day, a time of day, or both with a distance from
universal time. They are kept as numbers and have one written form. -/

namespace AnalystQuery.Toml

open Calendar (daysInMonth)
open Calendar.Scan (exactly?)
open Number (padded)

/-- A time of day, with the digits of its fraction of a second as they were written. -/
structure Clock where
  hour : Nat
  minute : Nat
  second : Nat
  fraction : List Char
  deriving DecidableEq, Repr

inductive Distance where
  | universal
  | minutes (east : Int)
  deriving DecidableEq, Repr

structure Moment where
  day : Option (Nat × Nat × Nat)
  clock : Option Clock
  distance : Option Distance
  deriving DecidableEq, Repr

private def digitsInRange? (count low high : Nat) (text : List Char) :
    Option (Nat × List Char) := do
  let (value, rest) ← Calendar.Scan.number? count count text
  if low ≤ value && value ≤ high then pure (value, rest) else none

def readDay? (text : List Char) : Option ((Nat × Nat × Nat) × List Char) := do
  let (year, rest) ← digitsInRange? 4 0 9999 text
  let (month, rest) ← digitsInRange? 2 1 12 (← exactly? '-' rest)
  let (day, rest) ← digitsInRange? 2 1 (daysInMonth year month) (← exactly? '-' rest)
  pure ((year, month, day), rest)

def readClock? (text : List Char) : Option (Clock × List Char) := do
  let (hour, rest) ← digitsInRange? 2 0 23 text
  let (minute, rest) ← digitsInRange? 2 0 59 (← exactly? ':' rest)
  let (second, rest) ← digitsInRange? 2 0 60 (← exactly? ':' rest)
  match rest with
  | '.' :: digits =>
    let fraction := digits.takeWhile Char.isDigit
    if fraction.isEmpty then pure (⟨hour, minute, second, []⟩, rest)
    else pure (⟨hour, minute, second, fraction⟩, digits.dropWhile Char.isDigit)
  | rest => pure (⟨hour, minute, second, []⟩, rest)

private def readMinutes? (text : List Char) : Option (Nat × List Char) := do
  let (hours, rest) ← digitsInRange? 2 0 23 text
  let (minutes, rest) ← digitsInRange? 2 0 59 (← exactly? ':' rest)
  pure (hours * 60 + minutes, rest)

/-- Reads a distance from universal time, if there is one. -/
def readDistance (text : List Char) : Option Distance × List Char :=
  match text with
  | 'Z' :: rest => (some .universal, rest)
  | 'z' :: rest => (some .universal, rest)
  | '+' :: rest =>
    match readMinutes? rest with
    | some (minutes, rest) => (some (.minutes minutes), rest)
    | none => (none, text)
  | '-' :: rest =>
    match readMinutes? rest with
    | some (minutes, rest) => (some (.minutes (-minutes)), rest)
    | none => (none, text)
  | _ => (none, text)

private def isSeparator (c : Char) : Bool := c == 'T' || c == 't' || c == ' '

def readMoment? (text : List Char) : Option (Moment × List Char) :=
  match readDay? text with
  | none => (readClock? text).map fun (clock, rest) => (⟨none, some clock, none⟩, rest)
  | some (day, rest) =>
    match rest with
    | [] => some (⟨some day, none, none⟩, [])
    | separator :: time =>
      match if isSeparator separator then readClock? time else none with
      | none => some (⟨some day, none, none⟩, rest)
      | some (clock, rest) =>
        let (distance, rest) := readDistance rest
        some (⟨some day, some clock, distance⟩, rest)

private def joined (mark : Char) (parts : List (List Char)) : List Char :=
  List.intercalate [mark] parts

def fractionDigits : Nat := 9

/-- A fraction with its point and without zeros at its end; nothing when it is zero. -/
private def fractionText (fraction : List Char) : List Char :=
  match ((fraction.take fractionDigits).reverse.dropWhile (· == '0')).reverse with
  | [] => []
  | digits => '.' :: digits

def Clock.render (clock : Clock) : List Char :=
  joined ':' [padded 2 clock.hour, padded 2 clock.minute, padded 2 clock.second] ++
    fractionText clock.fraction

def Distance.render : Distance → List Char
  | universal => ['Z']
  | minutes east =>
    (if east < 0 then '-' else '+') ::
      joined ':' [padded 2 (east.natAbs / 60), padded 2 (east.natAbs % 60)]

def Moment.render (moment : Moment) : List Char :=
  let day := moment.day.map fun (year, month, day) =>
    joined '-' [padded 4 year, padded 2 month, padded 2 day]
  joined 'T' (day.toList ++ (moment.clock.map Clock.render).toList) ++
    moment.distance.elim [] Distance.render

end AnalystQuery.Toml
