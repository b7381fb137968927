import AnalystQuery.Calendar.Instant
import AnalystQuery.Calendar.Scan

/-! Dates as mail headers write them, such as `Wed, 14 Oct 2026 10:00:00 +0200`. The weekday
may be missing but must fit the date, seconds may be missing, years of two or three digits are
completed, and comments in parentheses may follow the zone. -/

namespace AnalystQuery.Calendar.MailDate

open Scan

def namedZones : List (List Char × Int) :=
  [("gmt".toList, 0), ("ut".toList, 0), ("z".toList, 0),
   ("est".toList, -5), ("edt".toList, -4), ("cst".toList, -6), ("cdt".toList, -5),
   ("mst".toList, -7), ("mdt".toList, -6), ("pst".toList, -8), ("pdt".toList, -7)]

/-- A zone name: a known one, or a single letter other than `j`, which means universal time. -/
def zoneHours? (name : List Char) : Option Int :=
  let name := name.map Char.toLower
  match namedZones.find? fun zone => zone.1 == name with
  | some zone => some zone.2
  | none =>
    match name with
    | [letter] => if letter = 'j' then none else some 0
    | _ => none

def zone? (text : List Char) : Option (Int × List Char) :=
  let name := text.takeWhile Char.isAlpha
  if !name.isEmpty then
    (zoneHours? name).map fun hours => (hours * 3600, text.drop name.length)
  else
    match text with
    | sign :: a :: b :: c :: d :: rest =>
      if (sign = '+' || sign = '-') && [a, b, c, d].all Char.isDigit && c < '6' then
        let hours : Int := Number.digitsValue [a, b]
        let minutes : Int := Number.digitsValue [c, d]
        let seconds := hours * 3600 + minutes * 60
        some (if sign = '-' then -seconds else seconds, rest)
      else none
    | _ => none

/-- Skips to the end of a comment in which `depth` parentheses are open. -/
def commentEnd? (depth : Nat) : List Char → Option (List Char)
  | [] => none
  | '\\' :: [] => none
  | '\\' :: _ :: rest => commentEnd? depth rest
  | '(' :: rest => commentEnd? (depth + 1) rest
  | ')' :: rest => if depth ≤ 1 then some rest else commentEnd? (depth - 1) rest
  | _ :: rest => commentEnd? depth rest

/-- Skips white space and comments; whether only such text remains. -/
def onlyComments (fuel : Nat) (text : List Char) : Bool :=
  match fuel, text with
  | _, [] => true
  | 0, _ => false
  | fuel + 1, text =>
    match skipBlank text with
    | '(' :: rest =>
      match commentEnd? 1 rest with
      | some rest => onlyComments fuel rest
      | none => false
    | _ => false

def completedYear (digits year : Nat) : Nat :=
  if digits = 2 then if year < 50 then year + 2000 else year + 1900
  else if digits = 3 then year + 1900
  else year

def weekday? (text : List Char) : Option (Option Nat × List Char) :=
  match oneOf? weekdayNames text with
  | some (weekday, rest) => (exactly? ',' rest).map (some weekday, ·)
  | none => some (none, text)

def second? (text : List Char) : Option (Nat × List Char) :=
  match exactly? ':' (skipBlank text) with
  | some rest => number? 2 2 rest
  | none => some (0, text)

def read? (text : List Char) : Option Instant := do
  let (weekday, rest) ← weekday? (skipBlank text)
  let (day, rest) ← number? 1 2 (skipBlank rest)
  let (month, rest) ← shortMonth? (← blank? rest)
  let rest ← blank? rest
  let (year, afterYear) ← wholeNumber? 2 rest
  let year := completedYear (rest.length - afterYear.length) year
  let (hour, rest) ← number? 2 2 (← blank? afterYear)
  let (minute, rest) ← number? 2 2 (skipBlank (← exactly? ':' (skipBlank rest)))
  let (second, rest) ← second? rest
  let (offset, rest) ← zone? (← blank? rest)
  let date ← Date.of? year month day
  if hour < 24 && minute < 60 && second ≤ 60 && isOffset offset
      && weekday.all (· == date.daysSinceSunday) && onlyComments (rest.length + 1) rest then
    let clock := hour * 3600 + minute * 60 + min second 59
    Instant.at? date clock (if second = 60 then 1000 else 0) offset
  else none

end AnalystQuery.Calendar.MailDate
