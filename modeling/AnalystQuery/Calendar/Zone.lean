import AnalystQuery.Calendar.Instant
import AnalystQuery.Calendar.Scan
import AnalystQuery.Text.LetterCase
import AnalystQuery.Text.DecimalDigit

/-! Time zones of requests: `UTC`, `Z`, or a fixed offset such as `+05:30`. Whatever is none of
these means universal time. -/

namespace AnalystQuery.Calendar

open Text (isDecimalDigit)

def asciiValue? (digits : List Char) : Option Nat :=
  if digits.all Char.isDigit then some (Number.digitsValue digits) else none

/-- Splits the digits after a sign into hours and minutes: one or two digits of hours, and then
possibly two digits of minutes with or without a colon. Two digits are taken for the hours
where that leaves nothing over. -/
def hoursAndMinutes? (text : List Char) : Option (List Char × List Char) :=
  match text with
  | [a] => if isDecimalDigit a then some ([a], []) else none
  | [a, b] => if isDecimalDigit a && isDecimalDigit b then some ([a, b], []) else none
  | [a, b, c] => if [a, b, c].all isDecimalDigit then some ([a], [b, c]) else none
  | [a, ':', b, c] => if [a, b, c].all isDecimalDigit then some ([a], [b, c]) else none
  | [a, b, c, d] => if [a, b, c, d].all isDecimalDigit then some ([a, b], [c, d]) else none
  | [a, b, ':', c, d] => if [a, b, c, d].all isDecimalDigit then some ([a, b], [c, d]) else none
  | _ => none

def withoutZoneName (text : List Char) : List Char :=
  if ["UTC".toList, "GMT".toList].contains (text.take 3) then text.drop 3 else text

def clockValues? (text : List Char) : Option (Nat × Nat) := do
  let (hours, minutes) ← hoursAndMinutes? text
  return (← asciiValue? hours, ← asciiValue? minutes)

def offsetParts? (text : List Char) : Option (Int × Nat × Nat) :=
  match withoutZoneName text with
  | '+' :: clock => (clockValues? clock).map (1, ·)
  | '-' :: clock => (clockValues? clock).map (-1, ·)
  | _ => none

/-- A fixed offset in seconds; nothing when the text is none or a whole day or more. -/
def fixedOffset? (text : List Char) : Option Int := do
  let (sign, hours, minutes) ← offsetParts? text
  let seconds : Int := sign * (hours * 3600 + minutes * 60 : Nat)
  if isOffset seconds then some seconds else none

def zoneOffset (zone : String) : Int := (fixedOffset? (Text.trimmed zone.toList)).getD 0

theorem isOffset_of_fixedOffset? {text : List Char} {seconds : Int}
    (read : fixedOffset? text = some seconds) : isOffset seconds = true := by
  obtain ⟨parts, -, read⟩ := Option.bind_eq_some_iff.mp read
  obtain ⟨offset, value⟩ := Option.ite_none_right_eq_some.mp read
  exact Option.some.inj value ▸ offset

theorem isOffset_zoneOffset (timezone : Option String) :
    isOffset (timezone.elim 0 zoneOffset) = true := by
  cases timezone with
  | none => rfl
  | some zone =>
    rw [Option.elim_some, zoneOffset]
    cases read : fixedOffset? (Text.trimmed zone.toList) with
    | none => rfl
    | some seconds => exact isOffset_of_fixedOffset? read

/-- An instant in the time zone of a request; without one universal time is meant. -/
def Instant.inZone (instant : Instant) (timezone : Option String) : Instant :=
  instant.withOffset (isOffset_zoneOffset timezone)

end AnalystQuery.Calendar
