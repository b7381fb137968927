import AnalystQuery.Text.Blank
import AnalystQuery.Number.Decimal

/-! Pieces of written dates: numbers of a limited width, names of months and weekdays, and the
white space between them. Each scanner returns what it read with the rest of the text. -/

namespace AnalystQuery.Calendar.Scan

open Text (isBlank)

def skipBlank (text : List Char) : List Char := text.dropWhile isBlank

/-- Skips white space, of which there must be some. -/
def blank? (text : List Char) : Option (List Char) :=
  match text with
  | c :: rest => if isBlank c then some (skipBlank rest) else none
  | [] => none

def exactly? (expected : Char) : List Char → Option (List Char)
  | c :: rest => if c = expected then some rest else none
  | [] => none

def number? (least most : Nat) (text : List Char) : Option (Nat × List Char) :=
  let digits := (text.take most).takeWhile Char.isDigit
  if digits.length < least then none
  else some (Number.digitsValue digits, text.drop digits.length)

def wholeNumber? (least : Nat) (text : List Char) : Option (Nat × List Char) :=
  number? least text.length text

/-- Drops a word from the front, whatever the case of its letters. -/
def word? (word : List Char) (text : List Char) : Option (List Char) :=
  if (text.take word.length).map Char.toLower = word then some (text.drop word.length) else none

def oneOf? (words : List (List Char)) (text : List Char) : Option (Nat × List Char) :=
  words.zipIdx.findSome? fun (word, index) => (word? word text).map (index, ·)

def monthNames : List (List Char) :=
  ["january".toList, "february".toList, "march".toList, "april".toList, "may".toList,
   "june".toList, "july".toList, "august".toList, "september".toList, "october".toList,
   "november".toList, "december".toList]

def weekdayNames : List (List Char) :=
  ["sun".toList, "mon".toList, "tue".toList, "wed".toList, "thu".toList, "fri".toList,
   "sat".toList]

def shortMonth? (text : List Char) : Option (Nat × List Char) :=
  (oneOf? (monthNames.map (·.take 3)) text).map fun (index, rest) => (index + 1, rest)

def month? (text : List Char) : Option (Nat × List Char) := do
  let (month, rest) ← shortMonth? text
  let ending := (monthNames.getD (month - 1) []).drop 3
  pure (month, (word? ending rest).getD rest)

end AnalystQuery.Calendar.Scan
