import AnalystQuery.Http.NameCharacter
import AnalystQuery.Text.Alphanumeric
import AnalystQuery.Text.Composition
import AnalystQuery.Text.Mark
import AnalystQuery.Text.Parts
import AnalystQuery.Text.Punycode

/-! Names of hosts. A name consists of labels with points between them. It is brought to its
plain form, and labels outside ASCII are written in Punycode behind `xn--`. -/

namespace AnalystQuery.Http.DomainName

open Text (inRanges isAlphanumeric isMark)

private def isAscii (c : Char) : Bool := c.toNat < 0x80

def plain? (text : List Char) : Option (List Char) :=
  (text.mapM nameForm?).map fun parts => Text.composed parts.flatten

def isForbidden (c : Char) : Bool :=
  c.toNat ≤ 0x20 || c.toNat = 0x7F || "%#/:<>?@[\\]^|".toList.contains c

def labelsOf (name : List Char) : List (List Char) := Text.parts (· == '.') name

private def isJoiner (c : Char) : Bool := c.toNat = 0x200C || c.toNat = 0x200D

/-- Signs behind which a joiner can stand. -/
private def vowelKillers : List Nat :=
  [0x94D, 0x9CD, 0xA4D, 0xACD, 0xB4D, 0xBCD, 0xC4D, 0xCCD, 0xD4D, 0xDCA, 0x1039]

private def joinersFit (before : Option Char) : List Char → Bool
  | [] => true
  | c :: rest =>
    (!isJoiner c || before.any fun b => vowelKillers.contains b.toNat) &&
      joinersFit (some c) rest

/-- A label outside ASCII begins with no mark and is not written like a label in Punycode. -/
def isSound (label : List Char) : Bool :=
  !label.head?.any isMark && !"xn--".toList.isPrefixOf label && joinersFit none label

/-- A label as it reads. In Punycode it can only hold what is not ASCII and is plain. -/
def readLabel? (label : List Char) : Option (List Char) :=
  match label with
  | 'x' :: 'n' :: '-' :: '-' :: code =>
    if !label.all isAscii then none
    else (Text.Punycode.decode? code).filter fun text =>
      !text.all isAscii && !text.contains '.' && plain? text = some text && isSound text
  | label => if label.all isAscii || isSound label then some label else none

def writeLabel (label : List Char) : List Char :=
  if label.all isAscii then label else "xn--".toList ++ Text.Punycode.encode label

private def rightToLeftAreas : List (Nat × Nat) :=
  [(0x590, 0x8FF), (0xFB1D, 0xFDFF), (0xFE70, 0xFEFF), (0x10800, 0x10FFF), (0x1E800, 0x1EFFF)]

def rightToLeftRanges : List (Nat × Nat) :=
  [(0x5BE, 0x5BE), (0x5C0, 0x5C0), (0x5C3, 0x5C3), (0x5C6, 0x5C6), (0x5D0, 0x5F4),
   (0x608, 0x608), (0x60B, 0x60B), (0x60D, 0x60D), (0x61B, 0x64A), (0x66D, 0x66F),
   (0x671, 0x6D5), (0x6E5, 0x6E6), (0x6EE, 0x6EF), (0x6FA, 0x710), (0x712, 0x72F),
   (0x74D, 0x7A5), (0x7B1, 0x7EA), (0x7F4, 0x7F5), (0x7FA, 0x7FA), (0x7FE, 0x815),
   (0x81A, 0x81A), (0x824, 0x824), (0x828, 0x828), (0x830, 0x858), (0x85E, 0x88F),
   (0x8A0, 0x8C9), (0xFB1D, 0xFB1D), (0xFB1F, 0xFB28), (0xFB2A, 0xFD3D), (0xFD50, 0xFDC7),
   (0xFDF0, 0xFDFC), (0xFE70, 0xFEFC), (0x10800, 0x1091B), (0x10920, 0x10A00),
   (0x10A10, 0x10A35), (0x10A40, 0x10AE4), (0x10AEB, 0x10B35), (0x10B40, 0x10D23),
   (0x10D4A, 0x10D65), (0x10D6F, 0x10D85), (0x10E80, 0x10EA9), (0x10EAD, 0x10F45),
   (0x10F51, 0x10F81), (0x10F86, 0x10FF6), (0x1E800, 0x1E8CF), (0x1E900, 0x1E943),
   (0x1E94B, 0x1EEBB)]

def isRightToLeft (c : Char) : Bool := inRanges rightToLeftRanges c.toNat

private def arabicNumbers : List (Nat × Nat) :=
  [(0x660, 0x669), (0x66B, 0x66C), (0x10D30, 0x10D39), (0x10D40, 0x10D49), (0x10E60, 0x10E7E)]

private def isArabicNumber (c : Char) : Bool := inRanges arabicNumbers c.toNat

private def isEuropeanDigit (c : Char) : Bool := c.isDigit || (0x6F0 ≤ c.toNat && c.toNat ≤ 0x6F9)

private def isLeftToRight (c : Char) : Bool :=
  isAlphanumeric c && !isEuropeanDigit c && !inRanges rightToLeftAreas c.toNat

/-- A label of one direction begins with a letter and has no letters of the other direction. It
ends with a letter or a digit and its marks. From right to left, its digits are of one kind. -/
def hasOneDirection (label : List Char) : Bool :=
  let ending (isEnd : Char → Bool) := (label.reverse.dropWhile isMark).head?.any isEnd
  match label with
  | [] => true
  | first :: _ =>
    if isRightToLeft first then
      !label.any isLeftToRight && !(label.any isArabicNumber && label.any isEuropeanDigit) &&
        ending fun c => isRightToLeft c || isArabicNumber c || isEuropeanDigit c
    else
      isLeftToRight first && !label.any (fun c => isRightToLeft c || isArabicNumber c) &&
        ending fun c => isLeftToRight c || isEuropeanDigit c

/-- A name in ASCII. Where one character is written from right to left, every label must have one
direction. -/
def ascii? (text : List Char) : Option (List Char) := do
  let labels := labelsOf (← plain? text)
  let readings ← labels.mapM readLabel?
  let directed := !(readings.any fun label => label.any fun c =>
    isRightToLeft c || isArabicNumber c) || readings.all hasOneDirection
  let name := ['.'].intercalate (labels.map writeLabel)
  if directed && !name.any isForbidden then some name else none

end AnalystQuery.Http.DomainName
