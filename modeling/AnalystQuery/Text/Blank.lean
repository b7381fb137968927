import AnalystQuery.Text.RangeTable

/-! White space (property White_Space, 25 characters) and what is built on it: trimming,
splitting into words, joining them with single spaces, and cutting text to a length. -/

namespace AnalystQuery.Text

def blankRanges : List (Nat × Nat) :=
  [(0x09, 0x0D), (0x20, 0x20), (0x85, 0x85), (0xA0, 0xA0), (0x1680, 0x1680), (0x2000, 0x200A),
   (0x2028, 0x2029), (0x202F, 0x202F), (0x205F, 0x205F), (0x3000, 0x3000)]

def isBlank (c : Char) : Bool := inRanges blankRanges c.toNat

def trimEnd (text : List Char) : List Char :=
  (text.reverse.dropWhile isBlank).reverse

def trimmed (text : List Char) : List Char :=
  trimEnd (text.dropWhile isBlank)

def trim (text : String) : String :=
  String.ofList (trimmed text.toList)

/-- The maximal runs of characters that are not white space, in order. -/
def wordsOf : List Char → List (List Char)
  | [] => []
  | [c] => if isBlank c then [] else [[c]]
  | c :: next :: rest =>
    if isBlank c then wordsOf (next :: rest)
    else if isBlank next then [c] :: wordsOf (next :: rest)
    else match wordsOf (next :: rest) with
      | word :: words => (c :: word) :: words
      | [] => [[c]]

/-- Collapses runs of white space into single spaces and drops them at the ends. -/
def squash (text : String) : String :=
  String.ofList (List.intercalate [' '] (wordsOf text.toList))

/-- Trims text and shortens it to at most `limit` characters. Text that is cut ends in an
ellipsis, which takes the place of the last character kept; a limit of zero keeps nothing. -/
def clamp (text : String) (limit : Nat) : String :=
  let kept := trimmed text.toList
  if kept.length ≤ limit then String.ofList kept
  else if limit = 0 then ""
  else String.ofList (trimEnd (kept.take (limit - 1)) ++ ['…'])

end AnalystQuery.Text
