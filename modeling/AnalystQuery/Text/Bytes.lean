/-! Positions in text counted in bytes of its UTF-8 form. -/

namespace AnalystQuery.Text

/-- The text after its first `count` bytes; nothing when that is past the end or inside a
character. -/
def dropBytes : Nat → List Char → Option (List Char)
  | 0, text => some text
  | _ + 1, [] => none
  | count + 1, c :: rest =>
    if c.utf8Size ≤ count + 1 then dropBytes (count + 1 - c.utf8Size) rest else none

end AnalystQuery.Text
