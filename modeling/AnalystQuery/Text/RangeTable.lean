/-! Closed ranges of code points, the shape in which every character property of this
library is stored. -/

namespace AnalystQuery.Text

/-- Whether a code point lies in one of the closed ranges. -/
def inRanges (ranges : List (Nat × Nat)) (code : Nat) : Bool :=
  ranges.any fun range => range.1 ≤ code && code ≤ range.2

end AnalystQuery.Text
