import AnalystQuery.Text.LetterCase

/-! Keys that may stand nowhere in a query, because they run code or change documents. -/

namespace AnalystQuery.Query

def forbiddenKeys : List String := ["script", "_script", "update", "delete", "_update"]

/-- Whether a key is forbidden, whatever the case of its ASCII letters. -/
def isForbiddenKey (key : String) : Bool :=
  forbiddenKeys.any (Text.sameIgnoringAsciiCase · key)

end AnalystQuery.Query
