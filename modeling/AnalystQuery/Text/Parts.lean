/-! Text in parts with signs between them. -/

namespace AnalystQuery.Text

/-- The parts of a text between the signs that divide it, of which there is at least one. -/
def parts (divides : Char → Bool) : List Char → List (List Char)
  | [] => [[]]
  | c :: rest =>
    if divides c then [] :: parts divides rest
    else match parts divides rest with
      | part :: others => (c :: part) :: others
      | [] => [[c]]

end AnalystQuery.Text
