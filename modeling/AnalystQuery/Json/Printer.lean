import AnalystQuery.Json.Basic
import AnalystQuery.Text.Hexadecimal

/-! Writing JSON values: compact, and indented by two spaces. Quotes, backslashes and control
characters are escaped, everything else stands for itself. -/

namespace AnalystQuery.Json

/-- Where positional notation of a float ends. -/
def lastPositional : Int := 15

def escapeCharacter (c : Char) : List Char :=
  match c with
  | '"' => ['\\', '"']
  | '\\' => ['\\', '\\']
  | '\n' => ['\\', 'n']
  | '\r' => ['\\', 'r']
  | '\t' => ['\\', 't']
  | '\x08' => ['\\', 'b']
  | '\x0c' => ['\\', 'f']
  | c =>
    if c.toNat < 0x20 then '\\' :: 'u' :: '0' :: '0' :: Text.hexDigits c.toNat.toUInt8
    else [c]

def quoted (text : String) : List Char :=
  '"' :: text.toList.flatMap escapeCharacter ++ ['"']

def scalarText : Json → List Char
  | null => "null".toList
  | bool true => "true".toList
  | bool false => "false".toList
  | integer value => (toString value).toList
  | float value => value.render lastPositional
  | string value => quoted value
  | array _ => []
  | object _ => []

mutual
def compactText : Json → List Char
  | array items => '[' :: compactItems items
  | object entries => '\x7b' :: compactEntries entries
  | value => scalarText value

def compactItems : List Json → List Char
  | [] => [']']
  | [item] => compactText item ++ [']']
  | item :: next :: rest => compactText item ++ ',' :: compactItems (next :: rest)

/-- The entries of an object and its closing brace. -/
def compactEntries : List (String × Json) → List Char
  | [] => ['\x7d']
  | [(key, item)] => quoted key ++ ':' :: compactText item ++ ['\x7d']
  | (key, item) :: next :: rest =>
    quoted key ++ ':' :: compactText item ++ ',' :: compactEntries (next :: rest)
end

def compact (value : Json) : String := String.ofList (compactText value)

private def newLine (depth : Nat) : List Char := '\n' :: List.replicate (2 * depth) ' '

mutual
/-- The characters of a value, indented for the depth at which it stands. -/
def indentedText (depth : Nat) : Json → List Char
  | array [] => ['[', ']']
  | array (item :: rest) => '[' :: indentedItems depth (item :: rest)
  | object [] => ['\x7b', '\x7d']
  | object (entry :: rest) => '\x7b' :: indentedEntries depth (entry :: rest)
  | value => scalarText value

def indentedItems (depth : Nat) : List Json → List Char
  | [] => newLine depth ++ [']']
  | item :: rest =>
    newLine (depth + 1) ++ indentedText (depth + 1) item ++
      (if rest.isEmpty then [] else [',']) ++ indentedItems depth rest

def indentedEntries (depth : Nat) : List (String × Json) → List Char
  | [] => newLine depth ++ ['\x7d']
  | (key, item) :: rest =>
    newLine (depth + 1) ++ quoted key ++ ':' :: ' ' :: indentedText (depth + 1) item ++
      (if rest.isEmpty then [] else [',']) ++ indentedEntries depth rest
end

def pretty (value : Json) : String := String.ofList (indentedText 0 value)

end AnalystQuery.Json
