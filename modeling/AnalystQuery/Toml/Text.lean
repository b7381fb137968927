import AnalystQuery.Number.Reading
import AnalystQuery.Text.Hexadecimal

/-! The strings, keys and blanks of TOML text. Each reader takes the characters that remain and
returns what it read with the rest. -/

namespace AnalystQuery.Toml

def isSpace (c : Char) : Bool := c == ' ' || c == '\t'

def skipSpaces (text : List Char) : List Char := text.dropWhile isSpace

def isPlain (c : Char) : Bool := c == '\t' || (0x20 ≤ c.toNat && c.toNat != 0x7F)

/-- Drops a line end, if the text begins with one. -/
def lineEnd? : List Char → Option (List Char)
  | '\n' :: rest => some rest
  | '\r' :: '\n' :: rest => some rest
  | _ => none

def skipComment : List Char → List Char
  | '#' :: rest => rest.dropWhile isPlain
  | text => text

def skipLines (fuel : Nat) (text : List Char) : List Char :=
  match fuel with
  | 0 => text
  | fuel + 1 =>
    let rest := skipComment (skipSpaces text)
    match lineEnd? rest with
    | some rest => skipLines fuel rest
    | none => skipSpaces text

private def scalarOfHex? (digits : List Char) : Option Char := do
  let value ← digits.foldlM (fun value c => (Text.hexValue? c).map (16 * value + ·)) 0
  if value.isValidChar then some (Char.ofNat value) else none

def readEscape? : List Char → Option (Char × List Char)
  | 'b' :: rest => some ('\x08', rest)
  | 't' :: rest => some ('\t', rest)
  | 'n' :: rest => some ('\n', rest)
  | 'f' :: rest => some ('\x0c', rest)
  | 'r' :: rest => some ('\r', rest)
  | '"' :: rest => some ('"', rest)
  | '\\' :: rest => some ('\\', rest)
  | 'u' :: rest =>
    if rest.length < 4 then none else (scalarOfHex? (rest.take 4)).map (·, rest.drop 4)
  | 'U' :: rest =>
    if rest.length < 8 then none else (scalarOfHex? (rest.take 8)).map (·, rest.drop 8)
  | _ => none

def readBasic? (fuel : Nat) (text : List Char) : Option (List Char × List Char) :=
  match fuel, text with
  | 0, _ => none
  | _, [] => none
  | _ + 1, '"' :: rest => some ([], rest)
  | fuel + 1, '\\' :: rest => do
    let (c, rest) ← readEscape? rest
    let (more, rest) ← readBasic? fuel rest
    pure (c :: more, rest)
  | fuel + 1, c :: rest =>
    if isPlain c then do
      let (more, rest) ← readBasic? fuel rest
      pure (c :: more, rest)
    else none

def readLiteral? : List Char → Option (List Char × List Char)
  | [] => none
  | '\'' :: rest => some ([], rest)
  | c :: rest =>
    if isPlain c then do
      let (more, rest) ← readLiteral? rest
      pure (c :: more, rest)
    else none

private def dropBlankLines : List Char → List Char
  | '\r' :: '\n' :: rest => dropBlankLines rest
  | c :: rest => if isSpace c || c == '\n' then dropBlankLines rest else c :: rest
  | [] => []

/-- Drops the blanks that a backslash at the end of a line joins; nothing if the line goes on. -/
private def joinedLines? (text : List Char) : Option (List Char) :=
  (lineEnd? (skipSpaces text)).map dropBlankLines

/-- Reads a string over several lines behind its opening quotes. The string ends at three quotes;
up to two more before them belong to it. Basic strings have escapes, literal ones do not. -/
def readLines? (quote : Char) (fuel : Nat) (text : List Char) :
    Option (List Char × List Char) :=
  match fuel with
  | 0 => none
  | fuel + 1 =>
    let quotes := (text.takeWhile (· == quote)).length
    if 3 ≤ quotes then
      let own := min (quotes - 3) 2
      some (List.replicate own quote, text.drop (own + 3))
    else
      match lineEnd? text with
      | some rest => do
        let (more, rest) ← readLines? quote fuel rest
        pure ('\n' :: more, rest)
      | none =>
        match text with
        | [] => none
        | c :: rest =>
          if c = '\\' && quote = '"' then
            match joinedLines? rest with
            | some rest => readLines? quote fuel rest
            | none => do
              let (c, rest) ← readEscape? rest
              let (more, rest) ← readLines? quote fuel rest
              pure (c :: more, rest)
          else if isPlain c then do
            let (more, rest) ← readLines? quote fuel rest
            pure (c :: more, rest)
          else none

def readString? (text : List Char) : Option (String × List Char) := do
  let (characters, rest) ← match text with
    | '"' :: '"' :: '"' :: rest =>
      readLines? '"' (rest.length + 1) ((lineEnd? rest).getD rest)
    | '\'' :: '\'' :: '\'' :: rest =>
      readLines? '\'' (rest.length + 1) ((lineEnd? rest).getD rest)
    | '"' :: rest => readBasic? (rest.length + 1) rest
    | '\'' :: rest => readLiteral? rest
    | _ => none
  pure (String.ofList characters, rest)

def isBareKey (c : Char) : Bool := c.isAlphanum || c == '_' || c == '-'

def readKeyPart? (text : List Char) : Option (String × List Char) := do
  match text with
  | '"' :: rest =>
    let (characters, rest) ← readBasic? (rest.length + 1) rest
    pure (String.ofList characters, rest)
  | '\'' :: rest =>
    let (characters, rest) ← readLiteral? rest
    pure (String.ofList characters, rest)
  | text =>
    let bare := text.takeWhile isBareKey
    if bare.isEmpty then none else pure (String.ofList bare, text.dropWhile isBareKey)

/-- How deep values may nest, and one more than a key may have parts. -/
def nestingLimit : Nat := 80

/-- Reads the parts of a key, set apart by points, with the spaces around them. -/
def readKeyParts? (fuel : Nat) (text : List Char) : Option (List String × List Char) := do
  match fuel with
  | 0 => none
  | fuel + 1 =>
    let (part, rest) ← readKeyPart? (skipSpaces text)
    match skipSpaces rest with
    | '.' :: rest =>
      let (parts, rest) ← readKeyParts? fuel rest
      pure (part :: parts, rest)
    | rest => pure ([part], rest)

def readKey? (text : List Char) : Option (List String × List Char) :=
  readKeyParts? (nestingLimit - 1) text

end AnalystQuery.Toml
