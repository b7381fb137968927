import AnalystQuery.Json.Raw
import AnalystQuery.Text.Hexadecimal

/-! Reading JSON text. Each reader takes the characters that remain and returns what it read
with the rest; `fuel` bounds the steps and is the length of the text in `read?`, since every
step consumes a character. -/

namespace AnalystQuery.Json

def isSpacing (c : Char) : Bool := c == ' ' || c == '\n' || c == '\t' || c == '\r'

def skipSpacing (text : List Char) : List Char := text.dropWhile isSpacing

/-- A character of a string, or a 16-bit unit that was written as an escape. -/
inductive StringPart where
  | char (c : Char)
  | unit (value : Nat)
  deriving Repr, DecidableEq

def escaped? : Char → Option Char
  | '"' => some '"'
  | '\\' => some '\\'
  | '/' => some '/'
  | 'b' => some '\x08'
  | 'f' => some '\x0c'
  | 'n' => some '\n'
  | 'r' => some '\r'
  | 't' => some '\t'
  | _ => none

/-- Reads a string after its opening quote. Control characters must be escaped. -/
def readStringParts : List Char → Option (List StringPart × List Char)
  | [] => none
  | '"' :: rest => some ([], rest)
  | '\\' :: 'u' :: a :: b :: c :: d :: rest => do
    let value ← [a, b, c, d].foldlM (fun value c => (Text.hexValue? c).map (16 * value + ·)) 0
    let (parts, rest) ← readStringParts rest
    pure (.unit value :: parts, rest)
  | '\\' :: letter :: rest => do
    let c ← escaped? letter
    let (parts, rest) ← readStringParts rest
    pure (.char c :: parts, rest)
  | c :: rest =>
    if c = '\\' || c.toNat < 0x20 then none
    else do
      let (parts, rest) ← readStringParts rest
      pure (.char c :: parts, rest)

def isHighUnit (value : Nat) : Bool := 0xD800 ≤ value && value < 0xDC00
def isLowUnit (value : Nat) : Bool := 0xDC00 ≤ value && value < 0xE000

/-- The text of a string; nothing when half a surrogate pair stands alone. -/
def joinParts : List StringPart → Option (List Char)
  | [] => some []
  | .char c :: rest => (joinParts rest).map (c :: ·)
  | .unit high :: .unit low :: rest =>
    if isHighUnit high then
      if isLowUnit low then
        (joinParts rest).map
          (Char.ofNat (0x10000 + (high - 0xD800) * 0x400 + (low - 0xDC00)) :: ·)
      else none
    else if isLowUnit high then none
    else (joinParts (.unit low :: rest)).map (Char.ofNat high :: ·)
  | .unit value :: rest =>
    if isHighUnit value || isLowUnit value then none
    else (joinParts rest).map (Char.ofNat value :: ·)

def readPower (text : List Char) : Option (Option (Bool × List Char) × List Char) :=
  match text with
  | c :: rest =>
    if c = 'e' || c = 'E' then
      let (negative, rest) :=
        match rest with
        | '+' :: rest => (false, rest)
        | '-' :: rest => (true, rest)
        | rest => (false, rest)
      let digits := rest.takeWhile Char.isDigit
      if digits.isEmpty then none else some (some (negative, digits), rest.dropWhile Char.isDigit)
    else some (none, text)
  | [] => some (none, [])

def readFraction (text : List Char) : Option (Option (List Char) × List Char) :=
  match text with
  | '.' :: rest =>
    let digits := rest.takeWhile Char.isDigit
    if digits.isEmpty then none else some (some digits, rest.dropWhile Char.isDigit)
  | _ => some (none, text)

/-- Reads a number literal after its sign. A leading zero stands alone. -/
def readLiteral (negative : Bool) (text : List Char) : Option (Literal × List Char) := do
  let whole := text.takeWhile Char.isDigit
  let rest := text.dropWhile Char.isDigit
  if whole.isEmpty || (whole.head? == some '0' && 1 < whole.length) then none
  else
    let (fraction, rest) ← readFraction rest
    let (power, rest) ← readPower rest
    pure (⟨negative, whole, fraction, power⟩, rest)

def readString (text : List Char) : Option (Option String × List Char) := do
  let (parts, rest) ← readStringParts text
  pure ((joinParts parts).map String.ofList, rest)

mutual
/-- Reads a value; `depth` containers may nest below this point. -/
def readRaw (fuel depth : Nat) (text : List Char) : Option (Raw × List Char) :=
  match fuel with
  | 0 => none
  | fuel + 1 =>
    match skipSpacing text with
    | 'n' :: 'u' :: 'l' :: 'l' :: rest => some (.null, rest)
    | 't' :: 'r' :: 'u' :: 'e' :: rest => some (.bool true, rest)
    | 'f' :: 'a' :: 'l' :: 's' :: 'e' :: rest => some (.bool false, rest)
    | '"' :: rest => do
      let (text, rest) ← readString rest
      pure (.string text, rest)
    | '[' :: rest =>
      match skipSpacing rest with
      | ']' :: rest => some (if depth = 0 then .tooDeep else .array [], rest)
      | rest => do
        let (items, rest) ← readItems fuel (depth - 1) rest
        pure (if depth = 0 then .tooDeep else .array items, rest)
    | '\x7b' :: rest =>
      match skipSpacing rest with
      | '\x7d' :: rest => some (if depth = 0 then .tooDeep else .object [], rest)
      | rest => do
        let (entries, rest) ← readEntries fuel (depth - 1) rest
        pure (if depth = 0 then .tooDeep else .object entries, rest)
    | '-' :: rest => do
      let (literal, rest) ← readLiteral true rest
      pure (.number literal, rest)
    | rest => do
      let (literal, rest) ← readLiteral false rest
      pure (.number literal, rest)

def readItems (fuel depth : Nat) (text : List Char) : Option (List Raw × List Char) :=
  match fuel with
  | 0 => none
  | fuel + 1 => do
    let (item, rest) ← readRaw fuel depth text
    match skipSpacing rest with
    | ']' :: rest => pure ([item], rest)
    | ',' :: rest => do
      let (items, rest) ← readItems fuel depth rest
      pure (item :: items, rest)
    | _ => none

def readEntries (fuel depth : Nat) (text : List Char) :
    Option (List (Option String × Raw) × List Char) :=
  match fuel with
  | 0 => none
  | fuel + 1 =>
    match skipSpacing text with
    | '"' :: rest => do
      let (key, rest) ← readString rest
      match skipSpacing rest with
      | ':' :: rest => do
        let (item, rest) ← readRaw fuel depth rest
        match skipSpacing rest with
        | '\x7d' :: rest => pure ([(key, item)], rest)
        | ',' :: rest => do
          let (entries, rest) ← readEntries fuel depth rest
          pure ((key, item) :: entries, rest)
        | _ => none
      | _ => none
    | _ => none
end

/-- Reads a whole text in which at most `depth` containers nest. -/
def Raw.readWithin? (depth : Nat) (text : String) : Option Raw := do
  let characters := text.toList
  let (raw, rest) ← readRaw (characters.length + 1) depth characters
  if (skipSpacing rest).isEmpty then pure raw else none

def nestingLimit : Nat := 127

def Raw.read? (text : String) : Option Raw := Raw.readWithin? nestingLimit text

/-- The value of a text; nothing when it is no JSON text or nests too deep. -/
def read? (text : String) : Option Json := (Raw.read? text).bind Raw.value?

end AnalystQuery.Json
