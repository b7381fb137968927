import AnalystQuery.Json.Reader
import AnalystQuery.Text.Blank
import AnalystQuery.Text.Bytes

/-! Finding a JSON object in the text of a language model, which usually stands within prose. A
candidate is a span from an opening brace to the brace that closes it, where braces inside
string literals do not count. -/

namespace AnalystQuery.Intent

/-- Where a scan stands: how many braces are open, and whether it is inside a string and just
behind a backslash there. -/
inductive ScanState where
  | code
  | string
  | escape
  deriving DecidableEq, Repr

/-- Splits the text behind an opening brace after the brace that closes it. `depth` more braces
are open; nothing is found when one of them stays open. -/
def closeObject? (depth : Nat) (state : ScanState) : List Char → Option (List Char × List Char)
  | [] => none
  | c :: rest =>
    let follow (depth : Nat) (state : ScanState) :=
      (closeObject? depth state rest).map fun (span, after) => (c :: span, after)
    match state with
    | .escape => follow depth .string
    | .string =>
      if c = '\\' then follow depth .escape
      else if c = '"' then follow depth .code
      else follow depth .string
    | .code =>
      if c = '"' then follow depth .string
      else if c = '\x7b' then follow (depth + 1) .code
      else if c = '\x7d' then
        match depth with
        | 0 => some ([c], rest)
        | depth + 1 => follow depth .code
      else follow depth .code

def fromOpening (text : List Char) : List Char := text.dropWhile (· != '\x7b')

def balancedObject? (text : List Char) : Option (List Char) :=
  match fromOpening text with
  | [] => none
  | brace :: rest => (closeObject? 0 .code rest).map fun (span, _) => brace :: span

/-- The first balanced object at or after a position in bytes. -/
def extractObject? (text : String) (start : Nat) : Option String := do
  let rest ← Text.dropBytes start text.toList
  let span ← balancedObject? rest
  pure (String.ofList span)

inductive ReadFailure where
  | emptyText
  | noObject
  | unbalanced
  | notObject
  | invalidJson
  deriving DecidableEq, Repr

def ReadFailure.reason : ReadFailure → String
  | .emptyText => "empty reasoning output"
  | .noObject => "no JSON object found"
  | .unbalanced => "unbalanced JSON object"
  | .notObject => "JSON candidate is not an object"
  | .invalidJson => "invalid JSON"

def candidateLimit : Nat := 16

/-- Tries candidates one after the other, each from the first opening brace after the one
before; `failure` is what the last one failed with. -/
def firstObject (tries : Nat) (failure : ReadFailure) (text : List Char) :
    Except ReadFailure (List (String × Json)) :=
  match tries with
  | 0 => .error failure
  | tries + 1 =>
    match balancedObject? text with
    | none => .error failure
    | some span =>
      match Json.read? (String.ofList span) with
      | some (.object entries) => .ok entries
      | some _ => firstObject tries .notObject ((fromOpening text).drop 1)
      | none => firstObject tries .invalidJson ((fromOpening text).drop 1)

def readObject (text : String) : Except ReadFailure (List (String × Json)) :=
  let characters := text.toList
  if (Text.trimmed characters).isEmpty then .error .emptyText
  else if !characters.contains '\x7b' then .error .noObject
  else firstObject candidateLimit .unbalanced characters

end AnalystQuery.Intent
