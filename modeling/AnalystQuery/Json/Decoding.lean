import AnalystQuery.Json.Reader

/-! Decoding typed values from JSON text. A record is written as an object, whose unknown keys
are skipped and whose known keys may not repeat, or as an array of its fields in order. -/

namespace AnalystQuery.Json.Raw

abbrev Fields := List (String × Raw)

/-- The entries with one of the names, behind those already found. A name that repeats is refused. -/
def knownFields (names : List String) :
    List (Option String × Raw) → Fields → Option Fields
  | [], found => some found
  | (none, _) :: _, _ => none
  | (some key, item) :: rest, found =>
    if names.contains key then
      if found.any (·.1 == key) then none else knownFields names rest (found ++ [(key, item)])
    else knownFields names rest found

def fields? (names : List String) : Raw → Option Fields
  | object entries => knownFields names entries []
  | array items => if items.length ≤ names.length then some (names.zip items) else none
  | _ => none

namespace Fields

def find? (fields : Fields) (name : String) : Option Raw :=
  (List.find? (fun entry => entry.1 == name) fields).map (·.2)

def required {α : Type} (fields : Fields) (name : String) (decode : Raw → Option α) : Option α :=
  (fields.find? name).bind decode

def optional {α : Type} (fields : Fields) (name : String) (default : α)
    (decode : Raw → Option α) : Option α :=
  match fields.find? name with
  | some raw => decode raw
  | none => some default

end Fields

def string? : Raw → Option String
  | string text => text
  | _ => none

def bool? : Raw → Option Bool
  | bool value => some value
  | _ => none

/-- A natural below a limit, written as an integer. -/
def natural? (limit : Nat) (raw : Raw) : Option Nat :=
  match raw with
  | number literal =>
    match literal.value? with
    | some (.integer value) =>
      if 0 ≤ value && value.toNat < limit then some value.toNat else none
    | _ => none
  | _ => none

def size? : Raw → Option Nat := natural? (Nat.pow 2 64)

/-- A 64-bit float; an integer is taken to the nearest one. -/
def double? : Raw → Option Number.Double
  | number literal => literal.value?.bind Json.asDouble?
  | float value => some value
  | _ => none

def single? : Raw → Option Number.Single
  | number literal =>
    match literal.value? with
    | some (.integer value) => some (Number.Binary.ofInt value)
    | some (.float value) => some value.convert
    | _ => none
  | float value => some value.convert
  | _ => none

def nullable? {α : Type} (decode : Raw → Option α) : Raw → Option (Option α)
  | null => some none
  | raw => (decode raw).map some

def list? {α : Type} (decode : Raw → Option α) : Raw → Option (List α)
  | array items => items.mapM decode
  | _ => none

def entries? : Raw → Option (List (String × Json))
  | object entries => (entryValues? entries).map sortEntries
  | _ => none

/-- The name of a case: a text, or an object with that one key and a null. -/
def caseName? : Raw → Option String
  | string text => text
  | object [(some key, null)] => some key
  | _ => none

end AnalystQuery.Json.Raw
