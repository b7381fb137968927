import AnalystQuery.Json.Literal

/-! JSON text as it was written: repeated keys are kept, and a part that has no value is kept
as such, so that a reader which skips the part still accepts the text. A container below the
nesting limit, a number out of range and a string with half a surrogate pair have no value. -/

namespace AnalystQuery.Json

/-- A JSON text as it was written. -/
inductive Raw where
  | null
  | bool (value : Bool)
  | number (literal : Literal)
  | float (value : Number.Double)
  | string (text : Option String)
  | array (items : List Raw)
  | object (entries : List (Option String × Raw))
  | tooDeep
  deriving Repr, Inhabited

namespace Raw

mutual
def value? : Raw → Option Json
  | null => some .null
  | bool value => some (.bool value)
  | number literal => literal.value?
  | float value => some (.float value)
  | string text => text.map .string
  | array items => (values? items).map .array
  | object entries => (entryValues? entries).map .ofEntries
  | tooDeep => none

def values? : List Raw → Option (List Json)
  | [] => some []
  | item :: rest => do
    let value ← item.value?
    let values ← values? rest
    pure (value :: values)

def entryValues? : List (Option String × Raw) → Option (List (String × Json))
  | [] => some []
  | (key, item) :: rest => do
    let key ← key
    let value ← item.value?
    let values ← entryValues? rest
    pure ((key, value) :: values)
end

def ofInteger (value : Int) : Raw :=
  number ⟨value < 0, Number.decimalDigits value.natAbs, none, none⟩

mutual
/-- A value as text that could have been written for it. -/
def ofValue : Json → Raw
  | .null => null
  | .bool value => bool value
  | .integer value => ofInteger value
  | .float value => float value
  | .string value => string (some value)
  | .array items => array (ofValues items)
  | .object entries => object (ofEntryValues entries)

def ofValues : List Json → List Raw
  | [] => []
  | item :: rest => ofValue item :: ofValues rest

def ofEntryValues : List (String × Json) → List (Option String × Raw)
  | [] => []
  | (key, item) :: rest => (some key, ofValue item) :: ofEntryValues rest
end

end Raw

end AnalystQuery.Json
