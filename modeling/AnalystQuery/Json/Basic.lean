import AnalystQuery.Number.Decimal

/-! JSON values. A number that was written as an integer within `[-2^63, 2^64)` stays an
integer, every other number is a 64-bit float. The entries of an object form a list; values
that are read from text or built by `ofEntries` hold each key once, in byte order of the keys,
while a record that is about to be written keeps the order of its fields. -/

namespace AnalystQuery

open Number (Double Single)

inductive Json where
  | null
  | bool (value : Bool)
  | integer (value : Int)
  | float (value : Double)
  | string (value : String)
  | array (items : List Json)
  | object (entries : List (String × Json))
  deriving Repr, Inhabited

namespace Json

/-- Puts an entry into its place among sorted entries, replacing one with the same key. -/
def insertEntry (key : String) (value : Json) : List (String × Json) → List (String × Json)
  | [] => [(key, value)]
  | (other, held) :: rest =>
    if key < other then (key, value) :: (other, held) :: rest
    else if key = other then (key, value) :: rest
    else (other, held) :: insertEntry key value rest

/-- Sorts entries by key; of entries with one key the last is kept. -/
def sortEntries (entries : List (String × Json)) : List (String × Json) :=
  entries.foldl (fun sorted entry => insertEntry entry.1 entry.2 sorted) []

def ofEntries (entries : List (String × Json)) : Json := object (sortEntries entries)

def lookup (key : String) (entries : List (String × Json)) : Option Json :=
  (entries.find? fun entry => entry.1 == key).map (·.2)

/-- The value of a key; nothing for a value that is no object. -/
def get? (value : Json) (key : String) : Option Json :=
  match value with
  | object entries => lookup key entries
  | _ => none

def asString? : Json → Option String
  | string value => some value
  | _ => none

def asBool? : Json → Option Bool
  | bool value => some value
  | _ => none

def asArray? : Json → Option (List Json)
  | array items => some items
  | _ => none

def asObject? : Json → Option (List (String × Json))
  | object entries => some entries
  | _ => none

def asNatural? : Json → Option Nat
  | integer value => if 0 ≤ value then some value.toNat else none
  | _ => none

def asDouble? : Json → Option Double
  | integer value => some (Number.Binary.ofInt value)
  | float value => some value
  | _ => none

def isNull : Json → Bool
  | null => true
  | _ => false

def natural (value : Nat) : Json := integer value

def ofOption {α : Type} (encode : α → Json) : Option α → Json
  | some value => encode value
  | none => null

/-- The entry of a field that is left out when it has no value. -/
def optionalEntry {α : Type} (name : String) (encode : α → Json) (value : Option α) :
    List (String × Json) :=
  value.toList.map fun value => (name, encode value)

def strings (values : List String) : Json := array (values.map string)

def ofDouble (value : Double) : Json := if value.isFinite then float value else null

/-- A 32-bit float, written with the fewest digits that identify it among 32-bit floats;
null for what is infinite or no number. -/
def ofSingle (value : Single) : Json :=
  if !value.isFinite then null
  else if value.isZero then float ⟨value.negative, 0⟩
  else float (Number.Decimal.nearest value.negative value.shortest)

end Json

end AnalystQuery
