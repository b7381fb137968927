import AnalystQuery.Proofs.Json.Entries

/-! Values whose objects hold each key once, in the order of the keys, at any depth. -/

namespace AnalystQuery.Json

/-- All objects of a value are sorted by key. -/
inductive Ordered : Json → Prop
  | null : Ordered null
  | bool (value : Bool) : Ordered (bool value)
  | integer (value : Int) : Ordered (integer value)
  | float (value : Number.Double) : Ordered (float value)
  | string (value : String) : Ordered (string value)
  | array (items : List Json) (each : ∀ item ∈ items, Ordered item) : Ordered (array items)
  | object (entries : List (String × Json)) (sorted : SortedByKey entries)
      (each : ∀ entry ∈ entries, Ordered entry.2) : Ordered (object entries)

theorem ordered_array (items : List Json) :
    Ordered (array items) ↔ ∀ item ∈ items, Ordered item := by
  constructor
  · intro ordered
    cases ordered with
    | array items each => exact each
  · exact Ordered.array items

theorem ordered_object (entries : List (String × Json)) :
    Ordered (object entries) ↔
      SortedByKey entries ∧ ∀ entry ∈ entries, Ordered entry.2 := by
  constructor
  · intro ordered
    cases ordered with
    | object entries sorted each => exact ⟨sorted, each⟩
  · rintro ⟨sorted, each⟩
    exact .object entries sorted each

end AnalystQuery.Json
