import AnalystQuery.Json.Basic
import Mathlib.Data.List.Basic

/-! The keys that occur in a JSON value, at any depth: those of its objects and of all objects
within arrays and under keys. -/

namespace AnalystQuery.Json

/-- Induction over the items of arrays and the values of objects. -/
@[elab_as_elim]
theorem nested {motive : Json → Prop} (null : motive .null)
    (bool : ∀ value, motive (.bool value)) (integer : ∀ value, motive (.integer value))
    (float : ∀ value, motive (.float value)) (string : ∀ value, motive (.string value))
    (array : ∀ items, (∀ item ∈ items, motive item) → motive (.array items))
    (object : ∀ entries, (∀ entry ∈ entries, motive entry.2) → motive (.object entries))
    (value : Json) : motive value := by
  refine @Json.rec motive (fun items => ∀ item ∈ items, motive item)
    (fun entries => ∀ entry ∈ entries, motive entry.2) (fun entry => motive entry.2)
    null bool integer float string array object ?_ ?_ ?_ ?_ ?_ value
  · intro item member
    exact absurd member List.not_mem_nil
  · intro item rest first others
    exact List.forall_mem_cons.mpr ⟨first, others⟩
  · intro entry member
    exact absurd member List.not_mem_nil
  · intro entry rest first others
    exact List.forall_mem_cons.mpr ⟨first, others⟩
  · intro key value holds
    exact holds

mutual
/-- The keys of a value at any depth, each as often as it occurs. -/
def allKeys : Json → List String
  | .object entries => entryKeys entries
  | .array items => itemKeys items
  | _ => []

def entryKeys : List (String × Json) → List String
  | [] => []
  | (key, value) :: rest => key :: (allKeys value ++ entryKeys rest)

def itemKeys : List Json → List String
  | [] => []
  | item :: rest => allKeys item ++ itemKeys rest
end

theorem mem_entryKeys (key : String) (entries : List (String × Json)) :
    key ∈ entryKeys entries ↔ ∃ entry ∈ entries, key = entry.1 ∨ key ∈ entry.2.allKeys := by
  induction entries with
  | nil => simp [entryKeys]
  | cons entry rest ih => simp [entryKeys, ih, or_assoc]

theorem mem_itemKeys (key : String) (items : List Json) :
    key ∈ itemKeys items ↔ ∃ item ∈ items, key ∈ item.allKeys := by
  induction items with
  | nil => simp [itemKeys]
  | cons item rest ih => simp [itemKeys, ih]

@[simp] theorem mem_allKeys_object (key : String) (entries : List (String × Json)) :
    key ∈ (object entries).allKeys ↔ ∃ entry ∈ entries, key = entry.1 ∨ key ∈ entry.2.allKeys := by
  rw [allKeys]
  exact mem_entryKeys key entries

@[simp] theorem mem_allKeys_array (key : String) (items : List Json) :
    key ∈ (array items).allKeys ↔ ∃ item ∈ items, key ∈ item.allKeys := by
  rw [allKeys]
  exact mem_itemKeys key items

/-- All keys of a value, at any depth, are allowed. -/
def KeysIn (allowed : String → Prop) (value : Json) : Prop := ∀ key ∈ value.allKeys, allowed key

instance (allowed : String → Prop) [DecidablePred allowed] (value : Json) :
    Decidable (KeysIn allowed value) :=
  inferInstanceAs (Decidable (∀ key ∈ value.allKeys, allowed key))

variable {allowed : String → Prop}

@[simp] theorem keysIn_object (entries : List (String × Json)) :
    KeysIn allowed (object entries) ↔
      ∀ entry ∈ entries, allowed entry.1 ∧ KeysIn allowed entry.2 := by
  constructor
  · intro inside entry member
    refine ⟨inside entry.1 ?_, fun key below => inside key ?_⟩
    · exact (mem_allKeys_object _ _).mpr ⟨entry, member, Or.inl rfl⟩
    · exact (mem_allKeys_object _ _).mpr ⟨entry, member, Or.inr below⟩
  · intro inside key found
    obtain ⟨entry, member, rfl | below⟩ := (mem_allKeys_object _ _).mp found
    · exact (inside entry member).1
    · exact (inside entry member).2 key below

theorem keysIn_nil : KeysIn allowed (object []) := (keysIn_object []).mpr (List.forall_mem_nil _)

theorem keysIn_cons (key : String) (value : Json) (rest : List (String × Json)) :
    KeysIn allowed (object ((key, value) :: rest)) ↔
      (allowed key ∧ KeysIn allowed value) ∧ KeysIn allowed (object rest) := by
  rw [keysIn_object, keysIn_object, List.forall_mem_cons]

@[simp] theorem keysIn_array (items : List Json) :
    KeysIn allowed (array items) ↔ ∀ item ∈ items, KeysIn allowed item := by
  constructor
  · intro inside item member key below
    exact inside key ((mem_allKeys_array _ _).mpr ⟨item, member, below⟩)
  · intro inside key found
    obtain ⟨item, member, below⟩ := (mem_allKeys_array _ _).mp found
    exact inside item member key below

theorem keysIn_of_atom {value : Json} (noObject : value.asObject? = none)
    (noArray : value.asArray? = none) : KeysIn allowed value := by
  intro key found
  cases value with
  | object | array => contradiction
  | null | bool | integer | float | string => exact absurd found (by simp [allKeys])

@[simp] theorem keysIn_string (text : String) : KeysIn allowed (string text) :=
  keysIn_of_atom rfl rfl

@[simp] theorem keysIn_integer (value : Int) : KeysIn allowed (integer value) :=
  keysIn_of_atom rfl rfl

@[simp] theorem keysIn_natural (value : Nat) : KeysIn allowed (natural value) :=
  keysIn_of_atom rfl rfl

@[simp] theorem keysIn_bool (value : Bool) : KeysIn allowed (bool value) :=
  keysIn_of_atom rfl rfl

@[simp] theorem keysIn_strings (texts : List String) : KeysIn allowed (strings texts) := by
  rw [strings, keysIn_array]
  intro item member
  obtain ⟨text, -, rfl⟩ := List.mem_map.mp member
  exact keysIn_string text

end AnalystQuery.Json
