import AnalystQuery.Proofs.Json.Entries

/-! Looking up a key: what is found stands among the entries, and sorting entries whose keys are
distinct changes nothing that is found. -/

namespace AnalystQuery.Json

variable {key : String} {value : Json} {entries : List (String × Json)}

theorem mem_of_lookup (found : lookup key entries = some value) : (key, value) ∈ entries := by
  obtain ⟨entry, foundEntry, rfl⟩ := Option.map_eq_some_iff.mp found
  have same := List.find?_some foundEntry
  rw [beq_iff_eq] at same
  exact same ▸ List.mem_of_find?_eq_some foundEntry

theorem lookup_eq_some_iff (distinct : (entries.map Prod.fst).Nodup) :
    lookup key entries = some value ↔ (key, value) ∈ entries := by
  refine ⟨mem_of_lookup, ?_⟩
  intro member
  induction entries with
  | nil => cases member
  | cons entry rest ih =>
    obtain ⟨fresh, distinctRest⟩ := List.nodup_cons.mp distinct
    rcases List.mem_cons.mp member with rfl | later
    · simp [lookup]
    · have other : entry.1 ≠ key := fun same => fresh (same ▸ List.mem_map_of_mem later)
      have found := ih distinctRest later
      simpa [lookup, other] using found

theorem lookup_sortEntries (distinct : (entries.map Prod.fst).Nodup) (key : String) :
    lookup key (sortEntries entries) = lookup key entries := by
  have permuted := sortEntries_perm_iff.mpr distinct
  have distinctSorted := (sortedByKey_sortEntries entries).nodup_keys
  refine Option.ext fun value => ?_
  rw [lookup_eq_some_iff distinctSorted, lookup_eq_some_iff distinct, permuted.mem_iff]

@[simp] theorem lookup_nil (key : String) : lookup key [] = none := rfl

@[simp] theorem lookup_cons (key name : String) (value : Json) (rest : List (String × Json)) :
    lookup key ((name, value) :: rest) = if name = key then some value else lookup key rest := by
  by_cases same : name = key <;> simp [lookup, same]

@[simp] theorem lookup_append (key : String) (first second : List (String × Json)) :
    lookup key (first ++ second) = (lookup key first).or (lookup key second) := by
  simp [lookup, List.find?_append, Option.map_or]

@[simp] theorem lookup_optionalEntry {α : Type} (key name : String) (encode : α → Json)
    (value : Option α) :
    lookup key (optionalEntry name encode value) =
      if name = key then value.map encode else none := by
  cases value <;> simp [optionalEntry]

end AnalystQuery.Json
