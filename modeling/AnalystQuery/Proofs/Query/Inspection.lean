import AnalystQuery.Proofs.Json.Keys
import AnalystQuery.Query.Generated
import AnalystQuery.Query.Inspection

/-! What an envelope without violations holds: only allowed keys at the top, and forbidden keys
nowhere, also not in any part that is taken out of it. -/

namespace AnalystQuery.Query

open Json (KeysIn)

def Permitted (key : String) : Prop := isForbiddenKey key = false

instance : DecidablePred Permitted := fun key =>
  inferInstanceAs (Decidable (isForbiddenKey key = false))

def Harmless (found : List Finding) : Prop := found.filterMap Finding.violation? = []

theorem harmless_append (first second : List Finding) :
    Harmless (first ++ second) ↔ Harmless first ∧ Harmless second := by
  rw [Harmless, List.filterMap_append, List.append_eq_nil_iff]
  rfl

theorem harmless_keyFindings (key path : String) (position : Position) :
    Harmless (keyFindings key path position) ↔ Permitted key := by
  rw [keyFindings, Permitted]
  by_cases forbidden : isForbiddenKey key = true
  · rw [if_pos forbidden]
    simp [Harmless, Finding.violation?, forbidden]
  · rw [if_neg forbidden]
    refine iff_of_true ?_ (Bool.eq_false_iff.mpr forbidden)
    split <;> rfl

theorem harmless_findings (path : String) (position : Position) (value : Json) :
    Harmless (findings path position value) ↔ KeysIn Permitted value := by
  induction value using Json.nested generalizing path position with
  | object entries ih =>
    rw [findings, Json.keysIn_object]
    induction entries with
    | nil => exact iff_of_true rfl (List.forall_mem_nil _)
    | cons entry rest inner =>
      have later := inner fun other member => ih other (List.mem_cons_of_mem entry member)
      rw [entryFindings, harmless_append, harmless_append, harmless_keyFindings,
        ih entry List.mem_cons_self, later, List.forall_mem_cons]
  | array items ih =>
    rw [findings, Json.keysIn_array]
    -- Items are numbered, so the index of the first one has to vary.
    suffices numbered : ∀ index, Harmless (itemFindings path position index items) ↔
        ∀ item ∈ items, KeysIn Permitted item from numbered 0
    induction items with
    | nil => exact fun index => iff_of_true rfl (List.forall_mem_nil _)
    | cons item rest inner =>
      intro index
      have later := inner (fun other member => ih other (List.mem_cons_of_mem item member))
        (index + 1)
      rw [itemFindings, harmless_append, ih item List.mem_cons_self, later, List.forall_mem_cons]
  | null | bool | integer | float | string =>
    exact iff_of_true rfl (Json.keysIn_of_atom rfl rfl)

theorem harmless_topFindings (allowed : List String) (key : String) (value : Json) :
    Harmless (topFindings allowed key value) ↔
      key ∈ allowed ∧ Permitted key ∧ KeysIn Permitted value := by
  rw [topFindings, harmless_append, harmless_findings, ← and_assoc]
  refine and_congr_left fun _ => ?_
  by_cases listed : key ∈ allowed
  · rw [if_pos (List.contains_iff_mem.mpr listed), harmless_keyFindings]
    exact (and_iff_right listed).symm
  · rw [if_neg (mt List.contains_iff_mem.mp listed)]
    refine iff_of_false ?_ fun both => listed both.1
    simp [Harmless, Finding.violation?]

/-- An envelope without violations is an object with allowed keys at the top and without any
forbidden key. -/
theorem violations_eq_nil_iff (allowed : List String) (envelope : Json) :
    violations allowed envelope = [] ↔
      ∃ entries, envelope = .object entries ∧ (∀ entry ∈ entries, entry.1 ∈ allowed) ∧
        KeysIn Permitted envelope := by
  change Harmless (inspect allowed envelope) ↔ _
  cases envelope with
  | object entries =>
    have each : Harmless (inspect allowed (.object entries)) ↔
        ∀ entry ∈ entries, Harmless (topFindings allowed entry.1 entry.2) := by
      rw [inspect]
      induction entries with
      | nil => exact iff_of_true rfl (List.forall_mem_nil _)
      | cons entry rest ih => rw [List.flatMap_cons, harmless_append, ih, List.forall_mem_cons]
    simp only [each, harmless_topFindings]
    constructor
    · intro inside
      refine ⟨entries, rfl, fun entry member => (inside entry member).1, ?_⟩
      exact (Json.keysIn_object entries).mpr fun entry member => (inside entry member).2
    · rintro ⟨_, ⟨⟩, listed, inside⟩ entry member
      exact ⟨listed entry member, (Json.keysIn_object entries).mp inside entry member⟩
  | null | bool | integer | float | string | array =>
    refine iff_of_false ?_ ?_
    · simp [Harmless, inspect, Finding.violation?]
    · rintro ⟨entries, ⟨⟩, -⟩

end AnalystQuery.Query

namespace AnalystQuery

open Json (KeysIn)

variable {allowed : String → Prop}

theorem Json.KeysIn.get? {value part : Json} {key : String} (inside : KeysIn allowed value)
    (found : value.get? key = some part) : KeysIn allowed part := by
  cases value with
  | object entries =>
    obtain ⟨entry, listed, rfl⟩ := Option.map_eq_some_iff.mp found
    exact ((Json.keysIn_object entries).mp inside entry (List.mem_of_find?_eq_some listed)).2
  | null | bool | integer | float | string | array => cases found

namespace GeneratedQuery

variable {generated : GeneratedQuery} {part : Json}

theorem keysIn_query (inside : KeysIn allowed generated.envelope) :
    KeysIn allowed generated.query := by
  rw [query]
  cases found : generated.envelope.get? "query" with
  | none => exact Json.keysIn_of_atom rfl rfl
  | some part => exact inside.get? found

theorem keysIn_aggregations (inside : KeysIn allowed generated.envelope)
    (found : generated.aggregations? = some part) : KeysIn allowed part := by
  obtain ⟨key, -, taken⟩ := List.mem_filterMap.mp (List.mem_of_find?_eq_some found)
  exact inside.get? taken

theorem keysIn_sort (inside : KeysIn allowed generated.envelope)
    (found : generated.sort? = some part) : KeysIn allowed part := inside.get? found

theorem keysIn_source (inside : KeysIn allowed generated.envelope)
    (found : generated.source? = some part) : KeysIn allowed part := inside.get? found

end GeneratedQuery

end AnalystQuery
