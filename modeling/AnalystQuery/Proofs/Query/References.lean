import AnalystQuery.Proofs.Json.Keys
import AnalystQuery.Query.References

/-! The fields that are found in queries and aggregations, entry by entry and item by item, and
when none of those in an envelope is unknown. -/

namespace AnalystQuery.Query

variable {name : String} {entries : List (String × Json)} {items : List Json}

theorem mem_queryFields_object (position : Position) :
    name ∈ queryFields position (.object entries) ↔ ∃ entry ∈ entries,
      position = .clause ∧ name ∈ clauseFields entry.1 entry.2 ∨
        name ∈ queryFields (position.child entry.1) entry.2 := by
  rw [queryFields]
  induction entries with
  | nil => simp [entryQueryFields]
  | cons entry rest ih =>
    rw [entryQueryFields, List.mem_append, List.mem_append, ih, List.exists_mem_cons_iff]
    by_cases clause : position = .clause <;> simp [clause]

theorem mem_queryFields_array (position : Position) :
    name ∈ queryFields position (.array items) ↔
      ∃ item ∈ items, name ∈ queryFields position item := by
  rw [queryFields]
  induction items with
  | nil => simp [itemQueryFields]
  | cons item rest ih => rw [itemQueryFields, List.mem_append, ih, List.exists_mem_cons_iff]

theorem queryFields_other (value : Json) : name ∉ queryFields .other value := by
  induction value using Json.nested with
  | array items ih =>
    rw [mem_queryFields_array]
    rintro ⟨item, member, found⟩
    exact ih item member found
  | object entries ih =>
    rw [mem_queryFields_object]
    rintro ⟨entry, member, ⟨impossible, -⟩ | found⟩
    · cases impossible
    · exact ih entry member found
  | _ => simp [queryFields]

/-- The fields found at an entry among the aggregations. -/
def memberFields (key : String) (value : Json) : List String :=
  if key = "filter" then queryFields .clause value
  else match key, value with
    | "field", .string field => [field]
    | _, value => aggregationFields value

theorem mem_aggregationFields_object :
    name ∈ aggregationFields (.object entries) ↔
      ∃ entry ∈ entries, name ∈ memberFields entry.1 entry.2 := by
  rw [aggregationFields]
  induction entries with
  | nil => simp [entryAggregationFields]
  | cons entry rest ih =>
    obtain ⟨key, value⟩ := entry
    unfold entryAggregationFields
    change name ∈ memberFields key value ++ entryAggregationFields rest ↔ _
    rw [List.mem_append, ih, List.exists_mem_cons_iff]

/-- Below an object or array, only the key `filter` is read in a way of its own. -/
theorem memberFields_nested {key : String} {value : Json} (other : key ≠ "filter")
    (nested : value.asString? = none) : memberFields key value = aggregationFields value := by
  unfold memberFields
  rw [if_neg other]
  split
  · cases nested
  · rfl

theorem mem_insertSorted (text : String) (texts : List String) :
    name ∈ insertSorted text texts ↔ name = text ∨ name ∈ texts := by
  induction texts with
  | nil => simp [insertSorted]
  | cons other rest ih =>
    rw [insertSorted]
    split
    · exact List.mem_cons
    · split
      · rename_i same
        rw [same, List.mem_cons, ← or_assoc, or_self]
      · rw [List.mem_cons, ih, List.mem_cons, or_left_comm]

theorem mem_distinctSorted (texts : List String) : name ∈ distinctSorted texts ↔ name ∈ texts := by
  have added (sorted : List String) :
      name ∈ texts.foldl (fun sorted text => insertSorted text sorted) sorted ↔
        name ∈ sorted ∨ name ∈ texts := by
    induction texts generalizing sorted with
    | nil => simp
    | cons text rest ih =>
      rw [List.foldl_cons, ih, mem_insertSorted, List.mem_cons, or_comm (a := name = text),
        or_assoc]
  rw [distinctSorted, added]
  simp

/-- Whether a name has an underscore in front, which makes it a name of the engine. -/
def isEngineName (name : String) : Bool := "_".toList.isPrefixOf name.toList

/-- A name of the engine or of a field of the schema. -/
def Known (schema : Schema) (name : String) : Prop :=
  isEngineName name = true ∨ schema.hasField name = true

theorem mem_referencedFields (envelope : Json) :
    name ∈ referencedFields envelope ↔
      name ∈ mentionedFields envelope ∧ isEngineName name = false := by
  rw [referencedFields, mem_distinctSorted, List.mem_filter]
  exact and_congr_right fun _ => iff_of_eq (Bool.not_eq_true' (isEngineName name))

theorem unknownFields_eq_nil_iff (envelope : Json) (schema : Schema) :
    unknownFields envelope schema = [] ↔ ∀ name ∈ mentionedFields envelope, Known schema name := by
  rw [unknownFields, List.filter_eq_nil_iff]
  constructor
  · intro allKnown name mentioned
    cases own : isEngineName name with
    | true => exact Or.inl own
    | false =>
      have present := allKnown name ((mem_referencedFields envelope).mpr ⟨mentioned, own⟩)
      exact Or.inr (by simpa using present)
  · intro allKnown name referenced
    obtain ⟨mentioned, foreign⟩ := (mem_referencedFields envelope).mp referenced
    rcases allKnown name mentioned with own | present
    · exact absurd own (Bool.eq_false_iff.mp foreign)
    · simp [present]

end AnalystQuery.Query
