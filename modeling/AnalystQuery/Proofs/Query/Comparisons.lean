import AnalystQuery.Proofs.Json.Lookup
import AnalystQuery.Proofs.Query.Envelope
import AnalystQuery.Proofs.Query.Standing

/-! The conditions of a compiled query that compare a field with given values: those of the
categories, one for each field that may hold them, and those of filters for equality. A filter on
a text field searches the text instead. -/

namespace AnalystQuery.Query

def comparisonClauses : List String := ["term", "terms"]

/-- Where a comparison of a compiled query comes from. -/
inductive Comparison (schema : Schema) (intent : Intent) : Leaf → Prop where
  | category {category : Category} {values : List String} {primary field : Field}
      {others : List Field} (named : (category, values) ∈ intent.entities.toList)
      (present : presentFields schema category = primary :: others)
      (kept : acceptedValues primary values ≠ []) (candidate : field ∈ primary :: others) :
      Comparison schema intent (oneOfLeaf field (acceptedValues primary values))
  | filter {filter : Filter} {field : Field} {role : Role} (listed : filter ∈ intent.filters)
      (found : schema.field? filter.field = some field)
      (equality : (filter.operator, role) ∈ equalities) (given : filter.value.isNull = false)
      (kept : acceptedValues field (valueTexts filter.value) ≠ []) (whole : field.type ≠ .text) :
      Comparison schema intent
        (equalityLeaf field filter.value (acceptedValues field (valueTexts filter.value)))

theorem get?_single (name key : String) (value : Json) :
    (single name value).get? key = if name = key then some value else none :=
  Json.lookup_cons key name value []

def offered : Json → List Json
  | .array items => items
  | value => [value]

theorem keyword_oneOfLeaf (field : Field) (values : List String) :
    (oneOfLeaf field values).keyword ∈ comparisonClauses := by
  rcases values with _ | ⟨value, _ | ⟨second, others⟩⟩ <;> simp [oneOfLeaf, Leaf.keyword,
    comparisonClauses]

theorem contents_oneOfLeaf (field : Field) (values : List String) :
    ∃ operand, (oneOfLeaf field values).contents = single field.name operand ∧
      offered operand = values.map Json.string := by
  rcases values with _ | ⟨value, _ | ⟨second, others⟩⟩ <;> exact ⟨_, rfl, rfl⟩

theorem equalityLeaf_cases {field : Field} (value : Json) (accepted : List String)
    (whole : field.type ≠ .text) :
    equalityLeaf field value accepted = oneOfLeaf field accepted ∨
      field.type.isNumeric = true ∧
        equalityLeaf field value accepted = .term field.name (typedValue field value) := by
  unfold equalityLeaf
  rw [if_neg whole]
  split
  · split
    · split
      · rename_i numeric
        exact Or.inr ⟨numeric, rfl⟩
      · exact Or.inl rfl
    · exact Or.inl rfl
  · exact Or.inl rfl

theorem contents_equalityLeaf {field : Field} (value : Json) (accepted : List String)
    (whole : field.type ≠ .text) :
    ∃ operand, (equalityLeaf field value accepted).contents = single field.name operand ∧
      (field.type.isNumeric = false → offered operand = accepted.map Json.string) := by
  rcases equalityLeaf_cases value accepted whole with same | ⟨numeric, same⟩
  · obtain ⟨operand, contents, values⟩ := contents_oneOfLeaf field accepted
    exact ⟨operand, same ▸ contents, fun _ => values⟩
  · refine ⟨_, congrArg Leaf.contents same, ?_⟩
    rw [numeric]
    rintro ⟨⟩

theorem keyword_equalityLeaf (field : Field) (value : Json) (accepted : List String) :
    (equalityLeaf field value accepted).keyword = "match" ∧ field.type = .text ∨
      (equalityLeaf field value accepted).keyword ∈ comparisonClauses ∧ field.type ≠ .text := by
  by_cases text : field.type = .text
  · unfold equalityLeaf
    rw [if_pos text]
    exact Or.inl ⟨rfl, text⟩
  · refine Or.inr ⟨?_, text⟩
    rcases equalityLeaf_cases value accepted text with same | ⟨-, same⟩
    · rw [same]
      exact keyword_oneOfLeaf field accepted
    · rw [same]
      exact List.mem_cons_self

theorem keyword_equalityLeaf_iff (field : Field) (value : Json) (accepted : List String) :
    (equalityLeaf field value accepted).keyword ∈ comparisonClauses ↔ field.type ≠ .text := by
  have searched : "match" ∉ comparisonClauses := by decide
  rcases keyword_equalityLeaf field value accepted with ⟨keyword, text⟩ | ⟨keyword, whole⟩
  · rw [keyword]
    exact iff_of_false searched (not_not_intro text)
  · exact iff_of_true keyword whole

theorem Comparison.keyword_mem {schema : Schema} {intent : Intent} {leaf : Leaf}
    (comparison : Comparison schema intent leaf) :
    leaf.keyword ∈ comparisonClauses := by
  cases comparison with
  | category => exact keyword_oneOfLeaf _ _
  | filter listed found equality given kept whole =>
    exact (keyword_equalityLeaf_iff _ _ _).mpr whole

theorem mem_compiled_leaves_iff (sizes : Sizes) (schema : Schema) (intent : Intent) {leaf : Leaf}
    (compares : leaf.keyword ∈ comparisonClauses) :
    (∃ part ∈ compiledClauses sizes schema intent, leaf ∈ part.2.leaves) ↔
      Comparison schema intent leaf := by
  constructor
  · rintro ⟨⟨role, clause⟩, member, made⟩
    rcases (mem_compiledClauses_iff sizes schema intent).mp member with
      ⟨category, values, named, derived⟩ | ⟨filter, listed, field, condition, found, rfl, derived⟩ |
        ⟨range, -, field, -, -, rfl⟩
    · generalize present : presentFields schema category = fields at derived
      cases derived with
      | mentioned =>
        obtain rfl := List.mem_singleton.mp made
        simp [Leaf.keyword, comparisonClauses] at compares
      | single primary kept =>
        obtain rfl := List.mem_singleton.mp made
        exact .category named present kept List.mem_cons_self
      | alternatives primary second others kept =>
        obtain ⟨field, candidate, rfl⟩ := List.mem_map.mp made
        exact .category named present kept candidate
    · obtain rfl := List.mem_singleton.mp made
      obtain ⟨name, operator, value⟩ := filter
      cases derived with
      | compared operator role equality given kept =>
        exact .filter listed found equality given kept
          ((keyword_equalityLeaf_iff _ _ _).mp compares)
      | present | bounded | contained => simp [Leaf.keyword, comparisonClauses] at compares
    · obtain rfl := List.mem_singleton.mp made
      simp [Leaf.keyword, comparisonClauses] at compares
  · intro comparison
    cases comparison with
    | @category category values primary field others named present kept candidate =>
      obtain ⟨clause, derived, made⟩ : ∃ clause,
          EntityClause schema category values (presentFields schema category) .filter clause ∧
            oneOfLeaf field (acceptedValues primary values) ∈ clause.leaves := by
        rw [present]
        cases others with
        | nil =>
          obtain rfl := List.mem_singleton.mp candidate
          exact ⟨_, .single _ kept, List.mem_singleton_self _⟩
        | cons second others =>
          refine ⟨_, .alternatives primary second others kept, ?_⟩
          exact List.mem_map_of_mem (f := fun field =>
            oneOfLeaf field (acceptedValues primary values)) candidate
      exact ⟨_, (mem_compiledClauses_iff sizes schema intent).mpr
        (Or.inl ⟨category, values, named, derived⟩), made⟩
    | @filter filter field role listed found equality given kept whole =>
      have compiled := (mem_compiledClauses_iff sizes schema intent).mpr (Or.inr (Or.inl
        ⟨filter, listed, field, _, found, rfl, .compared filter.operator role equality given kept⟩))
      exact ⟨_, compiled, List.mem_singleton_self _⟩

/-- The comparisons that stand in a compiled query, at whatever depth, are those of its parts. -/
theorem comparison_stands_iff (sizes : Sizes) (index : String) (schema : Schema) (intent : Intent)
    {key : String} {body : Json} (compares : key ∈ comparisonClauses) :
    Stands .clause (compile sizes index schema intent).query .clause key body ↔
      ∃ leaf, Comparison schema intent leaf ∧ key = leaf.keyword ∧ body = leaf.contents := by
  have unframed : ∀ key ∈ comparisonClauses, key ∉ ["match_all", "bool"] := by decide
  rw [query_compile, clause_stands_iff (unframed key compares)]
  constructor
  · rintro ⟨part, given, leaf, made, rfl, rfl⟩
    exact ⟨leaf, (mem_compiled_leaves_iff sizes schema intent compares).mp ⟨part, given, made⟩,
      rfl, rfl⟩
  · rintro ⟨leaf, comparison, rfl, rfl⟩
    obtain ⟨part, given, made⟩ :=
      (mem_compiled_leaves_iff sizes schema intent compares).mpr comparison
    exact ⟨part, given, leaf, made, rfl, rfl⟩

/-- Each field that may hold a category is compared with the values that the first one keeps. -/
theorem category_stands (sizes : Sizes) (index : String) {schema : Schema} {intent : Intent}
    {category : Category} {values : List String} {primary field : Field}
    (named : (category, values) ∈ intent.entities.toList)
    (first : primary ∈ (presentFields schema category).head?)
    (kept : acceptedValues primary values ≠ []) (candidate : field ∈ presentFields schema category) :
    ∃ clause ∈ comparisonClauses, ∃ operand,
      Stands .clause (compile sizes index schema intent).query .clause clause
          (single field.name operand) ∧
        offered operand = (acceptedValues primary values).map Json.string := by
  obtain ⟨others, present⟩ := List.head?_eq_some_iff.mp first
  have comparison : Comparison schema intent _ := .category named present kept (present ▸ candidate)
  obtain ⟨operand, contents, offers⟩ := contents_oneOfLeaf field (acceptedValues primary values)
  refine ⟨_, comparison.keyword_mem, operand, ?_, offers⟩
  exact (comparison_stands_iff sizes index schema intent comparison.keyword_mem).mpr
    ⟨_, comparison, rfl, contents.symm⟩

end AnalystQuery.Query
