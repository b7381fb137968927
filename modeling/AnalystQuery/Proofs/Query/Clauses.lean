import AnalystQuery.Query.Compilation
import Mathlib.Data.List.Nodup

/-! Where the clauses of a compiled query come from: an inductive relation for each part of an
intent, equivalent to the contribution of that part, and the clauses of the whole query. -/

namespace AnalystQuery

namespace Schema

variable {schema : Schema} {name : String} {field : Field}

theorem hasField_of_mem (member : field ∈ schema.fields) : schema.hasField field.name = true := by
  rw [hasField, field?, List.find?_isSome]
  exact ⟨field, member, beq_self_eq_true field.name⟩

theorem mem_of_field? (found : schema.field? name = some field) : field ∈ schema.fields :=
  List.mem_of_find?_eq_some found

theorem mem_of_timeField? (found : schema.timeField? = some field) : field ∈ schema.fields := by
  rw [timeField?] at found
  split at found
  · rename_i main conventional
    obtain rfl := Option.some.inj found
    obtain ⟨present, -⟩ := Option.filter_eq_some_iff.mp conventional
    obtain ⟨name, -, named⟩ := List.exists_of_findSome?_eq_some present
    exact mem_of_field? named
  · exact List.mem_of_find?_eq_some found

theorem date_of_timeField? (found : schema.timeField? = some field) : field.type = .date := by
  rw [timeField?] at found
  split at found
  · rename_i main conventional
    obtain rfl := Option.some.inj found
    simpa using (Option.filter_eq_some_iff.mp conventional).2
  · simpa using List.find?_some found

theorem field?_of_mem (distinct : (schema.fields.map (·.name)).Nodup)
    (member : field ∈ schema.fields) : schema.field? field.name = some field := by
  have present : (schema.field? field.name).isSome = true := hasField_of_mem member
  obtain ⟨found, same⟩ := Option.isSome_iff_exists.mp present
  have named : found.name = field.name := by simpa using List.find?_some same
  rw [same, List.inj_on_of_nodup_map distinct (mem_of_field? same) member named]

theorem mem_of_mem_textFields (member : field ∈ schema.textFields) : field ∈ schema.fields :=
  (List.mem_filter.mp member).1

end Schema

namespace Query

variable {schema : Schema} {role : Role} {clause : Clause}

def presentFields (schema : Schema) (category : Category) : List Field :=
  (categoryFields category).filterMap schema.field?

def acceptedValues (field : Field) (values : List String) : List String :=
  (acceptValues field values).1

/-- How a clause comes from the values of a category and the fields that may hold them. -/
inductive EntityClause (schema : Schema) (category : Category) (values : List String) :
    List Field → Role → Clause → Prop where
  /-- topics that no field holds are searched for in the text fields -/
  | mentioned (topics : category = .topics) (searched : schema.textFields ≠ []) :
      EntityClause schema category values [] .must
        (.leaf (.mentions (schema.textFields.map (·.name)) (" ".intercalate values)))
  /-- one field holds the category -/
  | single (primary : Field) (kept : acceptedValues primary values ≠ []) :
      EntityClause schema category values [primary] .filter
        (.leaf (oneOfLeaf primary (acceptedValues primary values)))
  /-- several fields hold the category, and the first decides which values are kept -/
  | alternatives (primary second : Field) (others : List Field)
      (kept : acceptedValues primary values ≠ []) :
      EntityClause schema category values (primary :: second :: others) .filter
        (.anyOf ((primary :: second :: others).map fun field =>
          oneOfLeaf field (acceptedValues primary values)))

theorem topicContribution_clause_iff (schema : Schema) (topics : List String) :
    (∃ words, (topicContribution schema topics).clause = some (role, clause, words)) ↔
      schema.textFields ≠ [] ∧ role = .must ∧
        clause = .leaf (.mentions (schema.textFields.map (·.name)) (" ".intercalate topics)) := by
  rw [topicContribution]
  cases schema.textFields with
  | nil => simp [noted]
  | cons first rest => simp [eq_comm]

theorem entityContribution_clause_iff (schema : Schema) (category : Category)
    (values : List String) :
    (∃ words, (entityContribution schema category values).clause = some (role, clause, words)) ↔
      EntityClause schema category values (presentFields schema category) role clause := by
  rw [entityContribution, ← presentFields]
  rcases presentFields schema category with _ | ⟨primary, others⟩
  · by_cases topics : category = .topics
    · simp only [topics, if_true]
      rw [topicContribution_clause_iff]
      constructor
      · rintro ⟨searched, rfl, rfl⟩
        exact .mentioned rfl searched
      · rintro ⟨-, searched⟩
        exact ⟨searched, rfl, rfl⟩
    · simp only [topics, if_false]
      constructor
      · rintro ⟨words, none⟩
        cases none
      · rintro ⟨named⟩
        exact absurd named topics
  · change (∃ words, Contribution.clause (if (acceptedValues primary values).isEmpty then _
      else ⟨some (.filter, _, _), _⟩) = _) ↔ _
    by_cases kept : acceptedValues primary values = []
    · simp only [kept, List.isEmpty_nil, if_true]
      constructor
      · rintro ⟨words, none⟩
        cases none
      · intro derived
        cases derived <;> contradiction
    · have nonempty : (acceptedValues primary values).isEmpty = false := by simpa using kept
      simp only [nonempty]
      constructor
      · rintro ⟨words, same⟩
        cases others with
        | nil => cases same; exact .single primary kept
        | cons second others => cases same; exact .alternatives primary second others kept
      · intro derived
        cases derived <;> exact ⟨_, rfl⟩

/-- The comparisons that bound a field. -/
def orderings : List Operator := [.gt, .gte, .lt, .lte]

/-- The comparisons for equality, each with the role of its condition. -/
def equalities : List (Operator × Role) := [(.eq, .filter), (.oneOf, .filter), (.ne, .mustNot)]

/-- How a condition on a field comes from the operator and the value of a filter. -/
inductive FilterLeaf (field : Field) (value : Json) : Operator → Role → Leaf → Prop where
  | present : FilterLeaf field value .exists .filter (.exists field.name)
  | compared (operator : Operator) (role : Role) (equality : (operator, role) ∈ equalities)
      (given : value.isNull = false)
      (kept : acceptedValues field (valueTexts value) ≠ []) :
      FilterLeaf field value operator role
        (equalityLeaf field value (acceptedValues field (valueTexts value)))
  | bounded (operator : Operator) (ordering : operator ∈ orderings)
      (given : value.isNull = false) (ordered : field.type.isNumeric ∨ field.type = .date) :
      FilterLeaf field value operator .filter
        (.range field.name [(operator.name, typedValue field value)])
  | contained (given : value.isNull = false) :
      FilterLeaf field value .contains .must (.matches field.name (displayText value))

private theorem equality_clause_iff (field : Field) (value : Json) (taken : Role)
    (description : String) :
    (∃ words, Contribution.clause
        (let (accepted, notes) := acceptValues field (valueTexts value)
         if accepted.isEmpty then ⟨none, notes⟩
         else ⟨some (taken, .leaf (equalityLeaf field value accepted), description), notes⟩) =
        some (role, clause, words)) ↔
      acceptedValues field (valueTexts value) ≠ [] ∧ role = taken ∧
        clause = .leaf (equalityLeaf field value (acceptedValues field (valueTexts value))) := by
  change (∃ words, Contribution.clause (if (acceptedValues field (valueTexts value)).isEmpty
    then _ else ⟨some (taken, _, _), _⟩) = _) ↔ _
  by_cases kept : acceptedValues field (valueTexts value) = []
  · simp [kept]
  · have nonempty : (acceptedValues field (valueTexts value)).isEmpty = false := by
      simpa using kept
    simp only [nonempty]
    constructor
    · rintro ⟨words, same⟩
      cases same
      exact ⟨kept, rfl, rfl⟩
    · rintro ⟨-, rfl, rfl⟩
      exact ⟨description, rfl⟩

private theorem ordering_clause_iff (field : Field) (leaf : Leaf) (description note : String) :
    (∃ words, Contribution.clause
        (if field.type.isNumeric || field.type = .date then
          ⟨some (.filter, .leaf leaf, description), []⟩
         else noted note) = some (role, clause, words)) ↔
      (field.type.isNumeric ∨ field.type = .date) ∧ role = .filter ∧ clause = .leaf leaf := by
  by_cases ordered : (field.type.isNumeric || field.type = .date) = true
  · rw [if_pos ordered]
    constructor
    · rintro ⟨words, same⟩
      cases same
      exact ⟨by simpa using ordered, rfl, rfl⟩
    · rintro ⟨-, rfl, rfl⟩
      exact ⟨description, rfl⟩
  · rw [if_neg ordered]
    constructor
    · rintro ⟨words, none⟩
      cases none
    · rintro ⟨allowed, -⟩
      exact absurd (by simpa using allowed) ordered

theorem FilterLeaf.given {field : Field} {value : Json} {operator : Operator} {leaf : Leaf}
    (derived : FilterLeaf field value operator role leaf) (valued : operator ≠ .exists) :
    value.isNull = false := by
  cases derived with
  | present => exact absurd rfl valued
  | compared operator role equality given => exact given
  | bounded operator ordering given => exact given
  | contained given => exact given

private theorem filterLeaf_iff (field : Field) (filter : Filter)
    (found : schema.field? filter.field = some field) :
    (∃ words, (filterContribution schema filter).clause = some (role, clause, words)) ↔
      ∃ leaf, clause = .leaf leaf ∧ FilterLeaf field filter.value filter.operator role leaf := by
  obtain ⟨name, operator, value⟩ := filter
  -- Presence needs no value; without one every other operator is ignored.
  by_cases present : operator = .exists
  · subst present
    simp only [filterContribution, found]
    constructor
    · rintro ⟨words, same⟩
      cases same
      exact ⟨_, rfl, .present⟩
    · rintro ⟨leaf, rfl, derived⟩
      cases derived with
      | present => exact ⟨_, rfl⟩
      | compared _ _ equality => simp [equalities] at equality
      | bounded _ ordering => exact absurd ordering (by decide)
  · by_cases null : value.isNull = true
    · have nothing : (filterContribution schema ⟨name, operator, value⟩).clause = none := by
        cases operator <;> simp [filterContribution, found, null, noted] at present ⊢
      rw [nothing]
      constructor
      · rintro ⟨words, none⟩
        cases none
      · rintro ⟨leaf, -, derived⟩
        exact absurd null (by simp [derived.given present])
    · have given : value.isNull = false := by simpa using null
      cases operator with
      | «exists» => exact absurd rfl present
      | eq | oneOf | ne =>
        simp only [filterContribution, found, given]
        refine (equality_clause_iff field value _ _).trans ⟨?_, ?_⟩
        · rintro ⟨kept, rfl, rfl⟩
          exact ⟨_, rfl, .compared _ _ (by decide) given kept⟩
        · rintro ⟨leaf, rfl, derived⟩
          cases derived with
          | compared _ _ equality _ kept => exact ⟨kept, by simpa [equalities] using equality, rfl⟩
          | bounded _ ordering => exact absurd ordering (by decide)
      | contains =>
        simp only [filterContribution, found, given]
        constructor
        · rintro ⟨words, same⟩
          cases same
          exact ⟨_, rfl, .contained given⟩
        · rintro ⟨leaf, rfl, derived⟩
          cases derived with
          | contained => exact ⟨_, rfl⟩
          | compared _ _ equality => simp [equalities] at equality
          | bounded _ ordering => exact absurd ordering (by decide)
      | gt | gte | lt | lte =>
        simp only [filterContribution, found, given]
        refine (ordering_clause_iff field _ _ _).trans ⟨?_, ?_⟩
        · rintro ⟨ordered, rfl, rfl⟩
          exact ⟨_, rfl, .bounded _ (by decide) given ordered⟩
        · rintro ⟨leaf, rfl, derived⟩
          cases derived with
          | compared _ _ equality => simp [equalities] at equality
          | bounded _ _ _ ordered => exact ⟨ordered, rfl, rfl⟩

theorem filterContribution_clause_iff (schema : Schema) (filter : Filter) :
    (∃ words, (filterContribution schema filter).clause = some (role, clause, words)) ↔
      ∃ field leaf, schema.field? filter.field = some field ∧ clause = .leaf leaf ∧
        FilterLeaf field filter.value filter.operator role leaf := by
  cases found : schema.field? filter.field with
  | none => simp [filterContribution, found, noted]
  | some field =>
    rw [filterLeaf_iff field filter found]
    simp

theorem timeContribution_clause_iff (schema : Schema) (range : Calendar.TimeRange) :
    (∃ words, (timeContribution schema range).clause = some (role, clause, words)) ↔
      ∃ field, schema.timeField? = some field ∧ role = .filter ∧
        clause = .leaf (.range field.name
          [("gte", .string range.start), ("lte", .string range.finish)]) := by
  rw [timeContribution]
  cases schema.timeField? with
  | none => simp [noted]
  | some field => simp [eq_comm]

def compiledClauses (sizes : Sizes) (schema : Schema) (intent : Intent) : List (Role × Clause) :=
  (plan sizes schema intent).1.condition.clauses

theorem mem_compiledClauses_iff (sizes : Sizes) (schema : Schema) (intent : Intent) :
    (role, clause) ∈ compiledClauses sizes schema intent ↔
      (∃ category values, (category, values) ∈ intent.entities.toList ∧
        EntityClause schema category values (presentFields schema category) role clause) ∨
      (∃ filter ∈ intent.filters, ∃ field leaf, schema.field? filter.field = some field ∧
        clause = .leaf leaf ∧ FilterLeaf field filter.value filter.operator role leaf) ∨
      (∃ range, intent.timeRange = some range ∧ ∃ field, schema.timeField? = some field ∧
        role = .filter ∧ clause = .leaf (.range field.name
          [("gte", .string range.start), ("lte", .string range.finish)])) := by
  have gathered : (role, clause) ∈ compiledClauses sizes schema intent ↔
      ∃ part ∈ contributions schema intent, ∃ words, part.clause = some (role, clause, words) := by
    change (role, clause) ∈ ((contributions schema intent).filterMap (·.clause)).map _ ↔ _
    rw [List.mem_map]
    constructor
    · rintro ⟨⟨_, _, words⟩, member, same⟩
      obtain ⟨part, given, clauseOf⟩ := List.mem_filterMap.mp member
      cases same
      exact ⟨part, given, words, clauseOf⟩
    · rintro ⟨part, given, words, clauseOf⟩
      exact ⟨(role, clause, words), List.mem_filterMap.mpr ⟨part, given, clauseOf⟩, rfl⟩
  rw [gathered]
  constructor
  · rintro ⟨part, member, contributed⟩
    rw [contributions, List.mem_append, List.mem_append] at member
    rcases member with (named | filtered) | timed
    · obtain ⟨⟨category, values⟩, listed, rfl⟩ := List.mem_map.mp named
      exact Or.inl ⟨category, values, listed,
        (entityContribution_clause_iff schema category values).mp contributed⟩
    · obtain ⟨filter, listed, rfl⟩ := List.mem_map.mp filtered
      exact Or.inr (Or.inl ⟨filter, listed,
        (filterContribution_clause_iff schema filter).mp contributed⟩)
    · obtain ⟨range, listed, rfl⟩ := List.mem_map.mp timed
      exact Or.inr (Or.inr ⟨range, Option.mem_toList.mp listed,
        (timeContribution_clause_iff schema range).mp contributed⟩)
  · rintro (⟨category, values, listed, derived⟩ | ⟨filter, listed, derived⟩ |
      ⟨range, given, derived⟩)
    · refine ⟨entityContribution schema category values, ?_,
        (entityContribution_clause_iff schema category values).mpr derived⟩
      rw [contributions, List.mem_append, List.mem_append]
      exact Or.inl (Or.inl (List.mem_map.mpr ⟨(category, values), listed, rfl⟩))
    · refine ⟨filterContribution schema filter, ?_,
        (filterContribution_clause_iff schema filter).mpr derived⟩
      rw [contributions, List.mem_append, List.mem_append]
      exact Or.inl (Or.inr (List.mem_map_of_mem listed))
    · refine ⟨timeContribution schema range, ?_,
        (timeContribution_clause_iff schema range).mpr derived⟩
      rw [contributions, List.mem_append, List.mem_append]
      exact Or.inr (List.mem_map_of_mem (Option.mem_toList.mpr given))

def Leaf.fields : Leaf → List String
  | .term field _ => [field]
  | .terms field _ => [field]
  | .matches field _ => [field]
  | .mentions fields _ => fields
  | .range field _ => [field]
  | .exists field => [field]

def Clause.leaves : Clause → List Leaf
  | .leaf condition => [condition]
  | .anyOf leaves => leaves

@[simp] theorem fields_oneOfLeaf (field : Field) (values : List String) :
    (oneOfLeaf field values).fields = [field.name] := by
  rcases values with _ | ⟨value, _ | ⟨second, others⟩⟩ <;> rfl

@[simp] theorem fields_equalityLeaf (field : Field) (value : Json) (accepted : List String) :
    (equalityLeaf field value accepted).fields = [field.name] := by
  unfold equalityLeaf
  split
  · rfl
  · split
    · split
      · rfl
      · exact fields_oneOfLeaf field _
    · exact fields_oneOfLeaf field _

theorem FilterLeaf.fields_eq {field : Field} {value : Json} {operator : Operator} {leaf : Leaf}
    (derived : FilterLeaf field value operator role leaf) : leaf.fields = [field.name] := by
  cases derived with
  | present => rfl
  | compared => exact fields_equalityLeaf _ _ _
  | bounded => rfl
  | contained => rfl

theorem mem_of_mem_presentFields {category : Category} {field : Field}
    (member : field ∈ presentFields schema category) : field ∈ schema.fields := by
  obtain ⟨name, -, found⟩ := List.mem_filterMap.mp member
  exact Schema.mem_of_field? found

theorem EntityClause.fields_known {category : Category} {values : List String} {fields : List Field}
    (derived : EntityClause schema category values fields role clause)
    (known : ∀ field ∈ fields, field ∈ schema.fields) :
    ∀ leaf ∈ clause.leaves, ∀ name ∈ leaf.fields, ∃ field ∈ schema.fields, field.name = name := by
  intro leaf made name named
  cases derived with
  | mentioned =>
    obtain rfl := List.mem_singleton.mp made
    obtain ⟨field, member, rfl⟩ := List.mem_map.mp named
    exact ⟨field, Schema.mem_of_mem_textFields member, rfl⟩
  | single primary =>
    obtain rfl := List.mem_singleton.mp made
    rw [fields_oneOfLeaf, List.mem_singleton] at named
    exact ⟨primary, known primary (List.mem_singleton.mpr rfl), named.symm⟩
  | alternatives primary second others =>
    obtain ⟨field, member, rfl⟩ := List.mem_map.mp made
    rw [fields_oneOfLeaf, List.mem_singleton] at named
    exact ⟨field, known field member, named.symm⟩

/-- Every condition of a compiled query is about fields of the schema. -/
theorem compiled_fields_known (sizes : Sizes) (schema : Schema) (intent : Intent) :
    ∀ part ∈ compiledClauses sizes schema intent, ∀ leaf ∈ part.2.leaves,
      ∀ name ∈ leaf.fields, ∃ field ∈ schema.fields, field.name = name := by
  rintro ⟨role, clause⟩ member leaf made name named
  rcases (mem_compiledClauses_iff sizes schema intent).mp member with
    ⟨category, values, -, derived⟩ | ⟨filter, -, field, condition, found, rfl, derived⟩ |
      ⟨range, -, field, found, -, rfl⟩
  · exact derived.fields_known (fun field => mem_of_mem_presentFields) leaf made name named
  · obtain rfl := List.mem_singleton.mp made
    rw [derived.fields_eq, List.mem_singleton] at named
    exact ⟨field, Schema.mem_of_field? found, named.symm⟩
  · obtain rfl := List.mem_singleton.mp made
    exact ⟨field, Schema.mem_of_timeField? found, (List.mem_singleton.mp named).symm⟩

end Query

end AnalystQuery
