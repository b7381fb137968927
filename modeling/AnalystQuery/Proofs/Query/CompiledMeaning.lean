import AnalystQuery.Proofs.Query.Envelope
import AnalystQuery.Proofs.Query.Meaning

/-! Compiling keeps the meaning of an intent: a document satisfies the compiled query if and only
if it does what each part of the intent asks for, read off the intent and the schema alone. -/

namespace AnalystQuery.Query

variable {truth : Json → Bool} {schema : Schema} {role : Role} {clause : Clause}

/-- The values of a category ask that one of the fields that hold it has one of those that are
kept. Topics that no field holds must be mentioned in a text field. -/
def EntityMet (truth : Json → Bool) (schema : Schema) (category : Category)
    (values : List String) : List Field → Prop
  | [] => category = .topics → schema.textFields ≠ [] →
      truth (Leaf.mentions (schema.textFields.map (·.name)) (" ".intercalate values)).encode = true
  | primary :: others => acceptedValues primary values ≠ [] →
      ∃ field ∈ primary :: others,
        truth (oneOfLeaf field (acceptedValues primary values)).encode = true

def KeptLeaf (schema : Schema) (filter : Filter) (leaf : Leaf) : Prop :=
  ∃ field, schema.field? filter.field = some field ∧
    ∃ role, FilterLeaf field filter.value filter.operator role leaf

def timeLeaf (field : Field) (range : Calendar.TimeRange) : Leaf :=
  .range field.name [("gte", .string range.start), ("lte", .string range.finish)]

/-- A document with these truth values is what an intent asks for. -/
structure Meets (truth : Json → Bool) (schema : Schema) (intent : Intent) : Prop where
  entities : ∀ category values, (category, values) ∈ intent.entities.toList →
    EntityMet truth schema category values (presentFields schema category)
  kept : ∀ filter ∈ intent.filters, filter.operator ≠ .ne →
    ∀ leaf, KeptLeaf schema filter leaf → truth leaf.encode = true
  excluded : ∀ filter ∈ intent.filters, filter.operator = .ne →
    ∀ leaf, KeptLeaf schema filter leaf → truth leaf.encode = false
  timely : ∀ range, intent.timeRange = some range → ∀ field, schema.timeField? = some field →
    truth (timeLeaf field range).encode = true

theorem entityMet_iff (category : Category) (values : List String) (fields : List Field) :
    EntityMet truth schema category values fields ↔
      ∀ role clause, EntityClause schema category values fields role clause →
        holds truth clause.encode = role.wanted := by
  constructor
  · intro met role clause derived
    cases derived with
    | mentioned topics searched =>
      exact (holds_clause _).mpr ⟨_, List.mem_singleton_self _, met topics searched⟩
    | single primary kept =>
      obtain ⟨field, member, has⟩ := met kept
      obtain rfl := List.mem_singleton.mp member
      exact (holds_clause _).mpr ⟨_, List.mem_singleton_self _, has⟩
    | alternatives primary second others kept =>
      obtain ⟨field, member, has⟩ := met kept
      exact (holds_clause _).mpr ⟨_, List.mem_map_of_mem member, has⟩
  · intro agree
    rcases fields with _ | ⟨primary, _ | ⟨second, others⟩⟩
    · intro topics searched
      have mentioned := agree _ _ (.mentioned topics searched)
      exact (holds_leaf _).symm.trans mentioned
    · intro kept
      have has := agree _ _ (.single primary kept)
      exact ⟨primary, List.mem_singleton_self _, (holds_leaf _).symm.trans has⟩
    · intro kept
      have any := agree _ _ (.alternatives primary second others kept)
      obtain ⟨leaf, made, has⟩ := (holds_clause _).mp any
      obtain ⟨field, member, rfl⟩ := List.mem_map.mp made
      exact ⟨field, member, has⟩

theorem FilterLeaf.wanted_iff {field : Field} {value : Json} {operator : Operator} {leaf : Leaf}
    (derived : FilterLeaf field value operator role leaf) :
    role.wanted = true ↔ operator ≠ .ne := by
  cases derived with
  | present => decide
  | compared operator role equality =>
    have listed : (operator = .eq ∧ role = .filter) ∨ (operator = .oneOf ∧ role = .filter) ∨
        (operator = .ne ∧ role = .mustNot) := by simpa [equalities] using equality
    rcases listed with ⟨rfl, rfl⟩ | ⟨rfl, rfl⟩ | ⟨rfl, rfl⟩ <;> decide
  | bounded operator ordering =>
    have other : operator ≠ .ne := by
      rintro rfl
      exact absurd ordering (by decide)
    simp [Role.wanted, other]
  | contained => decide

theorem filtersMet_iff (truth : Json → Bool) (schema : Schema) (intent : Intent) :
    ((∀ filter ∈ intent.filters, filter.operator ≠ .ne →
        ∀ leaf, KeptLeaf schema filter leaf → truth leaf.encode = true) ∧
      ∀ filter ∈ intent.filters, filter.operator = .ne →
        ∀ leaf, KeptLeaf schema filter leaf → truth leaf.encode = false) ↔
      ∀ filter ∈ intent.filters, ∀ field leaf role, schema.field? filter.field = some field →
        FilterLeaf field filter.value filter.operator role leaf →
          truth leaf.encode = role.wanted := by
  constructor
  · rintro ⟨kept, excluded⟩ filter member field leaf role found derived
    have keeps : KeptLeaf schema filter leaf := ⟨field, found, role, derived⟩
    have wanted := derived.wanted_iff
    by_cases exclusion : filter.operator = .ne
    · rw [excluded filter member exclusion leaf keeps]
      simpa [exclusion] using wanted
    · rw [kept filter member exclusion leaf keeps]
      exact (wanted.mpr exclusion).symm
  · intro agree
    constructor
    · rintro filter member other leaf ⟨field, found, role, derived⟩
      rw [agree filter member field leaf role found derived]
      exact derived.wanted_iff.mpr other
    · rintro filter member exclusion leaf ⟨field, found, role, derived⟩
      rw [agree filter member field leaf role found derived]
      simpa [exclusion] using derived.wanted_iff

theorem holds_compiled_iff (truth : Json → Bool) (sizes : Sizes) (index : String)
    (schema : Schema) (intent : Intent) :
    holds truth (compile sizes index schema intent).query = true ↔
      ∀ role clause, (role, clause) ∈ compiledClauses sizes schema intent →
        holds truth clause.encode = role.wanted := by
  have query : (compile sizes index schema intent).query =
      (plan sizes schema intent).1.condition.encode := by
    rw [GeneratedQuery.query]
    change ((plan sizes schema intent).1.encode.get? "query").getD .null = _
    rw [Envelope.get?_query, Option.getD_some]
  rw [query, holds_condition]
  exact Prod.forall

theorem holds_compiled_iff_meets (truth : Json → Bool) (sizes : Sizes) (index : String)
    (schema : Schema) (intent : Intent) :
    holds truth (compile sizes index schema intent).query = true ↔ Meets truth schema intent := by
  rw [holds_compiled_iff]
  constructor
  · intro agree
    have filters := (filtersMet_iff truth schema intent).mpr (by
      intro filter member field leaf role found derived
      have compiled : (role, Clause.leaf leaf) ∈ compiledClauses sizes schema intent :=
        (mem_compiledClauses_iff sizes schema intent).mpr
          (Or.inr (Or.inl ⟨filter, member, field, leaf, found, rfl, derived⟩))
      exact (holds_leaf leaf).symm.trans (agree role _ compiled))
    refine ⟨?_, filters.1, filters.2, ?_⟩
    · intro category values listed
      rw [entityMet_iff]
      intro role clause derived
      exact agree role clause ((mem_compiledClauses_iff sizes schema intent).mpr
        (Or.inl ⟨category, values, listed, derived⟩))
    · intro range given field found
      have compiled : (Role.filter, Clause.leaf (timeLeaf field range)) ∈
          compiledClauses sizes schema intent :=
        (mem_compiledClauses_iff sizes schema intent).mpr
          (Or.inr (Or.inr ⟨range, given, field, found, rfl, rfl⟩))
      exact (holds_leaf _).symm.trans (agree .filter _ compiled)
  · intro meets role clause member
    rcases (mem_compiledClauses_iff sizes schema intent).mp member with
      ⟨category, values, listed, derived⟩ | ⟨filter, listed, field, leaf, found, rfl, derived⟩ |
        ⟨range, given, field, found, rfl, rfl⟩
    · exact (entityMet_iff category values _).mp (meets.entities category values listed)
        role clause derived
    · have filters := (filtersMet_iff truth schema intent).mp ⟨meets.kept, meets.excluded⟩
      exact (holds_leaf leaf).trans (filters filter listed field leaf role found derived)
    · exact (holds_leaf _).trans (meets.timely range given field found)

/-- The order of the filters does not matter to what is asked for. -/
theorem Meets.of_perm {intent : Intent} {filters : List Filter}
    (meets : Meets truth schema intent) (same : filters.Perm intent.filters) :
    Meets truth schema { intent with filters := filters } where
  entities := meets.entities
  kept := fun filter member => meets.kept filter (same.subset member)
  excluded := fun filter member => meets.excluded filter (same.subset member)
  timely := meets.timely

/-- Whatever leaf clauses hold of a document, it satisfies the compiled query if and only if it is
what the intent asks for, in whatever order the filters are given. -/
theorem compiled_query_meaning (truth : Json → Bool) (sizes : Sizes) (index : String)
    (schema : Schema) (intent : Intent) :
    (holds truth (compile sizes index schema intent).query = true ↔
        Meets truth schema intent) ∧
      ∀ filters : List Filter, filters.Perm intent.filters →
        holds truth (compile sizes index schema { intent with filters := filters }).query =
          holds truth (compile sizes index schema intent).query := by
  refine ⟨holds_compiled_iff_meets truth sizes index schema intent, ?_⟩
  intro filters same
  rw [Bool.eq_iff_iff, holds_compiled_iff_meets, holds_compiled_iff_meets]
  exact ⟨fun meets => meets.of_perm same.symm, fun meets => meets.of_perm same⟩

end AnalystQuery.Query
