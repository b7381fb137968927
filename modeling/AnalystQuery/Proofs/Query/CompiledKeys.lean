import AnalystQuery.Proofs.Query.EnvelopeKeys

/-! The keys of compiled envelopes. The values of filters and the options of aggregations can bring
keys of their own only where they are copied: as bounds, in comparisons of a single value with a
numeric field, and as percents. -/

namespace AnalystQuery.Query

open Json (KeysIn)

variable {allowed : String → Prop} {schema : Schema}

/-- Whether a filter hands its value on as it is: bounds do, and so do comparisons of a single
value with a numeric field. -/
def CopiesValue (field : Field) (operator : Operator) (value : Json) : Prop :=
  value.isNull = false ∧
    (operator ∈ orderings ∧ (field.type.isNumeric ∨ field.type = .date) ∨
      operator ∈ equalities.map Prod.fst ∧ field.type.isNumeric ∧ value.asArray? = none ∧
        acceptedValues field (valueTexts value) ≠ [])

theorem keysIn_typedValue (field : Field) (value : Json) :
    KeysIn allowed (typedValue field value) ↔ KeysIn allowed value := by
  cases value with
  | string text =>
    refine iff_of_true ?_ (Json.keysIn_string text)
    rw [typedValue]
    split
    · split
      · split
        · exact Json.keysIn_of_atom rfl rfl
        · exact Json.keysIn_string text
      · exact Json.keysIn_string text
    · exact Json.keysIn_string text
  | null | bool | integer | float | array | object => exact Iff.rfl

theorem keysIn_operands_oneOfLeaf (field : Field) (values : List String) :
    ∀ operand ∈ (oneOfLeaf field values).operands, KeysIn allowed operand := by
  intro operand member
  rcases values with _ | ⟨value, _ | ⟨second, others⟩⟩
  · cases member
  · rw [List.mem_singleton.mp member]
    exact Json.keysIn_string value
  · cases member

theorem acceptedValues_single (field : Field) (text : String)
    (kept : acceptedValues field [text] ≠ []) : ∃ value, acceptedValues field [text] = [value] := by
  revert kept
  unfold acceptedValues acceptValues
  cases field.values with
  | none => exact fun _ => ⟨text, rfl⟩
  | some known =>
    simp only [List.foldl_cons, List.foldl_nil]
    cases known.find? (Text.sameIgnoringAsciiCase · text) with
    | none => exact fun kept => absurd rfl kept
    | some spelling => exact fun _ => ⟨spelling, rfl⟩

theorem isExact_of_isNumeric {type : FieldType} (numeric : type.isNumeric = true) :
    type.isExact = true ∧ type ≠ .text := by
  cases type <;> simp_all [FieldType.isNumeric, FieldType.isExact]

theorem keysIn_operands_equalityLeaf {field : Field} {value : Json}
    (kept : acceptedValues field (valueTexts value) ≠ []) :
    (∀ operand ∈ (equalityLeaf field value (acceptedValues field (valueTexts value))).operands,
        KeysIn allowed operand) ↔
      (field.type.isNumeric = true → value.asArray? = none → KeysIn allowed value) := by
  -- A single value of a numeric field is compared as it is, any other value as text.
  by_cases copied : field.type.isNumeric = true ∧ value.asArray? = none
  · obtain ⟨numeric, noArray⟩ := copied
    obtain ⟨exact, notText⟩ := isExact_of_isNumeric numeric
    have texts : valueTexts value = [displayText value] := by
      cases value <;> first | rfl | cases noArray
    obtain ⟨accepted, only⟩ := acceptedValues_single field (displayText value) (texts ▸ kept)
    have leaf : equalityLeaf field value [accepted] =
        .term field.name (typedValue field value) := by
      simp only [equalityLeaf, noArray, if_neg notText, if_pos exact, if_pos numeric]
    rw [texts, only, leaf, Leaf.operands, List.forall_mem_singleton, keysIn_typedValue]
    exact ⟨fun inside _ _ => inside, fun inside => inside numeric noArray⟩
  · refine iff_of_true ?_ fun numeric noArray => absurd ⟨numeric, noArray⟩ copied
    intro operand member
    unfold equalityLeaf at member
    split at member
    · cases member
    · split at member
      · rename_i text _ noArray
        split at member
        · rw [if_neg fun numeric => copied ⟨numeric, noArray⟩] at member
          rw [List.mem_singleton.mp member]
          exact Json.keysIn_string text
        · exact keysIn_operands_oneOfLeaf field _ operand member
      · exact keysIn_operands_oneOfLeaf field _ operand member

theorem keysIn_operands_filterLeaf {field : Field} {value : Json} {operator : Operator}
    {role : Role} {leaf : Leaf} (derived : FilterLeaf field value operator role leaf) :
    (∀ operand ∈ leaf.operands, KeysIn allowed operand) ↔
      (CopiesValue field operator value → KeysIn allowed value) := by
  have never : ∀ operator ∈ [Operator.exists, .contains],
      operator ∉ orderings ∧ operator ∉ equalities.map Prod.fst := by decide
  cases derived with
  | present =>
    refine iff_of_true (List.forall_mem_nil _) ?_
    rintro ⟨-, ⟨ordering, -⟩ | ⟨equality, -⟩⟩
    · exact absurd ordering (never _ (by decide)).1
    · exact absurd equality (never _ (by decide)).2
  | contained =>
    refine iff_of_true (List.forall_mem_nil _) ?_
    rintro ⟨-, ⟨ordering, -⟩ | ⟨equality, -⟩⟩
    · exact absurd ordering (never _ (by decide)).1
    · exact absurd equality (never _ (by decide)).2
  | compared _ _ equality given kept =>
    have listed := List.mem_map_of_mem (f := Prod.fst) equality
    rw [keysIn_operands_equalityLeaf kept]
    constructor
    · rintro inside ⟨-, ⟨ordering, -⟩ | ⟨-, numeric, noArray, -⟩⟩
      · have apart : ∀ operator ∈ equalities.map Prod.fst, operator ∉ orderings := by decide
        exact absurd ordering (apart _ listed)
      · exact inside numeric noArray
    · exact fun inside numeric noArray => inside ⟨given, Or.inr ⟨listed, numeric, noArray, kept⟩⟩
  | bounded _ ordering given ordered =>
    rw [Leaf.operands, List.map_singleton, List.forall_mem_singleton, keysIn_typedValue]
    exact ⟨fun inside _ => inside, fun inside => inside ⟨given, Or.inl ⟨ordering, ordered⟩⟩⟩

theorem CopiesValue.exists_leaf {field : Field} {value : Json} {operator : Operator}
    (copies : CopiesValue field operator value) :
    ∃ role leaf, FilterLeaf field value operator role leaf := by
  obtain ⟨given, ⟨ordering, ordered⟩ | ⟨equality, -, -, kept⟩⟩ := copies
  · exact ⟨_, _, .bounded operator ordering given ordered⟩
  · obtain ⟨⟨_, role⟩, listed, rfl⟩ := List.mem_map.mp equality
    exact ⟨role, _, .compared _ role listed given kept⟩

theorem regular_of_unbounded {leaf : Leaf} (unbounded : leaf.bounds = []) : leaf.Regular := by
  refine ⟨?_, ?_⟩
  · rw [unbounded]
    exact List.nodup_nil
  · rw [unbounded]
    exact List.forall_mem_nil _

theorem regular_oneOfLeaf (field : Field) (values : List String) :
    (oneOfLeaf field values).Regular := by
  rcases values with _ | ⟨value, _ | ⟨second, others⟩⟩ <;> exact regular_of_unbounded rfl

theorem FilterLeaf.regular {field : Field} {value : Json} {operator : Operator} {role : Role}
    {leaf : Leaf} (derived : FilterLeaf field value operator role leaf) : leaf.Regular := by
  cases derived with
  | present => exact regular_of_unbounded rfl
  | contained => exact regular_of_unbounded rfl
  | compared =>
    unfold equalityLeaf
    split
    · exact regular_of_unbounded rfl
    · split
      · split
        · exact regular_of_unbounded rfl
        · exact regular_oneOfLeaf field _
      · exact regular_oneOfLeaf field _
  | bounded _ ordering =>
    have named : ∀ operator ∈ orderings, operator.name ∈ keywords := by decide
    exact ⟨List.nodup_singleton _, List.forall_mem_singleton.mpr (named _ ordering)⟩

theorem EntityClause.leaf_cases {category : Category} {values : List String} {fields : List Field}
    {role : Role} {clause : Clause}
    (derived : EntityClause schema category values fields role clause) :
    ∀ leaf ∈ clause.leaves, (∃ searched text, leaf = .mentions searched text) ∨
      ∃ field accepted, leaf = oneOfLeaf field accepted := by
  intro leaf made
  cases derived with
  | mentioned =>
    obtain rfl := List.mem_singleton.mp made
    exact Or.inl ⟨_, _, rfl⟩
  | single primary =>
    obtain rfl := List.mem_singleton.mp made
    exact Or.inr ⟨primary, _, rfl⟩
  | alternatives primary second others =>
    obtain ⟨field, -, rfl⟩ := List.mem_map.mp made
    exact Or.inr ⟨field, _, rfl⟩

theorem EntityClause.regular {category : Category} {values : List String} {fields : List Field}
    {role : Role} {clause : Clause}
    (derived : EntityClause schema category values fields role clause) :
    ∀ leaf ∈ clause.leaves, leaf.Regular := by
  intro leaf made
  rcases derived.leaf_cases leaf made with ⟨searched, text, rfl⟩ | ⟨field, accepted, rfl⟩
  · exact regular_of_unbounded rfl
  · exact regular_oneOfLeaf field accepted

theorem EntityClause.keysIn_operands {category : Category} {values : List String}
    {fields : List Field} {role : Role} {clause : Clause}
    (derived : EntityClause schema category values fields role clause) :
    ∀ leaf ∈ clause.leaves, ∀ operand ∈ leaf.operands, KeysIn allowed operand := by
  intro leaf made
  rcases derived.leaf_cases leaf made with ⟨searched, text, rfl⟩ | ⟨field, accepted, rfl⟩
  · exact List.forall_mem_nil _
  · exact keysIn_operands_oneOfLeaf field accepted

def windowLeaf (name start finish : String) : Leaf :=
  .range name [("gte", .string start), ("lte", .string finish)]

theorem windowLeaf_regular (name start finish : String) :
    (windowLeaf name start finish).Regular := by
  have once : ["gte", "lte"].Nodup := by decide
  have named : "gte" ∈ keywords ∧ "lte" ∈ keywords := by decide
  refine ⟨once, fun bound member => ?_⟩
  rcases List.mem_pair.mp member with rfl | rfl
  · exact named.1
  · exact named.2

theorem keysIn_operands_windowLeaf (name start finish : String) :
    ∀ operand ∈ (windowLeaf name start finish).operands, KeysIn allowed operand := by
  intro operand member
  rcases List.mem_pair.mp member with rfl | rfl <;> exact Json.keysIn_string _

theorem compiled_leaves_regular (sizes : Sizes) (schema : Schema) (intent : Intent) :
    ∀ part ∈ compiledClauses sizes schema intent, ∀ leaf ∈ part.2.leaves, leaf.Regular := by
  rintro ⟨role, clause⟩ member leaf made
  rcases (mem_compiledClauses_iff sizes schema intent).mp member with
    ⟨category, values, -, derived⟩ | ⟨filter, -, field, condition, -, rfl, derived⟩ |
      ⟨range, -, field, -, -, rfl⟩
  · exact derived.regular leaf made
  · obtain rfl := List.mem_singleton.mp made
    exact derived.regular
  · obtain rfl := List.mem_singleton.mp made
    exact windowLeaf_regular field.name range.start range.finish

theorem keysIn_compiled_operands (sizes : Sizes) (schema : Schema) (intent : Intent) :
    (∀ part ∈ compiledClauses sizes schema intent, ∀ leaf ∈ part.2.leaves,
        ∀ operand ∈ leaf.operands, KeysIn allowed operand) ↔
      ∀ filter ∈ intent.filters, ∀ field, schema.field? filter.field = some field →
        CopiesValue field filter.operator filter.value → KeysIn allowed filter.value := by
  constructor
  · intro inside filter listed field found copies
    obtain ⟨role, leaf, derived⟩ := copies.exists_leaf
    refine (keysIn_operands_filterLeaf derived).mp (inside (role, .leaf leaf) ?_ leaf ?_) copies
    · exact (mem_compiledClauses_iff sizes schema intent).mpr
        (Or.inr (Or.inl ⟨filter, listed, field, leaf, found, rfl, derived⟩))
    · exact List.mem_singleton.mpr rfl
  · rintro inside ⟨role, clause⟩ member leaf made
    rcases (mem_compiledClauses_iff sizes schema intent).mp member with
      ⟨category, values, -, derived⟩ | ⟨filter, listed, field, condition, found, rfl, derived⟩ |
        ⟨range, -, field, -, -, rfl⟩
    · exact derived.keysIn_operands leaf made
    · obtain rfl := List.mem_singleton.mp made
      exact (keysIn_operands_filterLeaf derived).mpr (inside filter listed field found)
    · obtain rfl := List.mem_singleton.mp made
      exact keysIn_operands_windowLeaf field.name range.start range.finish

/-- The keys that an envelope is meant to hold: keywords, fields, and keys of aggregations. -/
def Expected (schema : Schema) (computations : List Computation) (key : String) : Prop :=
  key ∈ keywords ∨ schema.hasField key = true ∨ key ∈ computations.map (·.key)

/-- Every key of a compiled envelope, at any depth, is a keyword, a field of the schema or the key
of an accepted aggregation, if and only if this holds of the keys within the values that filters
copy and within the percents of the aggregations that last. -/
theorem compiled_keys_expected_iff (sizes : Sizes) (index : String) (schema : Schema)
    (intent : Intent) :
    let computations := (plan sizes schema intent).1.computations
    let expected := Expected schema computations
    (∀ key ∈ (compile sizes index schema intent).envelope.allKeys, expected key) ↔
      (∀ filter ∈ intent.filters, ∀ field, schema.field? filter.field = some field →
        CopiesValue field filter.operator filter.value →
          ∀ key ∈ filter.value.allKeys, expected key) ∧
      ∀ computation, Lasts computations computation →
        ∀ percents ∈ computation.measure.percents?, ∀ key ∈ percents.allKeys, expected key := by
  intro computations expected
  -- Keywords, fields and keys of aggregations are expected, so only copied values matter.
  have written : ∀ key ∈ keywords, expected key := fun key keyword => Or.inl keyword
  have sorted : ∀ sort ∈ (plan sizes schema intent).1.sort, expected sort.field :=
    fun sort chosen => Or.inr (Or.inl (chooseSort_known chosen))
  have conditions : KeysIn expected (plan sizes schema intent).1.condition.encode ↔
      ∀ filter ∈ intent.filters, ∀ field, schema.field? filter.field = some field →
        CopiesValue field filter.operator filter.value → KeysIn expected filter.value := by
    rw [keysIn_condition written, ← keysIn_compiled_operands sizes schema intent]
    refine forall₂_congr fun part member => (keysIn_clause written part.2).trans ?_
    refine forall₂_congr fun leaf made => keysIn_leaf written ?_ ?_
    · exact compiled_leaves_regular sizes schema intent part member leaf made
    · intro name named
      obtain ⟨field, known, rfl⟩ :=
        compiled_fields_known sizes schema intent part member leaf made name named
      exact Or.inr (Or.inl (Schema.hasField_of_mem known))
  have aggregations : (∀ computation, Lasts computations computation →
        expected computation.key ∧ KeysIn expected computation.measure.encode) ↔
      ∀ computation, Lasts computations computation →
        ∀ percents ∈ computation.measure.percents?, KeysIn expected percents := by
    refine forall₂_congr fun computation lasts => ?_
    have own : expected computation.key :=
      Or.inr (Or.inr (List.mem_map_of_mem lasts.mem))
    have fit := compiled_measures_fit sizes schema intent computation lasts.mem
    rw [and_iff_right own, keysIn_measure written fit]
  change KeysIn expected (plan sizes schema intent).1.encode ↔ _
  rw [keysIn_envelope written _ sorted, conditions, aggregations]
  rfl

/-- A bound that is an object brings its own keys into the envelope. -/
theorem bound_key_copied :
    ¬ ∀ (sizes : Sizes) (index : String) (schema : Schema) (intent : Intent),
      ∀ key ∈ (compile sizes index schema intent).envelope.allKeys,
        Expected schema (plan sizes schema intent).1.computations key := by
  intro expected
  let scores : Schema := ⟨[⟨"sentiment_score", .float, none⟩]⟩
  let bound : Json := .object [("gte", .object [("injected", .array [])])]
  let intent : Intent :=
    { Intent.plain .search .zero with filters := [⟨"sentiment_score", .gt, bound⟩] }
  have held : "injected" ∈ (compile ⟨20, 100⟩ "communications" scores intent).envelope.allKeys := by
    decide +kernel
  rcases expected ⟨20, 100⟩ "communications" scores intent "injected" held with
    keyword | field | aggregation
  · exact absurd keyword (by decide)
  · exact absurd field (by decide)
  · cases aggregation

end AnalystQuery.Query
