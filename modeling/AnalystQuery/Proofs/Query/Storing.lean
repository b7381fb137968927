import AnalystQuery.Proofs.Intent.Records
import AnalystQuery.Proofs.Query.CompiledKeys

/-! Compiled queries that are stored. An envelope is written with its keys in order and with counts
that fit, so it is read again as it was; what it copies from an intent could have been read
before. With its reading and its intent a compiled query is decoded from its own text. -/

namespace AnalystQuery

open Json (IsSettled Legible spelled)

theorem Json.isSettled_record {entries : List (String × Json)} {keys : List String}
    (written : (entries.map Prod.fst).Sublist keys) (sorted : keys.Pairwise (· < ·))
    (each : ∀ entry ∈ entries, IsSettled entry.2) : IsSettled (.object entries) :=
  Json.isSettled_object (List.pairwise_map.mp (sorted.sublist written)) each

namespace Query

variable {sizes : Sizes} {schema : Schema} {intent : Intent}

theorem isSettled_single (key : String) {value : Json} (settled : IsSettled value) :
    IsSettled (single key value) :=
  Json.isSettled_object (List.pairwise_singleton _ _) (List.forall_mem_singleton.mpr settled)

theorem isSettled_leaf {leaf : Leaf} (operands : ∀ operand ∈ leaf.operands, IsSettled operand) :
    IsSettled leaf.encode := by
  cases leaf with
  | term field value =>
    exact isSettled_single _ (isSettled_single _ (operands value List.mem_cons_self))
  | terms field values =>
    exact isSettled_single _ (isSettled_single _ (Json.isSettled_strings values))
  | «matches» field text =>
    exact isSettled_single _ (isSettled_single _ (Json.isSettled_string text))
  | mentions searched text =>
    have keys : ["fields", "operator", "query"].Pairwise (· < ·) := by decide
    refine isSettled_single _ (Json.isSettled_record (List.Sublist.refl _) keys ?_)
    simp only [List.forall_mem_cons]
    exact ⟨Json.isSettled_strings searched, Json.isSettled_string "or",
      Json.isSettled_string text, List.forall_mem_nil _⟩
  | range field bounds =>
    refine isSettled_single _ (isSettled_single _ (Json.isSettled_ofEntries ?_))
    exact fun bound member => operands bound.2 (List.mem_map_of_mem member)
  | «exists» field =>
    exact isSettled_single _ (isSettled_single _ (Json.isSettled_string field))

theorem isSettled_clause {clause : Clause}
    (operands : ∀ leaf ∈ clause.leaves, ∀ operand ∈ leaf.operands, IsSettled operand) :
    IsSettled clause.encode := by
  cases clause with
  | leaf condition => exact isSettled_leaf (operands condition (List.mem_singleton.mpr rfl))
  | anyOf leaves =>
    have keys : ["minimum_should_match", "should"].Pairwise (· < ·) := by decide
    refine isSettled_single _ (Json.isSettled_record (List.Sublist.refl _) keys ?_)
    simp only [List.forall_mem_cons]
    refine ⟨Json.isSettled_natural (by decide), Json.isSettled_array ?_, List.forall_mem_nil _⟩
    exact List.forall_mem_map.mpr fun leaf member => isSettled_leaf (operands leaf member)

theorem keys_roleEntry (condition : Condition) (key : String) (role : Role) :
    ((condition.roleEntry key role).map Prod.fst).Sublist [key] := by
  rw [Condition.roleEntry]
  split
  · exact List.nil_sublist _
  · exact List.Sublist.refl _

theorem isSettled_roleEntry {condition : Condition} (key : String) (role : Role)
    (clauses : ∀ part ∈ condition.clauses, IsSettled part.2.encode) :
    ∀ entry ∈ condition.roleEntry key role, IsSettled entry.2 := by
  rw [Condition.roleEntry]
  split
  · exact List.forall_mem_nil _
  · refine List.forall_mem_singleton.mpr (Json.isSettled_array (List.forall_mem_map.mpr ?_))
    intro clause member
    obtain ⟨part, listed, rfl⟩ := List.mem_map.mp member
    exact clauses part (List.mem_filter.mp listed).1

theorem isSettled_condition {condition : Condition}
    (clauses : ∀ part ∈ condition.clauses, IsSettled part.2.encode) :
    IsSettled condition.encode := by
  rw [Condition.encode]
  split
  · exact isSettled_single _ (Json.isSettled_object .nil (List.forall_mem_nil _))
  · have keys : (["filter"] ++ ["must"] ++ ["must_not"]).Pairwise (· < ·) := by decide
    refine isSettled_single _ (Json.isSettled_record ?_ keys ?_)
    · simp only [List.map_append]
      exact ((keys_roleEntry _ _ _).append (keys_roleEntry _ _ _)).append (keys_roleEntry _ _ _)
    · simp only [List.forall_mem_append]
      exact ⟨⟨isSettled_roleEntry _ _ clauses, isSettled_roleEntry _ _ clauses⟩,
        isSettled_roleEntry _ _ clauses⟩

theorem isSettled_measure {measure : Measure}
    (percents : ∀ percents ∈ measure.percents?, IsSettled percents)
    (groups : ∀ field size, measure = .terms field size → size < Json.integerLimit) :
    IsSettled measure.encode := by
  have fieldOnly (field : String) : IsSettled (single "field" (.string field)) :=
    isSettled_single _ (Json.isSettled_string field)
  cases measure with
  | documentCount =>
    exact isSettled_single _ (isSettled_single _ (Json.isSettled_object .nil (List.forall_mem_nil _)))
  | valueCount field => exact isSettled_single _ (fieldOnly field)
  | terms field size =>
    have keys : ["field", "size"].Pairwise (· < ·) := by decide
    refine isSettled_single _ (Json.isSettled_record (List.Sublist.refl _) keys ?_)
    simp only [List.forall_mem_cons]
    exact ⟨Json.isSettled_string field, Json.isSettled_natural (groups field size rfl),
      List.forall_mem_nil _⟩
  | dateHistogram field interval =>
    have keys : ["calendar_interval", "field"].Pairwise (· < ·) := by decide
    refine isSettled_single _ (Json.isSettled_record (List.Sublist.refl _) keys ?_)
    simp only [List.forall_mem_cons]
    exact ⟨Json.isSettled_string interval, Json.isSettled_string field, List.forall_mem_nil _⟩
  | percentiles field given =>
    cases given with
    | none => exact isSettled_single _ (fieldOnly field)
    | some given =>
      have keys : ["field", "percents"].Pairwise (· < ·) := by decide
      refine isSettled_single _ (Json.isSettled_record (List.Sublist.refl _) keys ?_)
      simp only [List.forall_mem_cons]
      exact ⟨Json.isSettled_string field, percents given rfl, List.forall_mem_nil _⟩
  | metric kind field => exact isSettled_single _ (fieldOnly field)

theorem isSettled_sort (sort : SortKey) : IsSettled (.array [SortKey.encodeEntry sort]) := by
  have order := isSettled_single "order" (Json.isSettled_string sort.order.name)
  exact Json.isSettled_array
    (List.forall_mem_singleton.mpr (isSettled_single sort.field order))

theorem isSettled_envelope {envelope : Envelope} (condition : IsSettled envelope.condition.encode)
    (measures : ∀ computation ∈ envelope.computations, IsSettled computation.measure.encode)
    (size : envelope.size < Json.integerLimit) (offset : envelope.offset < Json.integerLimit) :
    IsSettled envelope.encode := by
  have keys : (["aggs"] ++ ["from"] ++ ["query", "size"] ++ ["sort"] ++
      ["track_total_hits"]).Pairwise (· < ·) := by decide
  rw [Envelope.encode]
  refine Json.isSettled_record ?_ keys ?_
  · simp only [List.map_append]
    refine ((((?_ : List.Sublist _ _).append ?_).append (List.Sublist.refl _)).append ?_).append
      (List.Sublist.refl _)
    · split
      · exact List.nil_sublist _
      · exact List.Sublist.refl _
    · split
      · exact List.nil_sublist _
      · exact List.Sublist.refl _
    · split
      · exact List.Sublist.refl _
      · exact List.nil_sublist _
  · simp only [List.forall_mem_append, List.forall_mem_cons]
    refine ⟨⟨⟨⟨?_, ?_⟩, condition, Json.isSettled_natural size, List.forall_mem_nil _⟩, ?_⟩,
      Json.isSettled_bool true, List.forall_mem_nil _⟩
    · split
      · exact List.forall_mem_nil _
      · exact List.forall_mem_singleton.mpr
          (Json.isSettled_ofEntries (List.forall_mem_map.mpr measures))
    · split
      · exact List.forall_mem_nil _
      · exact List.forall_mem_singleton.mpr (Json.isSettled_natural offset)
    · split
      · exact List.forall_mem_singleton.mpr (isSettled_sort _)
      · exact List.forall_mem_nil _

theorem isSettled_typedValue (field : Field) {value : Json} (settled : IsSettled value) :
    IsSettled (typedValue field value) := by
  cases value with
  | string text =>
    rw [typedValue]
    split
    · split
      · split
        · exact Json.isSettled_float _
        · exact settled
      · exact settled
    · exact settled
  | null | bool | integer | float | array | object => exact settled

theorem isSettled_operands_oneOfLeaf (field : Field) (values : List String) :
    ∀ operand ∈ (oneOfLeaf field values).operands, IsSettled operand := by
  rcases values with _ | ⟨value, _ | ⟨second, others⟩⟩
  · exact List.forall_mem_nil _
  · exact List.forall_mem_singleton.mpr (Json.isSettled_string value)
  · exact List.forall_mem_nil _

theorem FilterLeaf.isSettled_operands {field : Field} {value : Json} {operator : Operator}
    {role : Role} {leaf : Leaf} (derived : FilterLeaf field value operator role leaf)
    (settled : IsSettled value) : ∀ operand ∈ leaf.operands, IsSettled operand := by
  cases derived with
  | present | contained => exact List.forall_mem_nil _
  | compared =>
    unfold equalityLeaf
    split
    · exact List.forall_mem_nil _
    · split
      · split
        · refine List.forall_mem_singleton.mpr ?_
          split
          · exact isSettled_typedValue field settled
          · exact Json.isSettled_string _
        · exact isSettled_operands_oneOfLeaf field _
      · exact isSettled_operands_oneOfLeaf field _
  | bounded => exact List.forall_mem_singleton.mpr (isSettled_typedValue field settled)

theorem isSettled_compiled_operands (storable : intent.Storable) :
    ∀ part ∈ compiledClauses sizes schema intent, ∀ leaf ∈ part.2.leaves,
      ∀ operand ∈ leaf.operands, IsSettled operand := by
  rintro ⟨role, clause⟩ member leaf made
  rcases (mem_compiledClauses_iff sizes schema intent).mp member with
    ⟨category, values, -, derived⟩ | ⟨filter, listed, field, condition, -, rfl, derived⟩ |
      ⟨range, -, field, -, -, rfl⟩
  · rcases derived.leaf_cases leaf made with ⟨searched, text, rfl⟩ | ⟨field, accepted, rfl⟩
    · exact List.forall_mem_nil _
    · exact isSettled_operands_oneOfLeaf field accepted
  · obtain rfl := List.mem_singleton.mp made
    exact derived.isSettled_operands (storable.values filter listed)
  · obtain rfl := List.mem_singleton.mp made
    simp only [Leaf.operands, List.forall_mem_map, List.forall_mem_cons]
    exact ⟨Json.isSettled_string range.start, Json.isSettled_string range.finish,
      List.forall_mem_nil _⟩

theorem isSettled_compiled_measures (storable : intent.Storable)
    (fits : sizes.max < Json.integerLimit) :
    ∀ computation ∈ (plan sizes schema intent).1.computations,
      IsSettled computation.measure.encode := by
  intro computation member
  obtain ⟨aggregation, listed, supported⟩ := supported_of_mem_computations member
  refine isSettled_measure ?_ fun field size same => ?_
  · intro percents given
    generalize aggregationField? schema aggregation = field at supported
    generalize computation.measure = measure at supported given
    cases measures_of_measure? supported with
    | documents | values | groups | intervals | metric => cases given
    | ranks field =>
      have found := (Option.filter_eq_some_iff.mp given).1
      exact (storable.options aggregation listed).entry (Json.mem_of_lookup found)
  · rw [same] at supported
    exact Nat.lt_of_le_of_lt (groups_of_measure? supported) fits

/-- The envelope of a storable intent could have been read from text. -/
theorem isSettled_compile (index : String) (storable : intent.Storable)
    (fits : sizes.max < Json.integerLimit) :
    IsSettled (compile sizes index schema intent).envelope := by
  rw [compile_envelope]
  refine isSettled_envelope ?_ (isSettled_compiled_measures storable fits) ?_ ?_
  · exact isSettled_condition fun part member =>
      isSettled_clause (isSettled_compiled_operands storable part member)
  · exact Nat.lt_of_le_of_lt (Nat.min_le_right _ _) fits
  · change intent.offset.getD 0 < _
    cases given : intent.offset with
    | none => decide
    | some offset => exact storable.skipped offset given

end Query

namespace GeneratedQuery

variable {generated : GeneratedQuery}

/-- The text of every number of a query is read as that number. -/
structure NumbersReadBack (generated : GeneratedQuery) : Prop where
  floats : Legible generated.encode
  confidence : generated.intent.confidence.isFinite = true →
    Intent.ConfidenceReadBack generated.intent.confidence

theorem decode?_spelled (envelope : IsSettled generated.envelope)
    (intent : generated.intent.Storable) (finite : generated.intent.confidence.isFinite = true)
    (numbers : generated.NumbersReadBack) :
    decode? (spelled generated.encode) = some generated := by
  have legible := numbers.floats
  rw [encode] at legible ⊢
  have read := Intent.decode?_spelled intent (legible.found "intent" rfl) finite
    (numbers.confidence finite)
  rw [decode?, Json.fields?_spelled (by exact List.Sublist.refl _) (by decide)]
  simp [Json.Raw.string?, read, Json.value?_spelled envelope (legible.found "dsl" rfl)]

end GeneratedQuery

end AnalystQuery
