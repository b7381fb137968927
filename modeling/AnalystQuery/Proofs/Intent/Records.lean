import AnalystQuery.Proofs.Intent.Echo
import AnalystQuery.Proofs.Json.Spelling

/-! Records of intents. An intent whose free values could have been read from text is decoded from
its own record, field by field; every intent that comes from an answer is one of these. -/

namespace AnalystQuery

open Json (IsSettled Legible Raw spelled)

namespace Json

theorem nullable?_of_some {α : Type} {decode : Raw → Option α} {raw : Raw} {value : α}
    (noNull : decode .null = none) (decoded : decode raw = some value) :
    Raw.nullable? decode raw = some (some value) := by
  rw [Raw.nullable?, decoded]
  · rfl
  · rintro rfl
    cases noNull.symm.trans decoded

theorem optional_optionalEntry {α : Type} {write : α → Json} {decode : Raw → Option α}
    {held : Option α} (noNull : decode .null = none)
    (decoded : ∀ value ∈ held, decode (spelled (write value)) = some value) :
    (held.map write).elim (some none) (fun value => Raw.nullable? decode (spelled value)) =
      some held := by
  cases held with
  | none => rfl
  | some value => exact nullable?_of_some noNull (decoded value rfl)

theorem nullable?_ofOption (held : Option String) :
    Raw.nullable? Raw.string? (spelled (ofOption .string held)) = some held := by
  cases held <;> simp [ofOption, Raw.nullable?, Raw.string?]

theorem list?_spelled {α : Type} {write : α → Json} {decode : Raw → Option α} {items : List α}
    (each : ∀ item ∈ items, decode (spelled (write item)) = some item) :
    Raw.list? decode (spelled (.array (items.map write))) = some items := by
  rw [spelled_array, Raw.list?]
  induction items with
  | nil => rfl
  | cons item rest ih =>
    obtain ⟨first, others⟩ := List.forall_mem_cons.mp each
    rw [List.map_cons, List.map_cons, List.mapM_cons, first, ih others]
    rfl

theorem list?_strings (texts : List String) :
    Raw.list? Raw.string? (spelled (.strings texts)) = some texts :=
  list?_spelled fun text _ => by rw [spelled_string, Raw.string?]

theorem size?_spelled {count : Nat} (small : count < integerLimit) :
    Raw.size? (spelled (.natural count)) = some count := by
  have valued : (integerLiteral count).value? = some (.integer count) :=
    value?_integerLiteral ⟨by omega, by omega⟩
  have fits : (decide ((0 : Int) ≤ count) && decide ((count : Int).toNat < Nat.pow 2 64)) = true := by
    rw [Bool.and_eq_true, decide_eq_true_eq, decide_eq_true_eq]
    exact ⟨Int.natCast_nonneg count, small⟩
  rw [natural, spelled, Raw.size?, Raw.natural?, valued]
  exact if_pos fits

theorem entries?_spelled {entries : List (String × Json)} (settled : IsSettled (.object entries))
    (legible : Legible (.object entries)) :
    (spelled (.object entries)).entries? = some entries := by
  have valued := value?_spelled settled legible
  rw [spelled_object] at valued ⊢
  obtain ⟨values, read, same⟩ := Option.map_eq_some_iff.mp valued
  rw [Raw.entries?, read]
  exact congrArg some (Json.object.inj same)

end Json

theorem IntentKind.decode?_spelled (kind : IntentKind) :
    IntentKind.decode? (spelled (.string kind.name)) = some kind := by
  rw [Json.spelled_string, decode?]
  cases kind <;> decide

theorem Operator.decode?_spelled (operator : Operator) :
    Operator.decode? (spelled (.string operator.name)) = some operator := by
  rw [Json.spelled_string, decode?]
  cases operator <;> decide

theorem AggregationKind.decode?_spelled (kind : AggregationKind) :
    AggregationKind.decode? (spelled (.string kind.name)) = some kind := by
  rw [Json.spelled_string, decode?]
  cases kind <;> decide

theorem SortOrder.decode?_spelled (order : SortOrder) :
    SortOrder.decode? (spelled (.string order.name)) = some order := by
  rw [Json.spelled_string, decode?]
  cases order <;> decide

theorem Calendar.TimeRange.decode?_spelled (range : Calendar.TimeRange) :
    Calendar.TimeRange.decode? (spelled range.encode) = some range := by
  rw [encode, decode?, Json.fields?_spelled (by exact List.Sublist.refl _) (by decide)]
  simp [Raw.string?]

theorem SortKey.decode?_spelled (sort : SortKey) :
    SortKey.decode? (spelled sort.encode) = some sort := by
  rw [encode, decode?, Json.fields?_spelled (by exact List.Sublist.refl _) (by decide)]
  have order := SortOrder.decode?_spelled sort.order
  rw [Json.spelled_string] at order
  simp [Raw.string?, order]

theorem Filter.decode?_spelled {filter : Filter} (settled : IsSettled filter.value)
    (legible : Legible filter.value) : Filter.decode? (spelled filter.encode) = some filter := by
  rw [encode, decode?, Json.fields?_spelled (by exact List.Sublist.refl _) (by decide)]
  have operator := Operator.decode?_spelled filter.operator
  rw [Json.spelled_string] at operator
  simp [Raw.string?, operator, Json.value?_spelled settled legible]

theorem Aggregation.decode?_spelled {aggregation : Aggregation}
    (settled : IsSettled (.object aggregation.options))
    (legible : Legible (.object aggregation.options)) :
    Aggregation.decode? (spelled aggregation.encode) = some aggregation := by
  rw [encode, decode?, Json.fields?_spelled (by exact List.Sublist.refl _) (by decide)]
  have kind := AggregationKind.decode?_spelled aggregation.kind
  have options := Json.entries?_spelled settled legible
  rw [Json.spelled_string] at kind
  rw [Json.spelled_object] at options
  simp [kind, options, Json.nullable?_ofOption]

/-- Where each category is given the values of other entities, these are all there is. -/
theorem Entities.get_foldl_set (entities : Entities) {category : Category}
    (categories : List Category) (start : Entities)
    (given : category ∈ categories ∨ start.get category = entities.get category) :
    (categories.foldl (fun built category => built.set category (entities.get category)) start).get
      category = entities.get category := by
  induction categories generalizing start with
  | nil => exact given.resolve_left List.not_mem_nil
  | cons first rest ih =>
    refine ih _ ?_
    by_cases same : category = first
    · exact Or.inr (same ▸ get_set_self start category (entities.get category))
    · rw [get_set_of_ne same]
      exact given.imp_left fun member => (List.mem_cons.mp member).resolve_left same

theorem Entities.decode?_spelled (entities : Entities) :
    Entities.decode? (spelled entities.encode) = some entities := by
  have listed (category : Category) : Json.lookup category.name
      (Category.all.map fun category => (category.name, Json.strings (entities.get category))) =
      some (.strings (entities.get category)) := by
    cases category <;> rfl
  rw [encode, decode?, Json.fields?_spelled (by exact List.Sublist.refl _) (by decide)]
  simp only [Option.bind_eq_bind, Option.bind_some, Json.optional_writtenFields, listed,
    Option.elim_some, Json.list?_strings, List.foldlM_pure]
  refine congrArg some (ext_get fun category => ?_)
  exact get_foldl_set entities Category.all empty (Or.inl (by cases category <;> decide))

namespace Intent

open Calendar (Instant)
open Number (Binary Single)

variable {depth : Nat} {offset : Int} {intent : Intent}

/-- An intent whose free values could have been read from text, with counts that fit. -/
structure Storable (intent : Intent) : Prop where
  values : ∀ filter ∈ intent.filters, IsSettled filter.value
  options : ∀ aggregation ∈ intent.aggregations, IsSettled (.object aggregation.options)
  size : ∀ size ∈ intent.size, size < Json.integerLimit
  skipped : ∀ offset ∈ intent.offset, offset < Json.integerLimit

theorem NormalIntent.storable (normal : NormalIntent depth offset intent) : Storable intent :=
  ⟨fun filter member => ⟨_, (normal.filters filter member).value⟩,
    fun aggregation member => ⟨_, (normal.aggregations aggregation member).options⟩,
    normal.size, normal.skipped⟩

/-- Whatever becomes of an answer, the intent to go on with is storable. -/
theorem storable_normalize (confidences : Confidences) (now : Instant) (answer : String) :
    Storable (normalize confidences now answer).intent := by
  cases outcome : normalize confidences now answer with
  | parsed intent =>
    obtain ⟨start, span, entries, readAt, rfl⟩ :=
      (normalize_eq_parsed_iff confidences now answer intent).mp outcome
    have settled : Json.Settled (123 + 4) (.object entries) := Json.settled_of_read? readAt.valid
    exact (normal_ofEntries confidences now settled).storable
  | degraded failure confidence =>
    exact ⟨List.forall_mem_nil _, List.forall_mem_nil _, nofun, nofun⟩

def written (intent : Intent) : Entries :=
  [("intent", .string intent.kind.name),
    ("entities", intent.entities.encode),
    ("filters", .array (intent.filters.map Filter.encode)),
    ("aggregations", .array (intent.aggregations.map Aggregation.encode))] ++
  Json.optionalEntry "time_range" Calendar.TimeRange.encode intent.timeRange ++
  Json.optionalEntry "sort" SortKey.encode intent.sort ++
  Json.optionalEntry "size" Json.natural intent.size ++
  Json.optionalEntry "from" Json.natural intent.offset ++
  [("confidence", Json.ofSingle intent.confidence),
    ("parse_failed", .bool intent.parseFailed)] ++
  Json.optionalEntry "parse_failure_reason" .string intent.failureReason

theorem encode_eq (intent : Intent) : intent.encode = .object intent.written := rfl

theorem keys_written (intent : Intent) :
    (intent.written.map Prod.fst).Sublist fieldNames := by
  have names : fieldNames = ["intent", "entities", "filters", "aggregations"] ++ ["time_range"] ++
      ["sort"] ++ ["size"] ++ ["from"] ++ ["confidence", "parse_failed"] ++
      ["parse_failure_reason"] := rfl
  rw [names]
  simp only [written, List.map_append]
  exact ((((((List.Sublist.refl _).append (keys_optionalEntry _ _ _)).append
    (keys_optionalEntry _ _ _)).append (keys_optionalEntry _ _ _)).append
    (keys_optionalEntry _ _ _)).append (List.Sublist.refl _)).append (keys_optionalEntry _ _ _)

/-- A confidence is decoded from its text as it was. -/
def ConfidenceReadBack (confidence : Single) : Prop :=
  (Json.readFloat? (Json.ofSingle confidence).compact).map Binary.convert = some confidence

instance (confidence : Single) : Decidable (ConfidenceReadBack confidence) :=
  inferInstanceAs (Decidable (_ = _))

theorem exists_ofSingle {confidence : Single} (finite : confidence.isFinite = true) :
    ∃ number, Json.ofSingle confidence = .float number := by
  rw [Json.ofSingle, finite]
  by_cases zero : confidence.isZero = true
  · exact ⟨_, if_pos zero⟩
  · exact ⟨_, if_neg zero⟩

theorem single?_ofSingle {confidence : Single} (finite : confidence.isFinite = true)
    (legible : Legible (Json.ofSingle confidence)) (back : ConfidenceReadBack confidence) :
    Raw.single? (spelled (Json.ofSingle confidence)) = some confidence := by
  obtain ⟨number, written⟩ := exists_ofSingle finite
  rw [ConfidenceReadBack, written] at back
  rw [written] at legible ⊢
  have read := legible number (by simp [Json.floats])
  rw [read, Option.map_some] at back
  rw [spelled, Raw.single?, (Json.readsBack_cases read).2]
  exact back

theorem decode?_spelled (storable : Storable intent) (legible : Legible intent.encode)
    (finite : intent.confidence.isFinite = true)
    (confidence : ConfidenceReadBack intent.confidence) :
    decode? (spelled intent.encode) = some intent := by
  rw [encode_eq] at legible ⊢
  have kind : Json.lookup "intent" intent.written = some (.string intent.kind.name) := rfl
  have entities : Json.lookup "entities" intent.written = some intent.entities.encode := rfl
  have filters : Json.lookup "filters" intent.written =
      some (.array (intent.filters.map Filter.encode)) := rfl
  have aggregations : Json.lookup "aggregations" intent.written =
      some (.array (intent.aggregations.map Aggregation.encode)) := rfl
  have timeRange : Json.lookup "time_range" intent.written =
      intent.timeRange.map Calendar.TimeRange.encode := by simp [written]
  have sort : Json.lookup "sort" intent.written = intent.sort.map SortKey.encode := by
    simp [written]
  have size : Json.lookup "size" intent.written = intent.size.map Json.natural := by
    simp [written]
  have offset : Json.lookup "from" intent.written = intent.offset.map Json.natural := by
    simp [written]
  have stated : Json.lookup "confidence" intent.written =
      some (Json.ofSingle intent.confidence) := by simp [written]
  have failed : Json.lookup "parse_failed" intent.written = some (.bool intent.parseFailed) := by
    simp [written]
  have reason : Json.lookup "parse_failure_reason" intent.written =
      intent.failureReason.map Json.string := by simp [written]
  have eachFilter : Raw.list? Filter.decode?
      (spelled (.array (intent.filters.map Filter.encode))) = some intent.filters := by
    refine Json.list?_spelled fun filter member => Filter.decode?_spelled ?_ ?_
    · exact storable.values filter member
    · exact ((legible.found _ filters).item (List.mem_map_of_mem member)).found "value" rfl
  have eachAggregation : Raw.list? Aggregation.decode?
      (spelled (.array (intent.aggregations.map Aggregation.encode))) =
        some intent.aggregations := by
    refine Json.list?_spelled fun aggregation member => Aggregation.decode?_spelled ?_ ?_
    · exact storable.options aggregation member
    · exact ((legible.found _ aggregations).item (List.mem_map_of_mem member)).found "options" rfl
  have single := single?_ofSingle finite (legible.found _ stated) confidence
  rw [decode?, Json.fields?_spelled (keys_written intent) (by decide), Option.bind_eq_bind,
    Option.bind_some]
  simp only [Json.required_writtenFields, Json.optional_writtenFields, kind, entities, filters,
    aggregations, timeRange, sort, size, offset, stated, failed, reason, Option.bind_some,
    IntentKind.decode?_spelled, Entities.decode?_spelled, eachFilter, eachAggregation, single]
  rw [Json.optional_optionalEntry rfl fun range _ => Calendar.TimeRange.decode?_spelled range,
    Json.optional_optionalEntry rfl fun sort _ => SortKey.decode?_spelled sort,
    Json.optional_optionalEntry rfl fun size held => Json.size?_spelled (storable.size size held),
    Json.optional_optionalEntry rfl
      fun offset held => Json.size?_spelled (storable.skipped offset held),
    Json.optional_optionalEntry rfl fun reason _ => by rw [Json.spelled_string, Raw.string?],
    Json.spelled_bool]
  rfl

end Intent

end AnalystQuery
