import AnalystQuery.Proofs.Query.AggregationKeys
import AnalystQuery.Proofs.Query.CompiledKeys
import AnalystQuery.Proofs.Query.Comparisons
import AnalystQuery.Proofs.Query.Computations
import AnalystQuery.Query.References

/-! The types of the fields that compiled queries are about. Bounds, sorting and aggregations are
only put on fields whose type allows them. Comparisons with values may miss the type of a field:
the fields that may hold a category are taken as they are, whatever their types. -/

namespace AnalystQuery.Query

variable {schema : Schema} {sizes : Sizes} {index : String} {intent : Intent}

/-- The schema has a field of this name, of a type that suits. -/
def Typed (schema : Schema) (suits : FieldType → Prop) (name : String) : Prop :=
  ∃ field, schema.field? name = some field ∧ suits field.type

theorem typed_of_mem {suits : FieldType → Prop} {field : Field}
    (distinct : (schema.fields.map (·.name)).Nodup) (member : field ∈ schema.fields)
    (suited : suits field.type) : Typed schema suits field.name :=
  ⟨field, Schema.field?_of_mem distinct member, suited⟩

/-- Wherever values are compared, they are compared with one field, and that is not text. -/
def ComparesNoText (schema : Schema) (query : Json) : Prop :=
  ∀ clause ∈ comparisonClauses, ∀ body, Stands .clause query .clause clause body →
    ∃ name operand, body = single name operand ∧ Typed schema (· ≠ .text) name

/-- An aggregation of this kind, with this body, is in the block of aggregations. -/
def Aggregates (query : GeneratedQuery) (kind : String) (body : Json) : Prop :=
  ∃ entry ∈ entriesUnder "aggs" query.envelope, entry.2.get? kind = some body

def About (schema : Schema) (suits : FieldType → Prop) (body : Json) : Prop :=
  ∃ name, body.get? "field" = some (.string name) ∧ Typed schema suits name

def numericKinds : List String := ["avg", "sum", "min", "max", "percentiles"]

/-- Bounds, sorting and aggregations suit the types of their fields. -/
structure WellTyped (schema : Schema) (query : GeneratedQuery) : Prop where
  bounded : ∀ body, Stands .clause query.query .clause "range" body →
    ∃ name bounds, body = single name bounds ∧
      Typed schema (fun type => type.isNumeric = true ∨ type = .date) name
  sorted : ∀ sorting, query.sort? = some sorting → ∀ name ∈ sortFields sorting,
    Typed schema (·.isExact = true) name
  grouped : ∀ body, Aggregates query "terms" body → About schema (·.isExact = true) body
  measured : ∀ kind ∈ numericKinds, ∀ body, Aggregates query kind body →
    About schema (·.isNumeric = true) body
  binned : ∀ body, Aggregates query "date_histogram" body → About schema (· = .date) body

theorem bounded_of_range {part : Role × Clause} {leaf : Leaf}
    (given : part ∈ compiledClauses sizes schema intent) (made : leaf ∈ part.2.leaves)
    (range : leaf.keyword = "range") :
    ∃ field ∈ schema.fields, (field.type.isNumeric = true ∨ field.type = .date) ∧
      ∃ bounds, leaf.contents = single field.name bounds := by
  have other : "range" ∉ comparisonClauses := by decide
  obtain ⟨role, clause⟩ := part
  -- Categories are never bounded, and filters only where their field is ordered.
  rcases (mem_compiledClauses_iff sizes schema intent).mp given with
    ⟨category, values, -, derived⟩ | ⟨filter, -, field, condition, found, rfl, derived⟩ |
      ⟨window, -, field, found, -, rfl⟩
  · rcases derived.leaf_cases leaf made with ⟨searched, text, rfl⟩ | ⟨field, accepted, rfl⟩
    · simp [Leaf.keyword] at range
    · exact absurd (range ▸ keyword_oneOfLeaf field accepted) other
  · obtain rfl := List.mem_singleton.mp made
    generalize filter.operator = operator at derived
    cases derived with
    | bounded operator ordering given ordered =>
      exact ⟨field, Schema.mem_of_field? found, ordered, _, rfl⟩
    | compared =>
      rcases keyword_equalityLeaf field filter.value
        (acceptedValues field (valueTexts filter.value)) with ⟨keyword, -⟩ | ⟨keyword, -⟩
      · rw [range] at keyword
        simp at keyword
      · exact absurd (range ▸ keyword) other
    | present | contained => simp [Leaf.keyword] at range
  · obtain rfl := List.mem_singleton.mp made
    exact ⟨field, Schema.mem_of_timeField? found, Or.inr (Schema.date_of_timeField? found), _, rfl⟩

theorem sorted_compile {sorting : Json} {name : String}
    (given : (compile sizes index schema intent).sort? = some sorting)
    (member : name ∈ sortFields sorting) :
    ∃ field ∈ schema.fields, field.type.isExact = true ∧ name = field.name := by
  rw [GeneratedQuery.sort?, compile_envelope, Envelope.get?_sort] at given
  obtain ⟨sort, chosen, rfl⟩ := Option.map_eq_some_iff.mp given
  have own : name = sort.field := by
    simpa [sortFields, sortEntryFields, SortKey.encodeEntry] using member
  rw [own]
  exact chooseSort_exact chosen

/-- The type that an aggregation of this kind needs of its field. -/
def Suited (kind : String) (type : FieldType) : Prop :=
  (kind = "terms" → type.isExact = true) ∧ (kind ∈ numericKinds → type.isNumeric = true) ∧
    (kind = "date_histogram" → type = .date)

def typedKinds : List String := "terms" :: "date_histogram" :: numericKinds

def Measure.keyword : Measure → String
  | .documentCount => "filter"
  | .valueCount _ => "value_count"
  | .terms _ _ => "terms"
  | .dateHistogram _ _ => "date_histogram"
  | .percentiles _ _ => "percentiles"
  | .metric kind _ => kind.name

theorem Measure.encode_eq_single (measure : Measure) :
    ∃ body, measure.encode = single measure.keyword body ∧
      ∀ field ∈ measure.field?, body.get? "field" = some (.string field) := by
  rcases measure with _ | _ | _ | _ | ⟨field, _ | percents⟩ | _ <;>
    refine ⟨_, rfl, ?_⟩ <;> rintro name ⟨⟩ <;> rfl

theorem Measures.suited {aggregation : Aggregation} {field : Option Field} {measure : Measure}
    (measures : Measures aggregation field measure)
    (dated : aggregation.kind = .dateHistogram → ∀ own ∈ field, own.type = .date)
    (typed : measure.keyword ∈ typedKinds) :
    ∃ own, field = some own ∧ measure.field? = some own.name ∧
      Suited measure.keyword own.type := by
  cases measures with
  | documents | values => simp [Measure.keyword, typedKinds, numericKinds] at typed
  | groups field size grouping exact =>
    exact ⟨field, rfl, rfl, by simp [Measure.keyword, Suited, numericKinds, exact]⟩
  | intervals field interval binning =>
    have date := dated binning field rfl
    exact ⟨field, rfl, rfl, by simp [Measure.keyword, Suited, numericKinds, date]⟩
  | ranks field ranking numeric =>
    exact ⟨field, rfl, rfl, by simp [Measure.keyword, Suited, numeric]⟩
  | metric field computing numeric =>
    have plain : ∀ kind ∈ metricKinds, kind.name ∉ ["terms", "date_histogram"] := by decide
    have other := plain aggregation.kind computing
    exact ⟨field, rfl, rfl, by simp_all [Measure.keyword, Suited]⟩

theorem aggregates_compile {kind : String} {body : Json} (typed : kind ∈ typedKinds)
    (aggregates : Aggregates (compile sizes index schema intent) kind body) :
    ∃ field ∈ schema.fields, body.get? "field" = some (.string field.name) ∧
      Suited kind field.type := by
  obtain ⟨entry, listed, found⟩ := aggregates
  rw [compile_envelope, Envelope.entriesUnder_aggs, mem_aggregation_block] at listed
  obtain ⟨computation, lasts, rfl⟩ := listed
  obtain ⟨aggregation, -, supported⟩ := supported_of_mem_computations lasts.mem
  obtain ⟨contents, written, about⟩ := computation.measure.encode_eq_single
  rw [written, get?_single] at found
  obtain ⟨rfl, ⟨⟩⟩ := Option.ite_none_right_eq_some.mp found
  obtain ⟨field, chosen, named, suited⟩ := (measures_of_measure? supported).suited
    (fun binning own found => date_of_aggregationField? binning found) typed
  exact ⟨field, mem_of_aggregationField? chosen, about field.name named, suited⟩

/-- Where a category has values that are kept, none of the fields that may hold it is text. -/
def NoTextCandidates (schema : Schema) (intent : Intent) : Prop :=
  ∀ entry ∈ intent.entities.toList, ∀ primary ∈ (presentFields schema entry.1).head?,
    acceptedValues primary entry.2 ≠ [] →
      ∀ field ∈ presentFields schema entry.1, field.type ≠ .text

instance (schema : Schema) (intent : Intent) : Decidable (NoTextCandidates schema intent) :=
  inferInstanceAs (Decidable (∀ entry ∈ intent.entities.toList, _))

theorem Comparison.whole {leaf : Leaf} (comparison : Comparison schema intent leaf)
    (textless : NoTextCandidates schema intent) :
    ∃ field ∈ schema.fields, field.type ≠ .text ∧
      ∃ operand, leaf.contents = single field.name operand := by
  cases comparison with
  | @category category values primary field others named present kept candidate =>
    obtain ⟨operand, contents, -⟩ := contents_oneOfLeaf field (acceptedValues primary values)
    have member : field ∈ schema.fields := mem_of_mem_presentFields (present ▸ candidate)
    have first : primary ∈ (presentFields schema category).head? := by simp [present]
    have whole := textless (category, values) named primary first kept field (present ▸ candidate)
    exact ⟨field, member, whole, operand, contents⟩
  | @filter filter field role listed found equality given kept whole =>
    obtain ⟨operand, contents, -⟩ := contents_equalityLeaf filter.value
      (acceptedValues field (valueTexts filter.value)) whole
    exact ⟨field, Schema.mem_of_field? found, whole, operand, contents⟩

theorem single_injective {name other : String} {value operand : Json}
    (same : single name value = single other operand) : name = other ∧ value = operand := by
  simpa [single] using same

theorem comparesNoText_iff (distinct : (schema.fields.map (·.name)).Nodup) :
    ComparesNoText schema (compile sizes index schema intent).query ↔
      NoTextCandidates schema intent := by
  constructor
  · rintro typed ⟨category, values⟩ named primary first kept field candidate text
    have member : field ∈ schema.fields := mem_of_mem_presentFields candidate
    obtain ⟨clause, compares, operand, stands, -⟩ :=
      category_stands sizes index named first kept candidate
    obtain ⟨name, other, same, own, found, whole⟩ := typed clause compares _ stands
    obtain ⟨rfl, -⟩ := single_injective same
    rw [Schema.field?_of_mem distinct member] at found
    obtain rfl := Option.some.inj found
    exact whole text
  · intro textless clause compares body stands
    obtain ⟨leaf, comparison, -, rfl⟩ :=
      (comparison_stands_iff sizes index schema intent compares).mp stands
    obtain ⟨field, member, whole, operand, contents⟩ := comparison.whole textless
    exact ⟨field.name, operand, contents, typed_of_mem distinct member whole⟩

theorem about_compile (distinct : (schema.fields.map (·.name)).Nodup) {kind : String} {body : Json}
    {suits : FieldType → Prop} (typed : kind ∈ typedKinds)
    (aggregates : Aggregates (compile sizes index schema intent) kind body)
    (enough : ∀ type, Suited kind type → suits type) : About schema suits body := by
  obtain ⟨field, member, named, suited⟩ := aggregates_compile typed aggregates
  exact ⟨field.name, named, typed_of_mem distinct member (enough _ suited)⟩

theorem wellTyped_compile (distinct : (schema.fields.map (·.name)).Nodup) :
    WellTyped schema (compile sizes index schema intent) := by
  constructor
  case bounded =>
    intro body stands
    rw [query_compile, clause_stands_iff (by decide)] at stands
    obtain ⟨part, given, leaf, made, range, rfl⟩ := stands
    obtain ⟨field, member, ordered, bounds, contents⟩ := bounded_of_range given made range.symm
    exact ⟨field.name, bounds, contents, typed_of_mem distinct member ordered⟩
  case sorted =>
    intro sorting given name member
    obtain ⟨field, listed, exact, rfl⟩ := sorted_compile given member
    exact typed_of_mem distinct listed exact
  case grouped =>
    intro body aggregates
    exact about_compile distinct (by decide) aggregates fun type suited => suited.1 rfl
  case measured =>
    intro kind numeric body aggregates
    have typed : kind ∈ typedKinds := List.mem_cons_of_mem _ (List.mem_cons_of_mem _ numeric)
    exact about_compile distinct typed aggregates fun type suited => suited.2.1 numeric
  case binned =>
    intro body aggregates
    exact about_compile distinct (by decide) aggregates fun type suited => suited.2.2 rfl

/-- Among fields with distinct names, all bounds, sorting and aggregations of compiled queries
suit the types of their fields, and no text is compared with values if and only if no text field
may hold a category whose values are kept. -/
theorem compiled_wellTyped (sizes : Sizes) (index : String) (schema : Schema) (intent : Intent)
    (distinct : (schema.fields.map (·.name)).Nodup) :
    let query := compile sizes index schema intent
    WellTyped schema query ∧
      (ComparesNoText schema query.query ↔ NoTextCandidates schema intent) :=
  ⟨wellTyped_compile distinct, comparesNoText_iff distinct⟩

private def mails : Schema :=
  ⟨[⟨"sent_at", .date, none⟩, ⟨"channel", .keyword, none⟩, ⟨"score", .float, none⟩,
    ⟨"body", .text, none⟩]⟩

private def lowScores : Intent :=
  { Intent.plain .aggregate .zero with
    entities := Entities.empty.set .channels ["email"]
    filters := [⟨"score", .lt, .integer 0⟩, ⟨"body", .eq, .string "refund"⟩]
    aggregations := [⟨.avg, some "score", none, []⟩, ⟨.dateHistogram, none, none, []⟩] }

theorem low_scores_wellTyped :
    (mails.fields.map (·.name)).Nodup ∧
      let query := compile ⟨20, 100⟩ "communications" mails lowScores
      WellTyped mails query ∧ ComparesNoText mails query.query := by
  have distinct : (mails.fields.map (·.name)).Nodup := by decide
  have textless : NoTextCandidates mails lowScores := by decide
  obtain ⟨typed, compared⟩ :=
    compiled_wellTyped ⟨20, 100⟩ "communications" mails lowScores distinct
  exact ⟨distinct, typed, compared.mpr textless⟩

/-- Topics are compared with the whole of a text field that is called like them. -/
theorem text_compared_with_topics :
    ¬ ∀ (sizes : Sizes) (index : String) (schema : Schema) (intent : Intent),
      (schema.fields.map (·.name)).Nodup →
        let query := compile sizes index schema intent
        WellTyped schema query ∧ ComparesNoText schema query.query := by
  intro always
  let schema : Schema := ⟨[⟨"topics", .text, none⟩]⟩
  let billing : Intent :=
    { Intent.plain .search .zero with entities := Entities.empty.set .topics ["billing"] }
  have distinct : (schema.fields.map (·.name)).Nodup := by decide
  have compared := (always ⟨20, 100⟩ "communications" schema billing distinct).2
  have candidate : ¬ NoTextCandidates schema billing := by decide
  exact candidate ((comparesNoText_iff distinct).mp compared)

end AnalystQuery.Query
