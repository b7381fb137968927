import AnalystQuery.Proofs.Json.Entries
import AnalystQuery.Proofs.Query.AggregationKeys
import AnalystQuery.Proofs.Query.Clauses

/-! The accepted aggregations of a compiled query: what they compute fits the schema, and those
that last, because no later one takes their key, make up the block of aggregations. -/

namespace AnalystQuery.Query

variable {schema : Schema}

def metricKinds : List AggregationKind := [.avg, .sum, .min, .max]

def Measure.field? : Measure → Option String
  | .documentCount => none
  | .valueCount field => some field
  | .terms field _ => some field
  | .dateHistogram field _ => some field
  | .percentiles field _ => some field
  | .metric _ field => some field

/-- How a measure comes from an aggregation and its field. -/
inductive Measures (aggregation : Aggregation) : Option Field → Measure → Prop where
  | documents (counting : aggregation.kind = .count) : Measures aggregation none .documentCount
  | values (field : Field) (counting : aggregation.kind = .count) :
      Measures aggregation (some field) (.valueCount field.name)
  | groups (field : Field) (size : Nat) (grouping : aggregation.kind = .terms)
      (exact : field.type.isExact = true) :
      Measures aggregation (some field) (.terms field.name size)
  | intervals (field : Field) (interval : String) (binning : aggregation.kind = .dateHistogram) :
      Measures aggregation (some field) (.dateHistogram field.name interval)
  | ranks (field : Field) (ranking : aggregation.kind = .percentiles)
      (numeric : field.type.isNumeric = true) :
      Measures aggregation (some field) (.percentiles field.name
        ((Json.lookup "percents" aggregation.options).filter (·.asArray?.isSome)))
  | metric (field : Field) (computing : aggregation.kind ∈ metricKinds)
      (numeric : field.type.isNumeric = true) :
      Measures aggregation (some field) (.metric aggregation.kind field.name)

theorem measures_of_measure? {sizes : Sizes} {aggregation : Aggregation} {field : Option Field}
    {measure : Measure} (supported : measure? sizes aggregation field = some measure) :
    Measures aggregation field measure := by
  unfold measure? at supported
  cases field with
  | none =>
    cases kind : aggregation.kind <;> simp only [kind] at supported <;> try contradiction
    obtain ⟨-, ⟨⟩⟩ := Option.ite_none_right_eq_some.mp supported
    exact .documents kind
  | some field =>
    cases kind : aggregation.kind <;> simp only [kind] at supported
    case count =>
      cases supported
      exact .values field kind
    case dateHistogram =>
      cases supported
      exact .intervals field _ kind
    case terms =>
      obtain ⟨exact, ⟨⟩⟩ := Option.ite_none_right_eq_some.mp supported
      exact .groups field _ kind exact
    case percentiles =>
      obtain ⟨numeric, ⟨⟩⟩ := Option.ite_none_right_eq_some.mp supported
      exact .ranks field kind numeric
    case avg | sum | min | max =>
      obtain ⟨numeric, ⟨⟩⟩ := Option.ite_none_right_eq_some.mp supported
      rw [← kind]
      exact .metric field (by rw [kind]; decide) numeric

theorem groups_of_measure? {sizes : Sizes} {aggregation : Aggregation} {field : Option Field}
    {name : String} {groups : Nat}
    (supported : measure? sizes aggregation field = some (.terms name groups)) :
    groups ≤ sizes.max := by
  unfold measure? at supported
  cases field with
  | none =>
    cases kind : aggregation.kind <;> simp only [kind] at supported <;> try contradiction
    cases (Option.ite_none_right_eq_some.mp supported).2
  | some field =>
    cases kind : aggregation.kind <;> simp only [kind] at supported
    case terms =>
      cases (Option.ite_none_right_eq_some.mp supported).2
      exact Nat.min_le_right _ _
    case count | dateHistogram => cases supported
    case percentiles | avg | sum | min | max =>
      cases (Option.ite_none_right_eq_some.mp supported).2

/-- The field of a measure is in the schema, and a metric is of one of the metric kinds. -/
structure Measure.Fits (schema : Schema) (measure : Measure) : Prop where
  field_known : ∀ field ∈ measure.field?, schema.hasField field = true
  metric_kind : ∀ kind field, measure = .metric kind field → kind ∈ metricKinds

theorem mem_of_aggregationField? {aggregation : Aggregation} {field : Field}
    (found : aggregationField? schema aggregation = some field) : field ∈ schema.fields := by
  unfold aggregationField? at found
  split at found
  · exact Schema.mem_of_field? (Option.filter_eq_some_iff.mp found).1
  · exact Schema.mem_of_timeField? found
  · exact Schema.mem_of_field? found
  · cases found

theorem date_of_aggregationField? {aggregation : Aggregation} {field : Field}
    (binning : aggregation.kind = .dateHistogram)
    (found : aggregationField? schema aggregation = some field) : field.type = .date := by
  rw [aggregationField?, binning] at found
  cases named : aggregation.field with
  | none =>
    rw [named] at found
    exact Schema.date_of_timeField? found
  | some name =>
    rw [named] at found
    simpa using (Option.filter_eq_some_iff.mp found).2

private theorem Measure.Fits.of_field {measure : Measure}
    (known : ∀ field ∈ measure.field?, schema.hasField field = true)
    (plain : ∀ kind field, measure ≠ .metric kind field) : measure.Fits schema :=
  ⟨known, fun kind field same => absurd same (plain kind field)⟩

theorem fits_of_measure? {sizes : Sizes} {aggregation : Aggregation} {measure : Measure}
    (supported : measure? sizes aggregation (aggregationField? schema aggregation) = some measure) :
    measure.Fits schema := by
  have known (field : Field) (found : aggregationField? schema aggregation = some field) :
      ∀ name ∈ some field.name, schema.hasField name = true := by
    rintro name ⟨⟩
    exact Schema.hasField_of_mem (mem_of_aggregationField? found)
  generalize found : aggregationField? schema aggregation = field at supported
  cases measures_of_measure? supported with
  | documents =>
    exact .of_field (fun _ absent => by cases absent) (fun _ _ other => by cases other)
  | values field | groups field | intervals field | ranks field =>
    exact .of_field (known field found) (fun _ _ other => by cases other)
  | metric field computing =>
    refine ⟨known field found, ?_⟩
    rintro kind name ⟨⟩
    exact computing

theorem compiled_measures_fit (sizes : Sizes) (schema : Schema) (intent : Intent) :
    ∀ computation ∈ (plan sizes schema intent).1.computations, computation.measure.Fits schema := by
  intro computation member
  obtain ⟨aggregation, -, supported⟩ := supported_of_mem_computations member
  exact fits_of_measure? supported

/-- A computation lasts if no later one has its key. -/
def Lasts (computations : List Computation) (computation : Computation) : Prop :=
  ∃ before after, computations = before ++ computation :: after ∧
    ∀ other ∈ after, other.key ≠ computation.key

theorem Lasts.mem {computations : List Computation} {computation : Computation}
    (lasts : Lasts computations computation) : computation ∈ computations := by
  obtain ⟨before, after, rfl, -⟩ := lasts
  simp

theorem lasting_blockEntries (envelope : Envelope) (entry : String × Json) :
    Json.Lasting envelope.blockEntries entry ↔
      ∃ computation, Lasts envelope.computations computation ∧
        entry = (computation.key, computation.measure.encode) := by
  constructor
  · rintro ⟨before, after, split, distinct⟩
    obtain ⟨first, rest, computations, -, later⟩ := List.map_eq_append_iff.mp split
    obtain ⟨computation, others, rfl, rfl, rfl⟩ := List.map_eq_cons_iff.mp later
    refine ⟨computation, ⟨first, others, computations, ?_⟩, rfl⟩
    intro other member
    exact distinct _ (List.mem_map_of_mem member)
  · rintro ⟨computation, ⟨before, after, split, distinct⟩, rfl⟩
    let entryOf := fun (computation : Computation) => (computation.key, computation.measure.encode)
    refine ⟨before.map entryOf, after.map entryOf, ?_, ?_⟩
    · rw [Envelope.blockEntries, split, List.map_append, List.map_cons]
    · intro entry member
      obtain ⟨other, later, rfl⟩ := List.mem_map.mp member
      exact distinct other later

theorem mem_aggregation_block (envelope : Envelope) (entry : String × Json) :
    entry ∈ Json.sortEntries envelope.blockEntries ↔
      ∃ computation, Lasts envelope.computations computation ∧
        entry = (computation.key, computation.measure.encode) := by
  rw [Json.mem_sortEntries, lasting_blockEntries]

theorem chooseSort_exact {requested : Option SortKey} {sort : SortKey}
    (chosen : (chooseSort schema requested).1 = some sort) :
    ∃ field ∈ schema.fields, field.type.isExact = true ∧ sort.field = field.name := by
  have latest (found : schema.timeField?.map (fun field => SortKey.mk field.name .descending) =
      some sort) : ∃ field ∈ schema.fields, field.type.isExact = true ∧ sort.field = field.name := by
    obtain ⟨field, timed, rfl⟩ := Option.map_eq_some_iff.mp found
    refine ⟨field, Schema.mem_of_timeField? timed, ?_, rfl⟩
    rw [Schema.date_of_timeField? timed]
    rfl
  unfold chooseSort at chosen
  split at chosen
  · exact latest chosen
  · split at chosen
    · rename_i field found
      cases chosen
      obtain ⟨present, exact⟩ := Option.filter_eq_some_iff.mp found
      exact ⟨field, Schema.mem_of_field? present, exact, rfl⟩
    · exact latest chosen

theorem chooseSort_known {requested : Option SortKey} {sort : SortKey}
    (chosen : (chooseSort schema requested).1 = some sort) : schema.hasField sort.field = true := by
  obtain ⟨field, member, -, named⟩ := chooseSort_exact chosen
  rw [named]
  exact Schema.hasField_of_mem member

end AnalystQuery.Query
