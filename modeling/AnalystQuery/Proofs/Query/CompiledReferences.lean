import AnalystQuery.Pipeline.Compiling
import AnalystQuery.Proofs.Query.Computations
import AnalystQuery.Proofs.Query.References
import Mathlib.Data.List.TakeWhile

/-! The fields that are found in a compiled query. Its conditions and its sorting refer to fields
of the schema only; among the aggregations the body of a computation can be mistaken for a
condition, or its percents for further aggregations. -/

namespace AnalystQuery.Query

variable {name : String}

theorem mem_queryFields_single (position : Position) (key : String) (body : Json) :
    name ∈ queryFields position (single key body) ↔
      position = .clause ∧ name ∈ clauseFields key body ∨
        name ∈ queryFields (position.child key) body := by
  rw [single, mem_queryFields_object]
  simp

private theorem keyed_references {key : String} (keyed : key ∈ fieldKeyedClauses)
    {field : String} {body : Json}
    (found : name ∈ queryFields .clause (single key (single field body))) : name = field := by
  have below : ∀ key ∈ fieldKeyedClauses, Position.child .clause key = .other := by decide
  rcases (mem_queryFields_single _ _ _).mp found with ⟨-, own⟩ | nested
  · rw [clauseFields, if_pos (List.contains_iff_mem.mpr keyed)] at own
    exact List.mem_singleton.mp (List.mem_filter.mp own).1
  · rw [below key keyed] at nested
    exact absurd nested (queryFields_other _)

theorem unweighted_of_plain (plain : '^' ∉ name.toList) : unweighted name = name := by
  have all : ∀ c ∈ name.toList, (c != '^') = true := by
    intro c member
    have different : c ≠ '^' := fun same => plain (same ▸ member)
    simpa using different
  rw [unweighted, List.takeWhile_eq_self_iff.mpr all, String.ofList_toList]

theorem leaf_references {leaf : Leaf} (plain : ∀ field ∈ leaf.fields, '^' ∉ field.toList)
    (found : name ∈ queryFields .clause leaf.encode) : name ∈ leaf.fields := by
  cases leaf with
  | term field | terms field | «matches» field | range field =>
    exact List.mem_singleton.mpr (keyed_references (by decide) found)
  | «exists» field =>
    rcases (mem_queryFields_single _ _ _).mp found with ⟨-, own⟩ | nested
    · exact own
    · exact absurd nested (queryFields_other _)
  | mentions fields text =>
    rcases (mem_queryFields_single _ _ _).mp found with ⟨-, own⟩ | nested
    · change name ∈ ((fields.map Json.string).filterMap Json.asString?).map unweighted at own
      obtain ⟨mentioned, member, rfl⟩ := List.mem_map.mp own
      rw [List.filterMap_map] at member
      obtain ⟨field, given, same⟩ := List.mem_filterMap.mp member
      obtain rfl := Option.some.inj same
      rw [unweighted_of_plain (plain field given)]
      exact given
    · exact absurd nested (queryFields_other _)

private theorem bool_references {entries : List (String × Json)}
    (plain : ∀ entry ∈ entries, entry.1 ≠ "fields")
    (found : name ∈ queryFields .clause (single "bool" (.object entries))) :
    ∃ entry ∈ entries, name ∈ queryFields (Position.boolBody.child entry.1) entry.2 := by
  rcases (mem_queryFields_single _ _ _).mp found with ⟨-, own⟩ | nested
  · have absent : Json.lookup "fields" entries = none := by
      rw [Json.lookup, Option.map_eq_none_iff, List.find?_eq_none]
      intro entry member
      simpa using plain entry member
    change name ∈ (((((Json.lookup "fields" entries).bind Json.asArray?).getD []).filterMap
      Json.asString?).map unweighted) at own
    rw [absent] at own
    cases own
  · obtain ⟨entry, member, ⟨impossible, -⟩ | below⟩ := (mem_queryFields_object _).mp nested
    · cases impossible
    · exact ⟨entry, member, below⟩

theorem clause_references {clause : Clause} (found : name ∈ queryFields .clause clause.encode) :
    ∃ leaf ∈ clause.leaves, name ∈ queryFields .clause leaf.encode := by
  cases clause with
  | leaf condition => exact ⟨condition, List.mem_singleton.mpr rfl, found⟩
  | anyOf leaves =>
    obtain ⟨entry, member, below⟩ := bool_references (by simp) found
    rcases List.mem_pair.mp member with rfl | rfl
    · cases below
    · obtain ⟨item, listed, inside⟩ := (mem_queryFields_array _).mp below
      obtain ⟨leaf, made, rfl⟩ := List.mem_map.mp listed
      exact ⟨leaf, made, inside⟩

theorem mem_roleEntry {condition : Condition} {key : String} {role : Role} {entry : String × Json}
    (member : entry ∈ condition.roleEntry key role) :
    entry = (key, .array ((condition.inRole role).map Clause.encode)) := by
  dsimp only [Condition.roleEntry] at member
  split at member
  · cases member
  · exact List.mem_singleton.mp member

theorem condition_references {condition : Condition}
    (found : name ∈ queryFields .clause condition.encode) :
    ∃ part ∈ condition.clauses, name ∈ queryFields .clause part.2.encode := by
  unfold Condition.encode at found
  split at found
  · cases found
  · have roles {entry : String × Json}
        (member : entry ∈ condition.roleEntry "filter" .filter ++
          condition.roleEntry "must" .must ++ condition.roleEntry "must_not" .mustNot) :
        entry.1 ∈ ["filter", "must", "must_not"] ∧
          ∃ role, entry.2 = .array ((condition.inRole role).map Clause.encode) := by
      rcases List.mem_append.mp member with either | excluded
      · rcases List.mem_append.mp either with restricted | counted
        · rw [mem_roleEntry restricted]
          exact ⟨by simp, _, rfl⟩
        · rw [mem_roleEntry counted]
          exact ⟨by simp, _, rfl⟩
      · rw [mem_roleEntry excluded]
        exact ⟨by simp, _, rfl⟩
    have noFields : ∀ key ∈ ["filter", "must", "must_not"], key ≠ "fields" := by decide
    obtain ⟨entry, member, below⟩ :=
      bool_references (fun entry member => noFields entry.1 (roles member).1) found
    obtain ⟨named, role, held⟩ := roles member
    have clausePosition : ∀ key ∈ ["filter", "must", "must_not"],
        Position.boolBody.child key = .clause := by decide
    rw [clausePosition entry.1 named, held, mem_queryFields_array] at below
    obtain ⟨item, listed, inside⟩ := below
    obtain ⟨clause, inRole, rfl⟩ := List.mem_map.mp listed
    obtain ⟨part, given, rfl⟩ := List.mem_map.mp inRole
    exact ⟨part, (List.mem_filter.mp given).1, inside⟩

/-- The names that are taken for fields at a computation although it is about none of them: those
in the body of a computation that is called `filter`, and those within percents. -/
def Computation.strayNames (computation : Computation) : List String :=
  if computation.key = "filter" then
    match computation.measure with
    | .terms _ _ => ["field", "size"]
    | _ => []
  else
    match computation.measure with
    | .percentiles _ (some percents) => aggregationFields percents
    | _ => []

/-- Under the key `filter`, only the body of a grouping looks like a condition. -/
private theorem references_as_filter {schema : Schema} {measure : Measure}
    (fit : measure.Fits schema) :
    name ∈ queryFields .clause measure.encode ↔
      name ∈ match measure with
        | .terms _ _ => ["field", "size"]
        | _ => [] := by
  cases measure with
  | metric kind field =>
    have metric := fit.metric_kind kind field rfl
    cases kind with
    | avg | sum | min | max => exact Iff.rfl
    | count | terms | dateHistogram | percentiles => exact absurd metric (by decide)
  | percentiles field percents =>
    refine iff_of_false ?_ List.not_mem_nil
    intro found
    cases percents <;>
    · rcases (mem_queryFields_single _ _ _).mp found with ⟨-, own⟩ | nested
      · cases own
      · exact queryFields_other _ nested
  | terms field size =>
    have read : clauseFields "terms" (.object [("field", .string field), ("size", .natural size)]) =
        ["field", "size"].filter (!isPermissiveKey ·) := rfl
    -- Neither name looks like a boost or a name of the engine, so both are reported.
    have kept : ["field", "size"].filter (!isPermissiveKey ·) = ["field", "size"] := by decide
    refine (mem_queryFields_single _ _ _).trans ⟨?_, ?_⟩
    · rintro (⟨-, own⟩ | nested)
      · rwa [read, kept] at own
      · exact absurd nested (queryFields_other _)
    · intro own
      exact Or.inl ⟨rfl, by rwa [read, kept]⟩
  | documentCount | valueCount | dateHistogram => exact Iff.rfl

/-- Under any other key, a measure refers to its field and to what its percents hold. -/
private theorem references_as_aggregation {schema : Schema} {measure : Measure}
    (fit : measure.Fits schema) :
    name ∈ aggregationFields measure.encode ↔
      name ∈ measure.field? ∨
        name ∈ match measure with
          | .percentiles _ (some percents) => aggregationFields percents
          | _ => [] := by
  have only (field : String) : name ∈ [field] ↔ name ∈ some field ∨ name ∈ ([] : List String) := by
    simp [eq_comm]
  cases measure with
  | metric kind field =>
    have metric := fit.metric_kind kind field rfl
    cases kind with
    | avg | sum | min | max => exact only field
    | count | terms | dateHistogram | percentiles => exact absurd metric (by decide)
  | documentCount => exact iff_of_false List.not_mem_nil (by simp [Measure.field?])
  | valueCount field | terms field | dateHistogram field => exact only field
  | percentiles field percents =>
    cases percents with
    | none => exact only field
    | some percents =>
      have read : aggregationFields (Measure.percentiles field (some percents)).encode =
          [field] ++ (aggregationFields percents ++ []) ++ [] := rfl
      rw [read]
      simp [Measure.field?, eq_comm]

theorem computation_references {schema : Schema} {computation : Computation}
    (fit : computation.measure.Fits schema) :
    name ∈ memberFields computation.key computation.measure.encode ↔
      name ∈ computation.strayNames ∨
        computation.key ≠ "filter" ∧ name ∈ computation.measure.field? := by
  unfold Computation.strayNames
  by_cases filter : computation.key = "filter"
  · have read : memberFields computation.key computation.measure.encode =
        queryFields .clause computation.measure.encode := if_pos filter
    rw [read, if_pos filter, references_as_filter fit]
    simp [filter]
  · have nested : computation.measure.encode.asString? = none := by
      rcases computation.measure with _ | _ | _ | _ | ⟨_, _ | _⟩ | _ <;> rfl
    rw [memberFields_nested filter nested, if_neg filter, references_as_aggregation fit, or_comm]
    simp [filter]

theorem mem_mentionedFields_encode (envelope : Envelope) :
    name ∈ mentionedFields envelope.encode ↔
      name ∈ queryFields .clause envelope.condition.encode ∨
      (∃ computation, Lasts envelope.computations computation ∧
        name ∈ memberFields computation.key computation.measure.encode) ∨
      ∃ sort, envelope.sort = some sort ∧ name = sort.field := by
  have aggregations : name ∈ (envelope.encode.get? "aggs").elim [] aggregationFields ↔
      ∃ computation, Lasts envelope.computations computation ∧
        name ∈ memberFields computation.key computation.measure.encode := by
    have block : (envelope.encode.get? "aggs").elim [] aggregationFields =
        aggregationFields (.ofEntries envelope.blockEntries) := by
      rw [Envelope.get?_aggs, Envelope.blockEntries]
      cases envelope.computations <;> rfl
    rw [block, Json.ofEntries, mem_aggregationFields_object]
    constructor
    · rintro ⟨entry, member, found⟩
      obtain ⟨computation, lasts, rfl⟩ := (mem_aggregation_block envelope entry).mp member
      exact ⟨computation, lasts, found⟩
    · rintro ⟨computation, lasts, found⟩
      exact ⟨_, (mem_aggregation_block envelope _).mpr ⟨computation, lasts, rfl⟩, found⟩
  have sorting : name ∈ (envelope.encode.get? "sort").elim [] sortFields ↔
      ∃ sort, envelope.sort = some sort ∧ name = sort.field := by
    rw [Envelope.get?_sort]
    cases envelope.sort with
    | none => simp
    | some sort => simp [sortFields, sortEntryFields, SortKey.encodeEntry]
  rw [mentionedFields, List.mem_append, List.mem_append, sorting, Envelope.get?_query,
    List.flatMap_cons, List.mem_append, aggregations, List.flatMap_singleton,
    Envelope.get?_aggregations, or_assoc]
  simp

/-- No name that an aggregation mentions astray is missing from the schema. -/
def NothingStray (schema : Schema) (computations : List Computation) : Prop :=
  ∀ computation, Lasts computations computation →
    ∀ name ∈ computation.strayNames, Known schema name

theorem compiled_query_known {sizes : Sizes} {schema : Schema} {intent : Intent}
    (plain : ∀ field ∈ schema.fields, '^' ∉ field.name.toList)
    (found : name ∈ queryFields .clause (plan sizes schema intent).1.condition.encode) :
    schema.hasField name = true := by
  obtain ⟨part, given, inPart⟩ := condition_references found
  obtain ⟨leaf, made, inLeaf⟩ := clause_references inPart
  have known := compiled_fields_known sizes schema intent part given leaf made
  have named := leaf_references (fun name mentioned => by
    obtain ⟨field, member, rfl⟩ := known name mentioned
    exact plain field member) inLeaf
  obtain ⟨field, member, rfl⟩ := known name named
  exact Schema.hasField_of_mem member

theorem unknownFields_encode_eq_nil_iff (sizes : Sizes) (schema : Schema) (intent : Intent)
    (plain : ∀ field ∈ schema.fields, '^' ∉ field.name.toList) :
    unknownFields (plan sizes schema intent).1.encode schema = [] ↔
      NothingStray schema (plan sizes schema intent).1.computations := by
  rw [unknownFields_eq_nil_iff]
  constructor
  · -- A stray name is mentioned like any other, so it must be known.
    intro allKnown computation lasts name stray
    have fit := compiled_measures_fit sizes schema intent computation lasts.mem
    refine allKnown name ((mem_mentionedFields_encode _).mpr (Or.inr (Or.inl ?_)))
    exact ⟨computation, lasts, (computation_references fit).mpr (Or.inl stray)⟩
  · intro nothingStray name mentioned
    rcases (mem_mentionedFields_encode _).mp mentioned with
      inQuery | ⟨computation, lasts, found⟩ | ⟨sort, chosen, rfl⟩
    · exact Or.inr (compiled_query_known plain inQuery)
    · have fit := compiled_measures_fit sizes schema intent computation lasts.mem
      rcases (computation_references fit).mp found with stray | ⟨-, own⟩
      · exact nothingStray computation lasts name stray
      · exact Or.inr (fit.field_known name own)
    · exact Or.inr (chooseSort_known chosen)

end AnalystQuery.Query

namespace AnalystQuery.Pipeline

theorem checkFields_run (pipeline : Pipeline) (schema : Schema) (query : GeneratedQuery)
    (session : Session) :
    (pipeline.checkFields schema query).run.run session =
      let unknown := Query.unknownFields query.envelope schema
      let entered :=
        { session with journal := session.journal ++ [.entered .schemaValidating] }
      if !unknown.isEmpty && pipeline.settings.pipeline.strictSchema then
        .done (.error (.validation (.unknownFields unknown)),
          { entered with journal := entered.journal ++ [.counted .validationFailures] })
      else .done (.ok (), entered) := by
  unfold checkFields
  by_cases refused : (!(Query.unknownFields query.envelope schema).isEmpty &&
      pipeline.settings.pipeline.strictSchema) = true
  · rw [if_pos refused, if_pos refused]
    rfl
  · rw [if_neg refused, if_neg refused]
    rfl

/-- Whether the check of fields lets a query pass in every session. -/
def AcceptsFields (pipeline : Pipeline) (schema : Schema) (query : GeneratedQuery) : Prop :=
  ∀ session, ∃ after, (pipeline.checkFields schema query).run.run session = .done (.ok (), after)

theorem acceptsFields_iff (pipeline : Pipeline) (schema : Schema) (query : GeneratedQuery)
    (strict : pipeline.settings.pipeline.strictSchema = true) :
    pipeline.AcceptsFields schema query ↔ Query.unknownFields query.envelope schema = [] := by
  constructor
  · intro accepts
    obtain ⟨after, passed⟩ := accepts (.fresh true)
    rw [checkFields_run] at passed
    cases unknown : Query.unknownFields query.envelope schema with
    | nil => rfl
    | cons first others =>
      rw [unknown, strict] at passed
      cases passed
  · intro none session
    rw [checkFields_run, none]
    exact ⟨_, rfl⟩

end AnalystQuery.Pipeline

namespace AnalystQuery.Query

/-- With field names free of weights, the field check finds nothing unknown in a compiled query,
and a strict pipeline accepts it, if and only if no aggregation mentions an unknown name astray:
a grouping that is called `filter`, or percents that hold objects. -/
theorem compiled_fields_accepted_iff (sizes : Sizes) (index : String) (schema : Schema)
    (intent : Intent) (plain : ∀ field ∈ schema.fields, '^' ∉ field.name.toList) :
    let query := compile sizes index schema intent
    let computations := (plan sizes schema intent).1.computations
    (unknownFields query.envelope schema = [] ↔ NothingStray schema computations) ∧
      ∀ pipeline : Pipeline, pipeline.settings.pipeline.strictSchema = true →
        (pipeline.AcceptsFields schema query ↔ NothingStray schema computations) := by
  intro query computations
  have known : unknownFields query.envelope schema = [] ↔ NothingStray schema computations :=
    unknownFields_encode_eq_nil_iff sizes schema intent plain
  refine ⟨known, fun pipeline strict => ?_⟩
  rw [Pipeline.acceptsFields_iff pipeline schema query strict]
  exact known

private def channels : Schema := ⟨[⟨"channel", .keyword, none⟩]⟩

/-- Documents grouped by channel, with a label for the groups. -/
private def groupsCalled (label : Option String) : Intent :=
  { Intent.plain .aggregate .zero with
    aggregations := [⟨.terms, some "channel", label, []⟩] }

private def strictPipeline : Pipeline :=
  { settings := { Settings.default with
      pipeline := { Settings.Pipeline.default with strictSchema := true } }
    schemas := [("communications", channels)]
    start := .origin }

theorem plain_grouping_accepted :
    unknownFields (compile ⟨20, 100⟩ "communications" channels (groupsCalled none)).envelope
        channels = [] ∧
      strictPipeline.AcceptsFields channels
        (compile ⟨20, 100⟩ "communications" channels (groupsCalled none)) := by
  obtain ⟨known, accepted⟩ := compiled_fields_accepted_iff ⟨20, 100⟩ "communications" channels
    (groupsCalled none) (by decide)
  have nothingStray : NothingStray channels
      (plan ⟨20, 100⟩ channels (groupsCalled none)).1.computations := by
    intro computation lasts
    have only : computation = ⟨"terms_channel", .terms "channel" 10, _⟩ :=
      List.mem_singleton.mp lasts.mem
    rw [only]
    intro name stray
    cases stray
  exact ⟨known.mpr nothingStray, (accepted strictPipeline rfl).mpr nothingStray⟩

/-- A grouping that is called `filter` is read as a condition on fields `field` and `size`. -/
theorem grouping_called_filter_reported :
    ¬ ∀ (sizes : Sizes) (index : String) (schema : Schema) (intent : Intent),
      (∀ field ∈ schema.fields, '^' ∉ field.name.toList) →
        unknownFields (compile sizes index schema intent).envelope schema = [] := by
  intro nothingReported
  have known := nothingReported ⟨20, 100⟩ "communications" channels (groupsCalled (some "filter"))
    (by decide)
  have reported : unknownFields (compile ⟨20, 100⟩ "communications" channels
      (groupsCalled (some "filter"))).envelope channels = ["field", "size"] := by decide +kernel
  rw [reported] at known
  cases known

end AnalystQuery.Query
