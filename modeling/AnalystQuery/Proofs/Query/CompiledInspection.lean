import AnalystQuery.Proofs.Json.Lookup
import AnalystQuery.Proofs.Query.AggregationKeys
import AnalystQuery.Proofs.Query.CompiledKeys
import AnalystQuery.Proofs.Query.Standing
import AnalystQuery.Proofs.Query.Violations

/-! Compiled queries under inspection. Their clauses are known wherever they stand, and forbidden
keys can only come from the names of fields and from values that were asked for. -/

namespace AnalystQuery.Query

open Json (KeysIn)

variable {path reported : String} {position inner : Position} {key : String} {value body : Json}

theorem mem_entryFindings {finding : Finding} {entries : List (String × Json)} :
    finding ∈ entryFindings path position entries ↔ ∃ entry ∈ entries,
      finding ∈ keyFindings entry.1 (joinPath path entry.1) position ∨
        finding ∈ findings (joinPath path entry.1) (position.child entry.1) entry.2 := by
  induction entries with
  | nil => simp [entryFindings]
  | cons entry rest ih => simp [entryFindings, ih, or_assoc]

theorem exists_of_mem_itemFindings {finding : Finding} {items : List Json} {index : Nat}
    (member : finding ∈ itemFindings path position index items) :
    ∃ item ∈ items, ∃ below, finding ∈ findings below position item := by
  induction items generalizing index with
  | nil => simp [itemFindings] at member
  | cons item rest ih =>
    rw [itemFindings, List.mem_append] at member
    rcases member with own | later
    · exact ⟨item, List.mem_cons_self, _, own⟩
    · obtain ⟨other, listed, found⟩ := ih later
      exact ⟨other, List.mem_cons_of_mem item listed, found⟩

theorem unknown_of_mem_keyFindings
    (member : .unknownClause reported ∈ keyFindings key path position) :
    position.knows key = false := by
  rw [keyFindings] at member
  split at member
  · simp at member
  · split at member
    · simp at member
    · simp_all

theorem exists_unknown_of_mem_findings
    (member : .unknownClause reported ∈ findings path position value) :
    ∃ inner key body, Stands position value inner key body ∧ inner.knows key = false := by
  induction value using Json.nested generalizing path position with
  | object entries ih =>
    rw [findings, mem_entryFindings] at member
    obtain ⟨entry, listed, own | below⟩ := member
    · exact ⟨position, entry.1, entry.2, .entry listed, unknown_of_mem_keyFindings own⟩
    · obtain ⟨inner, key, body, stands, unknown⟩ := ih entry listed below
      exact ⟨inner, key, body, .under listed stands, unknown⟩
  | array items ih =>
    rw [findings] at member
    obtain ⟨item, listed, below, found⟩ := exists_of_mem_itemFindings member
    obtain ⟨inner, key, body, stands, unknown⟩ := ih item listed found
    exact ⟨inner, key, body, .item listed stands, unknown⟩
  | null | bool | integer | float | string => simp [findings] at member

theorem unknownClauses_object_eq_nil {allowed : List String} {entries : List (String × Json)}
    (known : ∀ entry ∈ entries, ∀ inner key body,
      Stands (topPosition entry.1) entry.2 inner key body → inner.knows key = true) :
    unknownClauses allowed (.object entries) = [] := by
  rw [unknownClauses, List.filterMap_eq_nil_iff]
  intro finding member
  obtain ⟨entry, listed, found⟩ := List.mem_flatMap.mp member
  cases finding with
  | violation path => rfl
  | unknownClause reported =>
    rcases List.mem_append.mp found with own | below
    · split at own
      · have outside := unknown_of_mem_keyFindings own
        cases outside
      · simp at own
    · obtain ⟨inner, key, body, stands, unknown⟩ := exists_unknown_of_mem_findings below
      rw [known entry listed inner key body stands] at unknown
      cases unknown

theorem Frame.known (frame : Frame inner key) : inner.knows key = true := by
  cases frame with
  | everything | group => decide
  | part listed => simp [Position.knows, listed]

theorem Leaf.keyword_known (leaf : Leaf) : Position.knows .clause leaf.keyword = true := by
  simp [Position.knows, leaf.keyword_plain.1]

theorem known_of_stands_condition {condition : Condition}
    (stands : Stands .clause condition.encode inner key body) : inner.knows key = true := by
  rcases stands_condition_cases stands with frame | ⟨part, -, leaf, -, found⟩
  · exact frame.known
  · rcases stands_leaf.mp found with ⟨rfl, rfl, -⟩ | within
    · exact leaf.keyword_known
    · rw [within.outside]
      rfl

theorem unknownClauses_encode (allowed : List String) (envelope : Envelope) :
    unknownClauses allowed envelope.encode = [] := by
  apply unknownClauses_object_eq_nil
  intro entry listed inner key body stands
  by_cases query : entry.1 = "query"
  · have written : entry.2 = envelope.condition.encode := by
      obtain ⟨name, value⟩ := entry
      subst query
      revert listed
      cases envelope.computations <;> cases envelope.offset <;> cases envelope.sort <;> simp
    rw [topPosition, if_pos query, written] at stands
    exact known_of_stands_condition stands
  · rw [topPosition, if_neg query] at stands
    rw [stands.outside]
    rfl

-- A forbidden key has an underscore in front or none at all.
theorem permitted_of_inner_underscore {key : String} (inner : '_' ∈ key.toList.tail) :
    Permitted key := by
  have none : ∀ name ∈ forbiddenKeys, '_' ∉ (name.toList.map Char.toLower).tail := by decide
  rw [Permitted, isForbiddenKey, List.any_eq_false]
  intro name listed same
  have lowered : '_' ∈ (key.toList.map Char.toLower).tail := by
    rw [← List.map_tail]
    exact List.mem_map_of_mem (f := Char.toLower) inner
  rw [← eq_of_beq same] at lowered
  exact none name listed lowered

theorem permitted_joined {first : String} (nonempty : first ≠ "") (second : String) :
    Permitted (first ++ "_" ++ second) := by
  apply permitted_of_inner_underscore
  obtain ⟨c, rest, text⟩ : ∃ c rest, first.toList = c :: rest :=
    List.exists_cons_of_ne_nil (by simpa using nonempty)
  simp [text]

theorem permitted_kind (kind : AggregationKind) : kind.name ≠ "" ∧ Permitted kind.name := by
  cases kind <;> decide

theorem permitted_generatedKey (kind : AggregationKind) (named : Option String)
    (options : List (String × Json)) (field : Option Field) :
    aggregationKey ⟨kind, named, none, options⟩ field ≠ "" ∧
      Permitted (aggregationKey ⟨kind, named, none, options⟩ field) := by
  have plain := permitted_kind kind
  cases named with
  | none => exact plain
  | some name =>
    cases field with
    | none => exact plain
    | some field => exact ⟨by simp [aggregationKey], permitted_joined plain.1 field.name⟩

theorem permitted_aggregationKey (aggregation : Aggregation) (field : Option Field) :
    aggregationKey aggregation field ≠ "" ∧ Permitted (aggregationKey aggregation field) := by
  obtain ⟨kind, named, label, options⟩ := aggregation
  have generated := permitted_generatedKey kind named options field
  cases label with
  | none => exact generated
  | some label =>
    have labelled : aggregationKey ⟨kind, named, some label, options⟩ field =
        if cleanLabel label = "" || isForbiddenKey (cleanLabel label) then
          aggregationKey ⟨kind, named, none, options⟩ field
        else cleanLabel label := rfl
    rw [labelled]
    split
    · exact generated
    · rename_i fit
      simpa [Permitted] using fit

theorem permitted_grantKeys {requested : List String}
    (asked : ∀ key ∈ requested, key ≠ "" ∧ Permitted key) :
    ∀ key ∈ grantKeys [] requested, Permitted key := by
  induction requested using List.reverseRecOn with
  | nil => exact List.forall_mem_nil _
  | append_singleton rest last ih =>
    have lastAsked := asked last (by simp)
    intro key member
    rw [grantKeys_snoc, List.mem_append, List.mem_singleton, freshKey_eq] at member
    rcases member with early | rfl
    · exact ih (fun key member => asked key (List.mem_append_left _ member)) key early
    · split
      · exact permitted_joined lastAsked.1 _
      · exact lastAsked.2

theorem permitted_computation_keys (sizes : Sizes) (schema : Schema) (intent : Intent) :
    ∀ computation ∈ (plan sizes schema intent).1.computations, Permitted computation.key := by
  intro computation member
  have granted : computation.key ∈
      grantKeys [] (requestedKeys sizes schema intent.aggregations) := by
    rw [← List.map_nil, ← keys_buildComputations]
    exact List.mem_map_of_mem member
  apply permitted_grantKeys _ _ granted
  intro key asked
  obtain ⟨aggregation, -, requested⟩ := List.mem_filterMap.mp asked
  obtain ⟨measure, -, rfl⟩ := Option.map_eq_some_iff.mp requested
  exact permitted_aggregationKey aggregation _

theorem exists_of_percents {sizes : Sizes} {schema : Schema} {intent : Intent}
    {computation : Computation} {percents : Json}
    (member : computation ∈ (plan sizes schema intent).1.computations)
    (given : computation.measure.percents? = some percents) :
    ∃ aggregation ∈ intent.aggregations, ("percents", percents) ∈ aggregation.options := by
  obtain ⟨aggregation, listed, supported⟩ := supported_of_mem_computations member
  refine ⟨aggregation, listed, ?_⟩
  generalize computation.measure = measure at supported given
  generalize aggregationField? schema aggregation = field at supported
  cases measures_of_measure? supported with
  | ranks field => exact Json.mem_of_lookup (Option.filter_eq_some_iff.mp given).1
  | documents | values | groups | intervals | metric => cases given

theorem permitted_of_keyword : ∀ key ∈ keywords, Permitted key := by decide

/-- The keys of a compiled query may stand anywhere if those of its fields, of the values of the
filters and of the options of the aggregations may. -/
theorem keysIn_permitted_compile {sizes : Sizes} {index : String} {schema : Schema}
    {intent : Intent} (fields : ∀ field ∈ schema.fields, Permitted field.name)
    (filters : ∀ filter ∈ intent.filters, KeysIn Permitted filter.value)
    (options : ∀ aggregation ∈ intent.aggregations,
      KeysIn Permitted (.object aggregation.options)) :
    KeysIn Permitted (compile sizes index schema intent).envelope := by
  have known {name : String} (has : schema.hasField name = true) : Permitted name := by
    obtain ⟨field, found⟩ := Option.isSome_iff_exists.mp has
    have named := List.find?_some found
    rw [beq_iff_eq] at named
    exact named ▸ fields field (Schema.mem_of_field? found)
  have sorted : ∀ sort ∈ (plan sizes schema intent).1.sort, Permitted sort.field :=
    fun sort chosen => known (chooseSort_known chosen)
  have operands := (keysIn_compiled_operands sizes schema intent).mpr
    fun filter listed field found copies => filters filter listed
  rw [compile_envelope, keysIn_envelope permitted_of_keyword _ sorted]
  constructor
  · rw [keysIn_condition permitted_of_keyword]
    intro part given
    rw [keysIn_clause permitted_of_keyword]
    intro leaf made
    have regular := compiled_leaves_regular sizes schema intent part given leaf made
    refine (keysIn_leaf permitted_of_keyword regular ?_).mpr (operands part given leaf made)
    intro name named
    obtain ⟨field, listed, rfl⟩ :=
      compiled_fields_known sizes schema intent part given leaf made name named
    exact fields field listed
  · intro computation lasts
    refine ⟨permitted_computation_keys sizes schema intent computation lasts.mem, ?_⟩
    rw [keysIn_measure permitted_of_keyword
      (compiled_measures_fit sizes schema intent computation lasts.mem)]
    intro percents given
    obtain ⟨aggregation, listed, option⟩ := exists_of_percents lasts.mem given
    exact ((Json.keysIn_object _).mp (options aggregation listed) _ option).2

theorem Envelope.top_keys (envelope : Envelope) :
    ∃ entries, envelope.encode = .object entries ∧
      ∀ entry ∈ entries, entry.1 ∈ defaultTopLevelKeys := by
  refine ⟨_, rfl, ?_⟩
  cases envelope.computations <;> cases envelope.offset <;> cases envelope.sort <;>
    simp [defaultTopLevelKeys]

/-- Whatever is asked for, inspection knows all clauses of a compiled query. If no field has a
forbidden name and no filter value or option holds a forbidden key, it finds no violation, and a
pipeline with the default keys lets the query pass. -/
theorem compiled_passes_inspection (sizes : Sizes) (index : String) (schema : Schema)
    (intent : Intent) :
    let query := compile sizes index schema intent
    (∀ allowed, unknownClauses allowed query.envelope = []) ∧
      ((∀ field ∈ schema.fields, Permitted field.name) →
        (∀ filter ∈ intent.filters, KeysIn Permitted filter.value) →
        (∀ aggregation ∈ intent.aggregations,
          KeysIn Permitted (.object aggregation.options)) →
        violations defaultTopLevelKeys query.envelope = [] ∧
          ∀ pipeline : Pipeline,
            pipeline.settings.pipeline.topLevelKeys = defaultTopLevelKeys →
              pipeline.AcceptsEnvelope query) := by
  intro query
  refine ⟨fun allowed => unknownClauses_encode allowed _, ?_⟩
  intro fields filters options
  obtain ⟨entries, object, top⟩ := Envelope.top_keys (plan sizes schema intent).1
  have inside : KeysIn Permitted query.envelope := keysIn_permitted_compile fields filters options
  have clean : violations defaultTopLevelKeys query.envelope = [] :=
    (violations_eq_nil_iff _ _).mpr ⟨entries, object, top, inside⟩
  refine ⟨clean, fun pipeline listed => ?_⟩
  rw [Pipeline.acceptsEnvelope_iff, listed]
  exact clean

private def scores : Schema := ⟨[⟨"channel", .keyword, none⟩, ⟨"score", .float, none⟩]⟩

/-- Labels that are forbidden or taken, a bound that is an object, and a forbidden word as value. -/
private def contrived : Intent :=
  { Intent.plain .aggregate .zero with
    filters := [⟨"channel", .ne, .string "script"⟩,
      ⟨"score", .gt, .object [("scripts", .array [.object [("updated", .null)]])]⟩]
    aggregations := [⟨.terms, some "channel", some "__Script__", [("size", .integer 5)]⟩,
      ⟨.percentiles, some "score", some "_delete", [("percents", .array [.integer 50])]⟩,
      ⟨.avg, some "score", some "a", []⟩, ⟨.max, some "score", some "A", []⟩] }

theorem contrived_passes_inspection :
    (∀ field ∈ scores.fields, Permitted field.name) ∧
      (∀ filter ∈ contrived.filters, KeysIn Permitted filter.value) ∧
      (∀ aggregation ∈ contrived.aggregations,
        KeysIn Permitted (.object aggregation.options)) ∧
      violations defaultTopLevelKeys
        (compile ⟨20, 100⟩ "communications" scores contrived).envelope = [] := by
  have fields : ∀ field ∈ scores.fields, Permitted field.name := by decide
  have filters : ∀ filter ∈ contrived.filters, KeysIn Permitted filter.value := by
    decide +kernel
  have options : ∀ aggregation ∈ contrived.aggregations,
      KeysIn Permitted (.object aggregation.options) := by decide +kernel
  have passes := (compiled_passes_inspection ⟨20, 100⟩ "communications" scores contrived).2
  exact ⟨fields, filters, options, (passes fields filters options).1⟩

end AnalystQuery.Query
