import AnalystQuery.Proofs.Json.Lookup
import AnalystQuery.Proofs.Query.AggregationKeys
import AnalystQuery.Proofs.Query.Meaning
import Mathlib.Data.List.Perm.Subperm

/-! What becomes of the parts of an intent. A part gives one clause with its description, or notes
that say why it gives none. The parts that leave no trace are filters for a list without values,
and aggregations whose key is given again. -/

namespace AnalystQuery.Query

variable {schema : Schema}

namespace Contribution

def clauses (part : Contribution) : List (Role × Clause) :=
  part.clause.toList.map fun (role, clause, _) => (role, clause)

def conditions (part : Contribution) : List String := part.clause.toList.map (·.2.2)

/-- One clause and one description, or notes in their place. -/
def Accounted (part : Contribution) : Prop :=
  (part.clauses.length = 1 ∧ part.conditions.length = 1) ∨
    (part.clauses = [] ∧ part.conditions = [] ∧ part.notes ≠ [])

theorem accounted_iff (part : Contribution) :
    part.Accounted ↔ part.clause = none → part.notes ≠ [] := by
  rw [Accounted, clauses, conditions]
  cases part.clause <;> simp

theorem accounted_noted (note : String) : (noted note).Accounted :=
  (accounted_iff _).mpr fun _ => List.cons_ne_nil note []

theorem accounted_some (added : Role × Clause × String) (notes : List String) :
    Accounted ⟨some added, notes⟩ :=
  (accounted_iff _).mpr fun absent => absurd absent (Option.some_ne_none added)

theorem map_filterMap_clause {α : Type} (parts : List Contribution)
    (read : Role × Clause × String → α) :
    (parts.filterMap (·.clause)).map read =
      parts.flatMap fun part => part.clause.toList.map read := by
  induction parts with
  | nil => rfl
  | cons part rest ih => cases given : part.clause <;> simp [given, ih]

end Contribution

def refusal (field : Field) (value : String) : String :=
  "'" ++ value ++ "' is not a known " ++ field.name ++ " value"

def refusals (field : Field) (values : List String) : List String :=
  (values.filter (!field.accepts ·)).map (refusal field)

private def acceptStep (field : Field) (known : List String) :
    List String × List String → String → List String × List String :=
  fun (accepted, notes) value =>
    match known.find? (Text.sameIgnoringAsciiCase · value) with
    | some spelling =>
      (if accepted.contains spelling then accepted else accepted ++ [spelling], notes)
    | none => (accepted, notes ++ [refusal field value])

private theorem accepts_eq_find? {field : Field} {known : List String}
    (closed : field.values = some known) (value : String) :
    field.accepts value = (known.find? (Text.sameIgnoringAsciiCase · value)).isSome := by
  rw [Field.accepts, closed, Bool.eq_iff_iff, List.any_eq_true, List.find?_isSome]

private theorem notes_foldl_acceptStep {field : Field} {known : List String}
    (closed : field.values = some known) (values : List String)
    (start : List String × List String) :
    (values.foldl (acceptStep field known) start).2 = start.2 ++ refusals field values := by
  induction values generalizing start with
  | nil => simp [refusals]
  | cons value rest ih =>
    have accepts := accepts_eq_find? closed value
    rw [List.foldl_cons, ih]
    cases found : known.find? (Text.sameIgnoringAsciiCase · value) <;>
      rw [found] at accepts <;> simp [acceptStep, found, refusals, accepts]

theorem notes_acceptValues (field : Field) (values : List String) :
    (acceptValues field values).2 = refusals field values := by
  rw [acceptValues]
  cases closed : field.values with
  | none => simp [refusals, Field.accepts, closed]
  | some known => exact notes_foldl_acceptStep closed values ([], [])

private theorem kept_foldl_acceptStep {field : Field} {known : List String}
    (closed : field.values = some known) (values : List String)
    (start : List String × List String) :
    (∀ kept ∈ start.1, kept ∈ (values.foldl (acceptStep field known) start).1) ∧
      ∀ value ∈ values, field.accepts value = true →
        ∃ kept ∈ (values.foldl (acceptStep field known) start).1,
          Text.sameIgnoringAsciiCase kept value = true := by
  induction values generalizing start with
  | nil => simp
  | cons first rest ih =>
    obtain ⟨lasting, later⟩ := ih (acceptStep field known start first)
    rw [List.foldl_cons]
    have stays : ∀ kept ∈ start.1, kept ∈ (acceptStep field known start first).1 := by
      intro kept member
      rw [acceptStep]
      split
      · split
        · exact member
        · exact List.mem_append_left _ member
      · exact member
    refine ⟨fun kept member => lasting kept (stays kept member), ?_⟩
    intro value member accepted
    rcases List.mem_cons.mp member with rfl | other
    · rw [accepts_eq_find? closed] at accepted
      obtain ⟨spelling, found⟩ := Option.isSome_iff_exists.mp accepted
      refine ⟨spelling, lasting spelling ?_, by simpa using List.find?_some found⟩
      rw [acceptStep]
      simp only [found]
      split
      · rename_i present
        simpa using present
      · simp
    · exact later value other accepted

private theorem known_foldl_acceptStep (field : Field) {known : List String}
    (values : List String) (start : List String × List String)
    (inside : ∀ kept ∈ start.1, kept ∈ known) :
    ∀ kept ∈ (values.foldl (acceptStep field known) start).1, kept ∈ known := by
  induction values generalizing start with
  | nil => exact inside
  | cons first rest ih =>
    refine ih _ ?_
    rw [acceptStep]
    split
    · rename_i spelling found
      split
      · exact inside
      · intro kept member
        rcases List.mem_append.mp member with early | last
        · exact inside kept early
        · exact List.mem_singleton.mp last ▸ List.mem_of_find?_eq_some found
    · exact inside

theorem kept_of_accepts {field : Field} {values : List String} {value : String}
    (member : value ∈ values) (accepted : field.accepts value = true) :
    ∃ kept ∈ acceptedValues field values, Text.sameIgnoringAsciiCase kept value = true := by
  rw [acceptedValues, acceptValues]
  cases closed : field.values with
  | none => exact ⟨value, member, by simp [Text.sameIgnoringAsciiCase]⟩
  | some known => exact (kept_foldl_acceptStep closed values ([], [])).2 value member accepted

theorem known_of_kept {field : Field} {known values : List String} {kept : String}
    (closed : field.values = some known) (member : kept ∈ acceptedValues field values) :
    kept ∈ known := by
  rw [acceptedValues, acceptValues, closed] at member
  exact known_foldl_acceptStep field values ([], []) (List.forall_mem_nil _) kept member

theorem accepts_of_kept {field : Field} {values : List String} {kept value : String}
    (member : kept ∈ acceptedValues field values)
    (same : Text.sameIgnoringAsciiCase kept value = true) : field.accepts value = true := by
  rw [Field.accepts]
  cases closed : field.values with
  | none => rfl
  | some known => exact List.any_eq_true.mpr ⟨kept, known_of_kept closed member, same⟩

/-- The values that are not among the kept ones, up to the case of their letters. -/
def leftOut (field : Field) (values : List String) : List String :=
  values.filter fun value =>
    !(acceptedValues field values).any (Text.sameIgnoringAsciiCase · value)

theorem refusals_eq_map_leftOut (field : Field) (values : List String) :
    refusals field values = (leftOut field values).map (refusal field) := by
  rw [refusals, leftOut]
  refine congrArg _ (List.filter_congr fun value member => congrArg _ ?_)
  rw [Bool.eq_iff_iff, List.any_eq_true]
  exact ⟨kept_of_accepts member, fun ⟨kept, present, same⟩ => accepts_of_kept present same⟩

theorem refusals_of_acceptedValues_eq_nil {field : Field} {values : List String}
    (none : acceptedValues field values = []) : refusals field values = values.map (refusal field) := by
  have refused : ∀ value ∈ values, (!field.accepts value) = true := by
    intro value member
    by_contra accepted
    obtain ⟨kept, present, -⟩ := kept_of_accepts member (by simpa using accepted)
    rw [none] at present
    cases present
  rw [refusals, List.filter_eq_self.mpr refused]

theorem acceptedValues_nil (field : Field) : acceptedValues field [] = [] := by
  rw [acceptedValues, acceptValues]
  cases field.values <;> rfl

theorem accounted_values_iff (field : Field) (values : List String)
    (added : Role × Clause × String) :
    Contribution.Accounted
        (if (acceptedValues field values).isEmpty then ⟨none, (acceptValues field values).2⟩
         else ⟨some added, (acceptValues field values).2⟩) ↔
      values ≠ [] := by
  rw [notes_acceptValues]
  by_cases kept : acceptedValues field values = []
  · rw [if_pos (by simpa using kept), Contribution.accounted_iff]
    simp [refusals_of_acceptedValues_eq_nil kept]
  · rw [if_neg (by simpa using kept)]
    refine iff_of_true (Contribution.accounted_some _ _) ?_
    rintro rfl
    exact kept (acceptedValues_nil field)

theorem accounted_entityContribution (category : Category) {values : List String}
    (given : values ≠ []) : (entityContribution schema category values).Accounted := by
  rw [entityContribution]
  split
  · split
    · rw [topicContribution]
      split
      · exact Contribution.accounted_noted _
      · exact Contribution.accounted_some _ _
    · exact Contribution.accounted_noted _
  · exact (accounted_values_iff _ values _).mpr given

theorem notes_entityContribution {category : Category} {values : List String} {primary : Field}
    {others : List Field} (present : presentFields schema category = primary :: others) :
    (entityContribution schema category values).notes =
      (leftOut primary values).map (refusal primary) := by
  rw [presentFields] at present
  simp only [entityContribution, present]
  rw [← refusals_eq_map_leftOut, ← notes_acceptValues]
  split <;> rfl

/-- A filter that asks a field to be, or not to be, one of no values. -/
structure Valueless (schema : Schema) (filter : Filter) : Prop where
  known : schema.hasField filter.field = true
  equality : filter.operator ∈ equalities.map Prod.fst
  empty : filter.value = .array []

theorem valueTexts_eq_nil_iff (value : Json) : valueTexts value = [] ↔ value = .array [] := by
  cases value <;> simp [valueTexts]

theorem accounted_filterContribution_iff (filter : Filter) :
    (filterContribution schema filter).Accounted ↔ ¬ Valueless schema filter := by
  obtain ⟨name, operator, value⟩ := filter
  cases found : schema.field? name with
  | none =>
    have silent : ¬ Valueless schema ⟨name, operator, value⟩ := by
      rintro ⟨known, -, -⟩
      simp [Schema.hasField, found] at known
    simp only [filterContribution, found]
    exact iff_of_true (Contribution.accounted_noted _) silent
  | some field =>
    have known : schema.hasField name = true := by simp [Schema.hasField, found]
    have other (apart : operator ∉ equalities.map Prod.fst) :
        ¬ Valueless schema ⟨name, operator, value⟩ := fun valueless => apart valueless.equality
    -- The null value is noted for every operator that needs one.
    by_cases null : value.isNull = true
    · have some : ¬ Valueless schema ⟨name, operator, value⟩ := by
        rintro ⟨-, -, rfl⟩
        cases null
      refine iff_of_true ?_ some
      cases operator <;> simp only [filterContribution, found, null, if_true]
      case «exists» => exact Contribution.accounted_some _ _
      all_goals exact Contribution.accounted_noted _
    · have given : value.isNull = false := by simpa using null
      have values (listed : operator ∈ equalities.map Prod.fst) :
          valueTexts value ≠ [] ↔ ¬ Valueless schema ⟨name, operator, value⟩ := by
        rw [Ne, valueTexts_eq_nil_iff, not_iff_not]
        exact ⟨fun empty => ⟨known, listed, empty⟩, fun valueless => valueless.empty⟩
      cases operator <;> simp only [filterContribution, found, given, Bool.false_eq_true, if_false]
      case eq | oneOf | ne =>
        exact (accounted_values_iff field (valueTexts value) _).trans (values (by decide))
      case «exists» | contains =>
        exact iff_of_true (Contribution.accounted_some _ _) (other (by decide))
      case gt | gte | lt | lte =>
        refine iff_of_true ?_ (other (by decide))
        split
        · exact Contribution.accounted_some _ _
        · exact Contribution.accounted_noted _

theorem notes_filterContribution {filter : Filter} {field : Field}
    (found : schema.field? filter.field = some field)
    (equality : filter.operator ∈ equalities.map Prod.fst) (given : filter.value.isNull = false) :
    (filterContribution schema filter).notes =
      (leftOut field (valueTexts filter.value)).map (refusal field) := by
  obtain ⟨name, operator, value⟩ := filter
  rw [← refusals_eq_map_leftOut, ← notes_acceptValues]
  have listed : operator = .eq ∨ operator = .oneOf ∨ operator = .ne := by
    simpa [equalities] using equality
  rcases listed with rfl | rfl | rfl <;>
    simp only [filterContribution, found, given, Bool.false_eq_true, if_false] <;> split <;> rfl

theorem accounted_timeContribution (range : Calendar.TimeRange) :
    (timeContribution schema range).Accounted := by
  rw [timeContribution]
  split
  · exact Contribution.accounted_noted _
  · exact Contribution.accounted_some _ _

def writtenClauses (name : String) (query : Json) : List Json :=
  (((query.get? "bool").bind (·.get? name)).bind Json.asArray?).getD []

theorem lookup_roleEntry (condition : Condition) (key name : String) (role : Role) :
    Json.lookup key (condition.roleEntry name role) =
      if name = key ∧ condition.inRole role ≠ [] then
        some (.array ((condition.inRole role).map Clause.encode))
      else none := by
  rw [Condition.roleEntry]
  cases condition.inRole role <;> simp

theorem writtenClauses_condition {name : String} {role : Role} (named : (name, role) ∈ sections)
    (condition : Condition) :
    writtenClauses name condition.encode = (condition.inRole role).map Clause.encode := by
  have listed : (name = "filter" ∧ role = .filter) ∨ (name = "must" ∧ role = .must) ∨
      (name = "must_not" ∧ role = .mustNot) := by simpa [sections] using named
  rw [Condition.encode]
  by_cases empty : condition.clauses = []
  · have absent : condition.inRole role = [] := by rw [Condition.inRole, empty]; rfl
    rw [if_pos (by simpa using empty), absent]
    rfl
  · rw [if_neg (by simpa using empty)]
    have read (clauses : List Clause) :
        ((if clauses ≠ [] then some (Json.array (clauses.map Clause.encode)) else none).bind
          Json.asArray?).getD [] = clauses.map Clause.encode := by
      cases clauses <;> simp [Json.asArray?]
    rcases listed with ⟨rfl, rfl⟩ | ⟨rfl, rfl⟩ | ⟨rfl, rfl⟩ <;>
      simpa [writtenClauses, single, Json.get?, lookup_roleEntry] using read _

def aggregationNote? (sizes : Sizes) (schema : Schema) (aggregation : Aggregation) :
    Option String :=
  match measure? sizes aggregation (aggregationField? schema aggregation) with
  | some _ => none
  | none => some (aggregation.kind.name ++ " aggregation on '" ++
      aggregation.field.getD "-" ++ "' ignored (field missing or unsuitable)")

theorem notes_buildComputations (sizes : Sizes) (schema : Schema) (built : List Computation)
    (aggregations : List Aggregation) :
    (buildComputations sizes schema built aggregations).2 =
      aggregations.filterMap (aggregationNote? sizes schema) := by
  induction aggregations generalizing built with
  | nil => rfl
  | cons aggregation rest ih =>
    rw [buildComputations, List.filterMap_cons, aggregationNote?]
    cases measure? sizes aggregation (aggregationField? schema aggregation) with
    | none => exact congrArg _ (ih built)
    | some measure => exact ih _

theorem explain_notes (index : String) (intent : Intent) (envelope : Envelope)
    (conditions notes : List String) :
    ∃ front back, explain index intent envelope conditions notes =
      front ++ (if notes.isEmpty then "" else " Note: " ++ "; ".intercalate notes ++ ".") ++
        back := by
  rw [explain, remarks, ← String.append_assoc]
  exact ⟨_, _, rfl⟩

theorem explain_conditions (index : String) (intent : Intent) (envelope : Envelope)
    (conditions notes : List String) :
    ∃ back, explain index intent envelope conditions notes =
      intent.kind.title ++ " " ++ index ++
        (if conditions.isEmpty then " (all documents)"
          else " where " ++ " and ".intercalate conditions) ++ "." ++ back := by
  rw [explain, opening]
  simp only [String.append_assoc]
  exact ⟨_, rfl⟩

/-- Every part of an intent leaves its trace in the compiled query or in its explanation. -/
structure NothingDropped (sizes : Sizes) (index : String) (schema : Schema) (intent : Intent) :
    Prop where
  /-- the written clauses are those of the parts -/
  written : ∀ name role, (name, role) ∈ sections →
    writtenClauses name (compile sizes index schema intent).query =
      (((contributions schema intent).flatMap Contribution.clauses).filter (·.1 == role)).map
        (·.2.encode)
  /-- the described conditions are those of the parts -/
  described : ∃ back, (compile sizes index schema intent).explanation =
    intent.kind.title ++ " " ++ index ++
      (let conditions := (contributions schema intent).flatMap Contribution.conditions
       if conditions.isEmpty then " (all documents)"
       else " where " ++ " and ".intercalate conditions) ++ "." ++ back
  /-- the notes are those of the parts, the aggregations and the sorting -/
  noted : ∃ front back, (compile sizes index schema intent).explanation =
    front ++
      (let notes := (contributions schema intent).flatMap (·.notes) ++
         intent.aggregations.filterMap (aggregationNote? sizes schema) ++
         (chooseSort schema intent.sort).2
       if notes.isEmpty then "" else " Note: " ++ "; ".intercalate notes ++ ".") ++ back
  entities : ∀ category, intent.entities.get category ≠ [] →
    (entityContribution schema category (intent.entities.get category)).Accounted
  filters : ∀ filter ∈ intent.filters, (filterContribution schema filter).Accounted
  time : ∀ range, intent.timeRange = some range → (timeContribution schema range).Accounted
  /-- the block has one entry for each aggregation that has no note -/
  aggregations : ((entriesUnder "aggs" (compile sizes index schema intent).envelope).map
      Prod.snd).Perm ((supportedMeasures sizes schema intent.aggregations).map Measure.encode)
  sort : ∀ sort, intent.sort = some sort →
    (compile sizes index schema intent).envelope.get? "sort" =
        some (.array [SortKey.encodeEntry sort]) ∨
      (chooseSort schema intent.sort).2 = ["sort on '" ++ sort.field ++ "' ignored"]
  /-- entity values that are left out have a note each -/
  entityValues : ∀ category primary others,
    presentFields schema category = primary :: others →
    (entityContribution schema category (intent.entities.get category)).notes =
      (leftOut primary (intent.entities.get category)).map (refusal primary)
  /-- filter values that are left out have a note each -/
  filterValues : ∀ filter ∈ intent.filters, ∀ field, schema.field? filter.field = some field →
    filter.operator ∈ equalities.map Prod.fst → filter.value.isNull = false →
    (filterContribution schema filter).notes =
      (leftOut field (valueTexts filter.value)).map (refusal field)

theorem clauses_plan (sizes : Sizes) (schema : Schema) (intent : Intent) :
    (plan sizes schema intent).1.condition.clauses =
      (contributions schema intent).flatMap Contribution.clauses :=
  Contribution.map_filterMap_clause _ _

theorem conditions_plan (sizes : Sizes) (schema : Schema) (intent : Intent) :
    (plan sizes schema intent).2.1 =
      (contributions schema intent).flatMap Contribution.conditions :=
  Contribution.map_filterMap_clause _ _

theorem notes_plan (sizes : Sizes) (schema : Schema) (intent : Intent) :
    (plan sizes schema intent).2.2 = (contributions schema intent).flatMap (·.notes) ++
      intent.aggregations.filterMap (aggregationNote? sizes schema) ++
      (chooseSort schema intent.sort).2 := by
  rw [← notes_buildComputations sizes schema []]
  rfl

/-- The block of aggregations has an entry for each supported one exactly when no requested keys
clash. -/
theorem block_bodies_perm_iff (sizes : Sizes) (index : String) (schema : Schema)
    (intent : Intent) :
    ((entriesUnder "aggs" (compile sizes index schema intent).envelope).map Prod.snd).Perm
        ((supportedMeasures sizes schema intent.aggregations).map Measure.encode) ↔
      ¬ Clashing (requestedKeys sizes schema intent.aggregations) := by
  let entries := (plan sizes schema intent).1.blockEntries
  have block : entriesUnder "aggs" (compile sizes index schema intent).envelope =
      Json.sortEntries entries := Envelope.entriesUnder_aggs _
  have keys : entries.map Prod.fst =
      grantKeys [] (requestedKeys sizes schema intent.aggregations) := by
    refine Eq.trans ?_ (keys_buildComputations sizes schema [] intent.aggregations)
    exact List.map_map
  have bodies : (supportedMeasures sizes schema intent.aggregations).map Measure.encode =
      entries.map Prod.snd := by
    have measures := measures_buildComputations sizes schema [] intent.aggregations
    rw [List.map_nil, List.nil_append] at measures
    have read : entries.map Prod.snd = _ := List.map_map
    rw [read, ← measures, List.map_map]
    rfl
  rw [block, bodies, ← nodup_grantKeys_iff, ← keys]
  constructor
  · intro perm
    have lengths : (Json.sortEntries entries).length = entries.length := by
      simpa using perm.length_eq
    have distinct : (Json.sortEntries entries).Nodup :=
      (Json.sortedByKey_sortEntries entries).nodup_keys.of_map _
    have inside : Json.sortEntries entries ⊆ entries :=
      fun entry member => (Json.mem_sortEntries.mp member).mem
    have whole := (distinct.subperm inside).perm_of_length_le lengths.ge
    exact Json.sortEntries_perm_iff.mp whole
  · intro distinct
    exact (Json.sortEntries_perm_iff.mpr distinct).map Prod.snd

theorem chooseSort_requested (sort : SortKey) :
    (chooseSort schema (some sort)).1 = some sort ∨
      (chooseSort schema (some sort)).2 = ["sort on '" ++ sort.field ++ "' ignored"] := by
  rw [chooseSort]
  split
  · rename_i field found
    obtain ⟨named, -⟩ := Option.filter_eq_some_iff.mp found
    have same : field.name = sort.field := by simpa using List.find?_some named
    exact Or.inl (by rw [same])
  · exact Or.inr rfl

/-- Nothing is dropped without a trace exactly when no known field is compared with a list of no
values and no requested keys of aggregations clash. -/
theorem nothingDropped_iff (sizes : Sizes) (index : String) (schema : Schema) (intent : Intent) :
    NothingDropped sizes index schema intent ↔
      (∀ filter ∈ intent.filters, ¬ Valueless schema filter) ∧
        ¬ Clashing (requestedKeys sizes schema intent.aggregations) := by
  have explained : (compile sizes index schema intent).explanation =
      explain index intent (plan sizes schema intent).1 (plan sizes schema intent).2.1
        (plan sizes schema intent).2.2 := rfl
  constructor
  · intro nothing
    refine ⟨fun filter member => ?_, ?_⟩
    · exact (accounted_filterContribution_iff filter).mp (nothing.filters filter member)
    · exact (block_bodies_perm_iff sizes index schema intent).mp nothing.aggregations
  · rintro ⟨valued, distinct⟩
    constructor
    case written =>
      intro name role named
      rw [query_compile, writtenClauses_condition named, Condition.inRole, clauses_plan, List.map_map]
      rfl
    case described =>
      rw [explained, conditions_plan]
      exact explain_conditions index intent _ _ _
    case noted =>
      rw [explained, notes_plan]
      exact explain_notes index intent _ _ _
    case entities => exact fun category given => accounted_entityContribution category given
    case filters =>
      intro filter member
      exact (accounted_filterContribution_iff filter).mpr (valued filter member)
    case time => exact fun range _ => accounted_timeContribution range
    case aggregations => exact (block_bodies_perm_iff sizes index schema intent).mpr distinct
    case sort =>
      intro sort requested
      rw [requested]
      refine (chooseSort_requested sort).imp (fun chosen => ?_) id
      have planned : (plan sizes schema intent).1.sort = some sort := by
        rw [← chosen, ← requested]
        rfl
      rw [compile_envelope, Envelope.get?_sort, planned]
      rfl
    case entityValues => exact fun category primary others => notes_entityContribution
    case filterValues => exact fun filter _ field => notes_filterContribution

/-- A filter for channels among none is dropped without a word. -/
theorem empty_list_dropped :
    ¬ ∀ (sizes : Sizes) (index : String) (schema : Schema) (intent : Intent),
      NothingDropped sizes index schema intent := by
  intro always
  let filter : Filter := ⟨"channel", .oneOf, .array []⟩
  let intent : Intent := { Intent.plain .search .zero with filters := [filter] }
  have accounted := (always ⟨20, 100⟩ "communications" .communications intent).filters filter
    List.mem_cons_self
  have silent : (filterContribution .communications filter).clause = none ∧
      (filterContribution .communications filter).notes = [] := by decide
  exact (Contribution.accounted_iff _).mp accounted silent.1 silent.2

end AnalystQuery.Query
