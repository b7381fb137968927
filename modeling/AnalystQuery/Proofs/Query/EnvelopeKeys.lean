import AnalystQuery.Proofs.Json.Keys
import AnalystQuery.Proofs.Query.Computations

/-! The keys of envelopes. Each part of an envelope is written with keywords, fields and keys of
aggregations; other keys stand only in the operands of conditions and in percents. -/

namespace AnalystQuery.Query

open Json (KeysIn)

/-- The keys that are written into envelopes whatever is asked for. -/
def keywords : List String :=
  ["aggs", "from", "query", "size", "sort", "track_total_hits", "order",
   "match_all", "bool", "filter", "must", "must_not", "minimum_should_match", "should",
   "term", "terms", "match", "multi_match", "fields", "operator", "range", "exists", "field",
   "gt", "gte", "lt", "lte", "value_count", "date_histogram", "calendar_interval",
   "percentiles", "percents", "avg", "sum", "min", "max"]

variable {allowed : String → Prop}

/-- The values that a condition compares with, as they were given. -/
def Leaf.operands : Leaf → List Json
  | .term _ value => [value]
  | .range _ bounds => bounds.map (·.2)
  | _ => []

def Leaf.bounds : Leaf → List (String × Json)
  | .range _ bounds => bounds
  | _ => []

/-- Each bound of a condition is given once, under a keyword. -/
structure Leaf.Regular (leaf : Leaf) : Prop where
  once : (leaf.bounds.map (·.1)).Nodup
  keyword : ∀ bound ∈ leaf.bounds, bound.1 ∈ keywords

theorem keysIn_single (key : String) (value : Json) :
    KeysIn allowed (single key value) ↔ allowed key ∧ KeysIn allowed value := by
  rw [single, Json.keysIn_cons]
  exact and_iff_left Json.keysIn_nil

theorem keysIn_ofEntries {entries : List (String × Json)}
    (once : (entries.map Prod.fst).Nodup) :
    KeysIn allowed (.ofEntries entries) ↔
      ∀ entry ∈ entries, allowed entry.1 ∧ KeysIn allowed entry.2 := by
  have permuted := Json.sortEntries_perm_iff.mpr once
  rw [Json.ofEntries, Json.keysIn_object]
  exact forall_congr' fun entry => imp_congr_left permuted.mem_iff

theorem keysIn_leaf (written : ∀ key ∈ keywords, allowed key) {leaf : Leaf}
    (regular : leaf.Regular) (fields : ∀ field ∈ leaf.fields, allowed field) :
    KeysIn allowed leaf.encode ↔ ∀ operand ∈ leaf.operands, KeysIn allowed operand := by
  have keyword {key : String} (member : key ∈ keywords) : allowed key := written key member
  cases leaf with
  | term field value =>
    have own : allowed field := fields field (List.mem_singleton.mpr rfl)
    rw [Leaf.encode, keysIn_single, keysIn_single, and_iff_right (keyword (by decide)),
      and_iff_right own]
    exact List.forall_mem_singleton.symm
  | terms field values =>
    have own : allowed field := fields field (List.mem_singleton.mpr rfl)
    rw [Leaf.encode, keysIn_single, keysIn_single]
    refine iff_of_true ⟨keyword (by decide), own, ?_⟩ (List.forall_mem_nil _)
    exact Json.keysIn_strings values
  | «matches» field text =>
    have own : allowed field := fields field (List.mem_singleton.mpr rfl)
    rw [Leaf.encode, keysIn_single, keysIn_single]
    refine iff_of_true ⟨keyword (by decide), own, ?_⟩ (List.forall_mem_nil _)
    exact Json.keysIn_string text
  | mentions searched text =>
    rw [Leaf.encode, keysIn_single, Json.keysIn_cons, Json.keysIn_cons, Json.keysIn_cons]
    refine iff_of_true ⟨keyword (by decide), ?_, ?_, ?_, Json.keysIn_nil⟩ (List.forall_mem_nil _)
    · exact ⟨keyword (by decide), Json.keysIn_strings searched⟩
    · exact ⟨keyword (by decide), Json.keysIn_string _⟩
    · exact ⟨keyword (by decide), Json.keysIn_string text⟩
  | range field bounds =>
    have own : allowed field := fields field (List.mem_singleton.mpr rfl)
    have once : (bounds.map Prod.fst).Nodup := regular.once
    rw [Leaf.encode, keysIn_single, keysIn_single, keysIn_ofEntries once,
      and_iff_right (keyword (by decide)), and_iff_right own, Leaf.operands, List.forall_mem_map]
    refine forall₂_congr fun bound member => ?_
    exact and_iff_right (keyword (regular.keyword bound member))
  | «exists» field =>
    rw [Leaf.encode, keysIn_single, keysIn_single]
    refine iff_of_true ⟨keyword (by decide), keyword (by decide), ?_⟩ (List.forall_mem_nil _)
    exact Json.keysIn_string field

theorem keysIn_clause (written : ∀ key ∈ keywords, allowed key) (clause : Clause) :
    KeysIn allowed clause.encode ↔ ∀ leaf ∈ clause.leaves, KeysIn allowed leaf.encode := by
  have keyword {key : String} (member : key ∈ keywords) : allowed key := written key member
  cases clause with
  | leaf condition =>
    rw [Clause.leaves, List.forall_mem_singleton]
    rfl
  | anyOf leaves =>
    rw [Clause.encode, keysIn_single, Json.keysIn_cons, Json.keysIn_cons, Json.keysIn_array,
      List.forall_mem_map]
    constructor
    · rintro ⟨-, -, ⟨-, inside⟩, -⟩
      exact inside
    · intro inside
      refine ⟨keyword (by decide), ?_, ⟨keyword (by decide), inside⟩, Json.keysIn_nil⟩
      exact ⟨keyword (by decide), Json.keysIn_integer 1⟩

private theorem keysIn_roleEntry (condition : Condition) {key : String} (own : allowed key)
    (role : Role) :
    (∀ entry ∈ condition.roleEntry key role, allowed entry.1 ∧ KeysIn allowed entry.2) ↔
      ∀ part ∈ condition.clauses, part.1 = role → KeysIn allowed part.2.encode := by
  have inRole : (∀ clause ∈ condition.inRole role, KeysIn allowed clause.encode) ↔
      ∀ part ∈ condition.clauses, part.1 = role → KeysIn allowed part.2.encode := by
    rw [Condition.inRole, List.forall_mem_map]
    simp only [List.mem_filter, beq_iff_eq, and_imp]
  rw [← inRole]
  dsimp only [Condition.roleEntry]
  by_cases empty : condition.inRole role = []
  · simp [empty]
  · rw [if_neg (by simpa using empty), List.forall_mem_singleton, and_iff_right own,
      Json.keysIn_array, List.forall_mem_map]

theorem keysIn_condition (written : ∀ key ∈ keywords, allowed key) (condition : Condition) :
    KeysIn allowed condition.encode ↔
      ∀ part ∈ condition.clauses, KeysIn allowed part.2.encode := by
  have keyword {key : String} (member : key ∈ keywords) : allowed key := written key member
  rw [Condition.encode]
  by_cases empty : condition.clauses = []
  · rw [if_pos (by simp [empty]), keysIn_single, empty]
    exact iff_of_true ⟨keyword (by decide), Json.keysIn_nil⟩ (List.forall_mem_nil _)
  · rw [if_neg (by simpa using empty), keysIn_single, Json.keysIn_object,
      and_iff_right (keyword (by decide)), List.forall_mem_append, List.forall_mem_append,
      keysIn_roleEntry condition (keyword (by decide)),
      keysIn_roleEntry condition (keyword (by decide)),
      keysIn_roleEntry condition (keyword (by decide))]
    -- Each clause stands under the key of its role, so the three entries together hold them all.
    constructor
    · rintro ⟨⟨restricted, counted⟩, excluded⟩ ⟨role, clause⟩ member
      cases role with
      | filter => exact restricted _ member rfl
      | must => exact counted _ member rfl
      | mustNot => exact excluded _ member rfl
    · intro inside
      exact ⟨⟨fun part member _ => inside part member, fun part member _ => inside part member⟩,
        fun part member _ => inside part member⟩

/-- The percents of percentiles, as they were given. -/
def Measure.percents? : Measure → Option Json
  | .percentiles _ percents => percents
  | _ => none

theorem keysIn_measure (written : ∀ key ∈ keywords, allowed key) {schema : Schema}
    {measure : Measure} (fit : measure.Fits schema) :
    KeysIn allowed measure.encode ↔ ∀ percents ∈ measure.percents?, KeysIn allowed percents := by
  have keyword {key : String} (member : key ∈ keywords) : allowed key := written key member
  have fieldOnly (field : String) : KeysIn allowed (single "field" (.string field)) :=
    (keysIn_single _ _).mpr ⟨keyword (by decide), Json.keysIn_string field⟩
  have noPercents : ∀ percents ∈ (none : Option Json), KeysIn allowed percents := by
    intro percents absent
    cases absent
  cases measure with
  | documentCount =>
    refine iff_of_true ?_ noPercents
    rw [Measure.encode, keysIn_single, keysIn_single]
    exact ⟨keyword (by decide), keyword (by decide), Json.keysIn_nil⟩
  | valueCount field =>
    exact iff_of_true ((keysIn_single _ _).mpr ⟨keyword (by decide), fieldOnly field⟩) noPercents
  | terms field size =>
    refine iff_of_true ?_ noPercents
    rw [Measure.encode, keysIn_single, Json.keysIn_cons, Json.keysIn_cons]
    refine ⟨keyword (by decide), ⟨keyword (by decide), Json.keysIn_string field⟩, ?_⟩
    exact ⟨⟨keyword (by decide), Json.keysIn_natural size⟩, Json.keysIn_nil⟩
  | dateHistogram field interval =>
    refine iff_of_true ?_ noPercents
    rw [Measure.encode, keysIn_single, Json.keysIn_cons, Json.keysIn_cons]
    refine ⟨keyword (by decide), ⟨keyword (by decide), Json.keysIn_string interval⟩, ?_⟩
    exact ⟨⟨keyword (by decide), Json.keysIn_string field⟩, Json.keysIn_nil⟩
  | percentiles field percents =>
    cases percents with
    | none =>
      exact iff_of_true ((keysIn_single _ _).mpr ⟨keyword (by decide), fieldOnly field⟩) noPercents
    | some percents =>
      rw [Measure.encode, keysIn_single, Json.keysIn_cons, Json.keysIn_cons]
      constructor
      · rintro ⟨-, -, ⟨-, inside⟩, -⟩ other same
        exact Option.some.inj same ▸ inside
      · intro inside
        refine ⟨keyword (by decide), ⟨keyword (by decide), Json.keysIn_string field⟩, ?_⟩
        exact ⟨⟨keyword (by decide), inside percents rfl⟩, Json.keysIn_nil⟩
  | metric kind field =>
    have named : ∀ kind ∈ metricKinds, kind.name ∈ keywords := by decide
    have own : allowed kind.name := keyword (named kind (fit.metric_kind kind field rfl))
    exact iff_of_true ((keysIn_single _ _).mpr ⟨own, fieldOnly field⟩) noPercents

theorem keysIn_block (envelope : Envelope) :
    KeysIn allowed (.ofEntries envelope.blockEntries) ↔
      ∀ computation, Lasts envelope.computations computation →
        allowed computation.key ∧ KeysIn allowed computation.measure.encode := by
  rw [Json.ofEntries, Json.keysIn_object]
  constructor
  · intro inside computation lasts
    exact inside _ ((mem_aggregation_block envelope _).mpr ⟨computation, lasts, rfl⟩)
  · intro inside entry member
    obtain ⟨computation, lasts, rfl⟩ := (mem_aggregation_block envelope entry).mp member
    exact inside computation lasts

theorem keysIn_envelope (written : ∀ key ∈ keywords, allowed key) (envelope : Envelope)
    (sorted : ∀ sort ∈ envelope.sort, allowed sort.field) :
    KeysIn allowed envelope.encode ↔
      KeysIn allowed envelope.condition.encode ∧
        ∀ computation, Lasts envelope.computations computation →
          allowed computation.key ∧ KeysIn allowed computation.measure.encode := by
  have keyword {key : String} (member : key ∈ keywords) : allowed key := written key member
  have block : (∀ entry ∈ (if envelope.computations.isEmpty then []
      else [("aggs", Json.ofEntries envelope.blockEntries)]),
        allowed entry.1 ∧ KeysIn allowed entry.2) ↔
      ∀ computation, Lasts envelope.computations computation →
        allowed computation.key ∧ KeysIn allowed computation.measure.encode := by
    rw [← keysIn_block envelope]
    by_cases empty : envelope.computations = []
    · rw [if_pos (by simp [empty]), keysIn_block, empty]
      refine iff_of_true (List.forall_mem_nil _) ?_
      exact fun computation lasts => absurd lasts.mem List.not_mem_nil
    · have own : allowed "aggs" := keyword (by decide)
      rw [if_neg (by simpa using empty), List.forall_mem_singleton]
      exact and_iff_right own
  have offset : ∀ entry ∈ (if envelope.offset = 0 then []
      else [("from", Json.natural envelope.offset)]),
        allowed entry.1 ∧ KeysIn allowed entry.2 := by
    split
    · exact List.forall_mem_nil _
    · have own : allowed "from" := keyword (by decide)
      exact List.forall_mem_singleton.mpr ⟨own, Json.keysIn_natural _⟩
  have sorting : ∀ sort ∈ envelope.sort, KeysIn allowed (.array [SortKey.encodeEntry sort]) := by
    intro sort chosen
    have order : allowed "order" := keyword (by decide)
    rw [Json.keysIn_array, List.forall_mem_singleton, SortKey.encodeEntry, Json.keysIn_object,
      List.forall_mem_singleton, Json.keysIn_object, List.forall_mem_singleton]
    exact ⟨sorted sort chosen, order, Json.keysIn_string _⟩
  rw [Envelope.encode, Json.keysIn_object]
  simp only [List.forall_mem_append]
  rw [← Envelope.blockEntries, block, and_iff_left offset]
  simp only [List.mem_cons, List.not_mem_nil, or_false, forall_eq_or_imp, forall_eq]
  constructor
  · rintro ⟨⟨⟨computations, ⟨-, query⟩, -⟩, -⟩, -⟩
    exact ⟨query, computations⟩
  · rintro ⟨query, computations⟩
    refine ⟨⟨⟨computations, ⟨keyword (by decide), query⟩, keyword (by decide),
      Json.keysIn_natural _⟩, ?_⟩, keyword (by decide), Json.keysIn_bool true⟩
    have own : allowed "sort" := keyword (by decide)
    split
    · rename_i sort chosen
      exact List.forall_mem_singleton.mpr ⟨own, sorting sort chosen⟩
    · exact List.forall_mem_nil _

end AnalystQuery.Query
