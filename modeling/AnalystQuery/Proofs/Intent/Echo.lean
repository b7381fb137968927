import AnalystQuery.Proofs.Intent.Candidates
import AnalystQuery.Proofs.Intent.Confidence
import AnalystQuery.Proofs.Intent.Entities
import AnalystQuery.Proofs.Intent.Parts
import AnalystQuery.Proofs.Intent.Scanning

/-! Intents that are shown to the language model as JSON and come back unchanged: the text of an
intent that was read from an answer is read as that intent again. -/

namespace AnalystQuery.Intent

open Calendar (Instant TimeRange)
open Json (Settled ReadsAs ReadsBack compactText)
open Number (Binary Double Single)

variable {depth : Nat} {offset : Int} {intent : Intent} {entries : Entries}

/-- An intent as it is read, where so many containers may nest in the options of its
aggregations. -/
structure NormalIntent (depth : Nat) (offset : Int) (intent : Intent) : Prop where
  entities : intent.entities.IsNormal
  filters : ∀ filter ∈ intent.filters, NormalFilter (depth + 1) filter
  aggregations : ∀ aggregation ∈ intent.aggregations, NormalAggregation depth aggregation
  timeRange : ∀ range ∈ intent.timeRange, NormalRange offset range
  sort : ∀ sort ∈ intent.sort, IsGiven sort.field
  size : ∀ size ∈ intent.size, size < Json.integerLimit
  skipped : ∀ offset ∈ intent.offset, offset < Json.integerLimit
  parsed : intent.parseFailed = false
  reason : intent.failureReason = none

theorem settled_of_firstValue? {keys : List String} {value : Json}
    (settled : Settled (depth + 1) (.object entries))
    (found : firstValue? entries keys = some value) : Settled depth value := by
  obtain ⟨key, member⟩ := mem_of_firstValue? found
  cases settled with
  | object sorted each => exact each _ member

theorem settled_of_mem_listUnder {keys : List String} {item : Json}
    (settled : Settled (depth + 2) (.object entries)) (member : item ∈ listUnder entries keys) :
    Settled depth item := by
  rw [listUnder] at member
  cases found : firstValue? entries keys with
  | none =>
    rw [found] at member
    cases member
  | some value =>
    have inside := settled_of_firstValue? settled found
    rw [found] at member
    cases inside with
    | array each => exact each item member
    | null | bool | integer | float | string | object => cases member

/-- Reading settled entries gives a normal intent. -/
theorem normal_ofEntries (confidences : Confidences) (now : Instant)
    (settled : Settled (depth + 4) (.object entries)) :
    NormalIntent depth now.offset (ofEntries confidences now entries) := by
  refine ⟨?_, ?_, ?_, ?_, ?_, ?_, ?_, rfl, rfl⟩
  · cases found : (firstValue? entries ["entities"]).bind Json.asObject? with
    | none => simpa [ofEntries, found] using Entities.isNormal_empty
    | some named => simpa [ofEntries, found] using isNormal_readEntities named
  · intro filter member
    obtain ⟨item, memberItem, read⟩ := List.mem_filterMap.mp member
    exact normal_of_readFilter? (settled_of_mem_listUnder settled memberItem) read
  · intro aggregation member
    obtain ⟨item, memberItem, read⟩ := List.mem_filterMap.mp member
    exact normal_of_readAggregation? (settled_of_mem_listUnder settled memberItem) read
  · intro range member
    obtain ⟨value, -, read⟩ := Option.bind_eq_some_iff.mp member
    exact normal_of_readTimeRange? read
  · intro sort member
    obtain ⟨value, -, read⟩ := Option.bind_eq_some_iff.mp member
    exact isGiven_of_readSort? read
  · intro size member
    obtain ⟨value, found, read⟩ := Option.bind_eq_some_iff.mp member
    exact lt_of_countValue? (settled_of_firstValue? settled found) read
  · intro offset member
    obtain ⟨value, found, read⟩ := Option.bind_eq_some_iff.mp member
    exact lt_of_countValue? (settled_of_firstValue? settled found) read

/-- The floats of an intent that are copied from the answer. -/
def floats (intent : Intent) : List Double :=
  intent.filters.flatMap (·.value.floats) ++
    intent.aggregations.flatMap fun aggregation => (Json.object aggregation.options).floats

/-- The entries that are read from the text of an intent. -/
def echoEntries (intent : Intent) (confidence : Double) : Entries :=
  [("intent", .string intent.kind.name),
    ("entities", resorted intent.entities.encode),
    ("filters", .array (intent.filters.map fun filter => resorted filter.encode)),
    ("aggregations",
      .array (intent.aggregations.map fun aggregation => resorted aggregation.encode))] ++
  Json.optionalEntry "time_range" (fun range => resorted (TimeRange.encode range))
    intent.timeRange ++
  Json.optionalEntry "sort" (fun sort => resorted (SortKey.encode sort)) intent.sort ++
  Json.optionalEntry "size" Json.natural intent.size ++
  Json.optionalEntry "from" Json.natural intent.offset ++
  [("confidence", .float confidence), ("parse_failed", .bool false)]

theorem keys_optionalEntry {α : Type} (name : String) (encode : α → Json) (value : Option α) :
    ((Json.optionalEntry name encode value).map Prod.fst).Sublist [name] := by
  cases value with
  | none => exact List.nil_sublist _
  | some value => exact List.Sublist.refl _

theorem distinct_echoEntries (intent : Intent) (confidence : Double) :
    ((echoEntries intent confidence).map Prod.fst).Nodup := by
  have names : (["intent", "entities", "filters", "aggregations"] ++ ["time_range"] ++ ["sort"] ++
      ["size"] ++ ["from"] ++ ["confidence", "parse_failed"]).Nodup := by decide
  refine List.Sublist.nodup ?_ names
  simp only [echoEntries, List.map_append]
  exact ((((List.Sublist.refl _).append (keys_optionalEntry _ _ _)).append
    (keys_optionalEntry _ _ _)).append (keys_optionalEntry _ _ _)).append
    (keys_optionalEntry _ _ _) |>.append (List.Sublist.refl _)

section Echo

variable {confidence : Double}

theorem firstValue?_echo (intent : Intent) (confidence : Double) (keys : List String) :
    firstValue? (Json.sortEntries (echoEntries intent confidence)) keys =
      firstValue? (echoEntries intent confidence) keys := by
  have same : (Json.lookup · (Json.sortEntries (echoEntries intent confidence))) =
      (Json.lookup · (echoEntries intent confidence)) :=
    funext (Json.lookup_sortEntries (distinct_echoEntries intent confidence))
  rw [firstValue?, same, firstValue?]

theorem lookup_echo (intent : Intent) (confidence : Double) (key : String) :
    Json.lookup key (echoEntries intent confidence) =
      (Json.lookup key [("intent", .string intent.kind.name),
        ("entities", resorted intent.entities.encode),
        ("filters", .array (intent.filters.map fun filter => resorted filter.encode)),
        ("aggregations",
          .array (intent.aggregations.map fun aggregation => resorted aggregation.encode))]).or
      ((if "time_range" = key then
          intent.timeRange.map fun range => resorted (TimeRange.encode range) else none).or
      ((if "sort" = key then
          intent.sort.map fun sort => resorted (SortKey.encode sort) else none).or
      ((if "size" = key then intent.size.map Json.natural else none).or
      ((if "from" = key then intent.offset.map Json.natural else none).or
      (Json.lookup key [("confidence", .float confidence), ("parse_failed", .bool false)]))))) := by
  simp only [echoEntries, Json.lookup_append, Json.lookup_optionalEntry, Option.or_assoc]

theorem readEntities_echo (normal : intent.entities.IsNormal) :
    ((firstValue? (echoEntries intent confidence) ["entities"]).bind Json.asObject?).elim
      Entities.empty readEntities = intent.entities := by
  have found : (firstValue? (echoEntries intent confidence) ["entities"]).bind Json.asObject? =
      some (Json.sortEntries (Category.all.map (writtenEntry intent.entities))) := rfl
  rw [found, Option.elim_some, readEntities_written normal]

theorem filters_echo (normal : ∀ filter ∈ intent.filters, NormalFilter depth filter) :
    (listUnder (echoEntries intent confidence) ["filters"]).filterMap readFilter? =
      intent.filters := by
  have found : listUnder (echoEntries intent confidence) ["filters"] =
      intent.filters.map fun filter => resorted filter.encode := rfl
  rw [found]
  exact filterMap_map_of_read fun filter member => readFilter?_encode (normal filter member)

theorem aggregations_echo
    (normal : ∀ aggregation ∈ intent.aggregations, NormalAggregation depth aggregation) :
    (listUnder (echoEntries intent confidence) ["aggregations", "aggs"]).filterMap
      readAggregation? = intent.aggregations := by
  have found : listUnder (echoEntries intent confidence) ["aggregations", "aggs"] =
      intent.aggregations.map fun aggregation => resorted aggregation.encode := rfl
  rw [found]
  exact filterMap_map_of_read fun aggregation member =>
    readAggregation?_encode (normal aggregation member)

theorem timeRange_echo {now : Instant}
    (normal : ∀ range ∈ intent.timeRange, NormalRange now.offset range) :
    (firstValue? (echoEntries intent confidence) ["timeRange", "time_range", "time"]).bind
      (readTimeRange? now) = intent.timeRange := by
  simp only [firstValue?, lookup_echo]
  cases range : intent.timeRange with
  | none => rfl
  | some window => exact readTimeRange?_encode (normal window range)

theorem sort_echo (normal : ∀ sort ∈ intent.sort, IsGiven sort.field) :
    (firstValue? (echoEntries intent confidence) ["sort"]).bind readSort? = intent.sort := by
  simp only [firstValue?, lookup_echo]
  cases sort : intent.sort with
  | none => rfl
  | some key => exact readSort?_encode (normal key sort)

theorem size_echo (intent : Intent) (confidence : Double) :
    (firstValue? (echoEntries intent confidence) ["size", "limit"]).bind countValue? =
      intent.size := by
  simp only [firstValue?, lookup_echo]
  cases intent.size with
  | none => rfl
  | some count => exact countValue?_natural count

theorem offset_echo (intent : Intent) (confidence : Double) :
    (firstValue? (echoEntries intent confidence) ["from", "offset"]).bind countValue? =
      intent.offset := by
  simp only [firstValue?, lookup_echo]
  cases intent.offset with
  | none => rfl
  | some count => exact countValue?_natural count

theorem confidence_echo (intent : Intent) (confidence : Double) :
    (firstValue? (echoEntries intent confidence) ["confidence"]).bind confidenceValue? =
      some confidence := by
  simp only [firstValue?, lookup_echo]
  rfl

theorem listUnder_echo (intent : Intent) (confidence : Double) (keys : List String) :
    listUnder (Json.sortEntries (echoEntries intent confidence)) keys =
      listUnder (echoEntries intent confidence) keys := by
  rw [listUnder, firstValue?_echo, listUnder]

/-- From the entries of a normal intent the intent is read again. -/
theorem ofEntries_echo {confidences : Confidences} {now : Instant}
    (normal : NormalIntent depth now.offset intent)
    (kept : clampConfidence (some confidence) confidences.default = intent.confidence) :
    ofEntries confidences now (Json.sortEntries (echoEntries intent confidence)) = intent := by
  have kind : ((firstValue? (echoEntries intent confidence)
      ["intent", "intentKind", "intent_kind", "kind"]).bind Json.asString?).elim
      IntentKind.search IntentKind.ofWord = intent.kind := by
    have found : (firstValue? (echoEntries intent confidence)
        ["intent", "intentKind", "intent_kind", "kind"]).bind Json.asString? =
      some intent.kind.name := rfl
    rw [found, Option.elim_some, IntentKind.ofWord_name]
  have parsed := normal.parsed
  have reason := normal.reason
  rw [ofEntries]
  simp only [firstValue?_echo, listUnder_echo, kind, confidence_echo, kept,
    readEntities_echo normal.entities, filters_echo normal.filters,
    aggregations_echo normal.aggregations, timeRange_echo normal.timeRange,
    sort_echo normal.sort, size_echo, offset_echo]
  rw [← parsed, ← reason]

end Echo

theorem readsAs_record (each : ∀ entry ∈ entries, ReadsAs depth (compactText entry.2) entry.2) :
    ReadsAs (depth + 1) (compactText (.object entries)) (resorted (.object entries)) :=
  Json.readsAs_object (List.forall₂_same.mpr fun entry member => ⟨rfl, each entry member⟩)

theorem readsAs_strings (texts : List String) :
    ReadsAs (depth + 1) (compactText (.strings texts)) (.strings texts) := by
  refine Json.readsAs_array (List.forall₂_same.mpr ?_)
  intro item member
  obtain ⟨text, -, rfl⟩ := List.mem_map.mp member
  exact Json.readsAs_string text

theorem readsAs_ofOption (text : Option String) :
    ReadsAs depth (compactText (Json.ofOption .string text)) (Json.ofOption .string text) := by
  cases text with
  | none => exact Json.readsAs_null
  | some text => exact Json.readsAs_string text

theorem readsAs_natural {count : Nat} (small : count < Json.integerLimit) :
    ReadsAs depth (compactText (Json.natural count)) (Json.natural count) :=
  Json.readsAs_integer ⟨by omega, by omega⟩

theorem readsAs_entities (entities : Entities) :
    ReadsAs (depth + 2) (compactText entities.encode) (resorted entities.encode) := by
  refine readsAs_record fun entry member => ?_
  obtain ⟨category, -, rfl⟩ := List.mem_map.mp member
  exact readsAs_strings _

theorem readsAs_filter {filter : Filter} (normal : NormalFilter depth filter)
    (numbers : ∀ number ∈ filter.value.floats, ReadsBack number) :
    ReadsAs (depth + 1) (compactText filter.encode) (resorted filter.encode) := by
  refine readsAs_record ?_
  simp only [List.forall_mem_cons]
  exact ⟨Json.readsAs_string _, Json.readsAs_string _,
    Json.readsAs_of_settled normal.value numbers, List.forall_mem_nil _⟩

theorem readsAs_aggregation {aggregation : Aggregation}
    (normal : NormalAggregation depth aggregation)
    (numbers : ∀ number ∈ (Json.object aggregation.options).floats, ReadsBack number) :
    ReadsAs (depth + 2) (compactText aggregation.encode) (resorted aggregation.encode) := by
  refine readsAs_record ?_
  simp only [List.forall_mem_cons]
  exact ⟨Json.readsAs_string _, readsAs_ofOption _, readsAs_ofOption _,
    Json.readsAs_of_settled normal.options numbers, List.forall_mem_nil _⟩

theorem readsAs_texts (first second : String × String) :
    ReadsAs (depth + 1)
      (compactText (.object [(first.1, .string first.2), (second.1, .string second.2)]))
      (resorted (.object [(first.1, .string first.2), (second.1, .string second.2)])) := by
  refine readsAs_record ?_
  simp only [List.forall_mem_cons]
  exact ⟨Json.readsAs_string _, Json.readsAs_string _, List.forall_mem_nil _⟩

theorem forall₂_optionalEntry {α : Type} (name : String) {write read : α → Json}
    {value : Option α}
    (each : ∀ held ∈ value, ReadsAs depth (compactText (write held)) (read held)) :
    List.Forall₂ (fun entry value =>
      entry.1 = value.1 ∧ ReadsAs depth (compactText entry.2) value.2)
      (Json.optionalEntry name write value) (Json.optionalEntry name read value) := by
  cases value with
  | none => exact .nil
  | some held => exact .cons ⟨rfl, each held rfl⟩ .nil

theorem readsAs_confidence {confidence : Single} {read : Double}
    (stated : Json.read? (Json.ofSingle confidence).compact = some (.float read)) :
    ReadsAs depth (compactText (Json.ofSingle confidence)) (.float read) := by
  rw [Json.ofSingle] at stated ⊢
  split
  · rename_i infinite
    have readNull : Json.read? Json.null.compact = some .null := Json.readsAs_null.read?
    rw [if_pos infinite, readNull] at stated
    cases stated
  · rename_i finite
    rw [if_neg finite] at stated
    split
    · rename_i zero
      rw [if_pos zero] at stated
      exact Json.readsAs_float stated
    · rename_i positive
      rw [if_neg positive] at stated
      exact Json.readsAs_float stated

theorem readsAs_map {α : Type} {items : List α} {write read : α → Json}
    (each : ∀ item ∈ items, ReadsAs depth (compactText (write item)) (read item)) :
    ReadsAs (depth + 1) (compactText (.array (items.map write))) (.array (items.map read)) := by
  refine Json.readsAs_array ?_
  rw [List.forall₂_map_left_iff, List.forall₂_map_right_iff, List.forall₂_same]
  exact each

theorem readsAs_encode {confidence : Double} (normal : NormalIntent depth offset intent)
    (numbers : ∀ number ∈ intent.floats, ReadsBack number)
    (stated : Json.read? (Json.ofSingle intent.confidence).compact = some (.float confidence)) :
    ReadsAs (depth + 4) (compactText intent.encode)
      (.ofEntries (echoEntries intent confidence)) := by
  have filters : ∀ filter ∈ intent.filters,
      ReadsAs (depth + 2) (compactText filter.encode) (resorted filter.encode) := by
    intro filter member
    refine readsAs_filter (normal.filters filter member) fun number below => ?_
    exact numbers number (List.mem_append_left _ (List.mem_flatMap.mpr ⟨filter, member, below⟩))
  have aggregations : ∀ aggregation ∈ intent.aggregations,
      ReadsAs (depth + 2) (compactText aggregation.encode) (resorted aggregation.encode) := by
    intro aggregation member
    refine readsAs_aggregation (normal.aggregations aggregation member) fun number below => ?_
    exact numbers number
      (List.mem_append_right _ (List.mem_flatMap.mpr ⟨aggregation, member, below⟩))
  have noReason : Json.optionalEntry "parse_failure_reason" Json.string intent.failureReason =
      [] := by
    rw [normal.reason]
    rfl
  rw [encode, noReason, List.append_nil, normal.parsed]
  refine Json.readsAs_object ?_
  refine List.rel_append (List.rel_append (List.rel_append (List.rel_append (List.rel_append
    ?_ ?_) ?_) ?_) ?_) ?_
  · exact .cons ⟨rfl, Json.readsAs_string _⟩ <| .cons ⟨rfl, readsAs_entities intent.entities⟩ <|
      .cons ⟨rfl, readsAs_map filters⟩ <| .cons ⟨rfl, readsAs_map aggregations⟩ .nil
  · exact forall₂_optionalEntry _ fun range _ =>
      readsAs_texts ("from", range.start) ("to", range.finish)
  · exact forall₂_optionalEntry _ fun sort _ =>
      readsAs_texts ("field", sort.field) ("order", sort.order.name)
  · exact forall₂_optionalEntry _ fun size held => readsAs_natural (normal.size size held)
  · exact forall₂_optionalEntry _ fun offset held => readsAs_natural (normal.skipped offset held)
  · exact .cons ⟨rfl, readsAs_confidence stated⟩ <| .cons ⟨rfl, Json.readsAs_bool false⟩ .nil

theorem normalize_compact (confidences : Confidences) (now : Instant) {written read : Entries}
    (text : Json.read? (Json.object written).compact = some (.object read)) :
    normalize confidences now (Json.object written).compact =
      .parsed (ofEntries confidences now read) := by
  refine (normalize_eq_parsed_iff confidences now _ _).mpr ⟨0, compactText (.object written), read,
    ?_, rfl⟩
  have balanced := balancedObject?_compactText written
  rw [Json.compact] at text ⊢
  rw [String.toList_ofList]
  rw [Json.compactText_object] at balanced text ⊢
  exact (readAt_first List.not_mem_nil).mpr ⟨balanced, text⟩

/-- The text of every number of an intent is read as that number. -/
structure NumbersReadBack (intent : Intent) : Prop where
  floats : ∀ number ∈ intent.floats, ReadsBack number
  confidence : (Json.readFloat? (Json.ofSingle intent.confidence).compact).map Binary.convert =
    some intent.confidence

/-- Whatever intent is read from an answer, its own text is read as the same intent, at any other
instant of the same offset. -/
theorem normalize_echo (confidences : Confidences) (now again : Instant)
    (sameOffset : again.offset = now.offset) (answer : String) (intent : Intent)
    (parsed : normalize confidences now answer = .parsed intent)
    (numbers : NumbersReadBack intent) :
    normalize confidences again intent.encode.compact = .parsed intent := by
  obtain ⟨start, span, entries, readAt, rfl⟩ :=
    (normalize_eq_parsed_iff confidences now answer intent).mp parsed
  have settled : Settled (123 + 4) (.object entries) := Json.settled_of_read? readAt.valid
  have normal := normal_ofEntries confidences now settled
  rw [← sameOffset] at normal
  obtain ⟨read, foundFloat, converted⟩ := Option.map_eq_some_iff.mp numbers.confidence
  have stated := Json.readFloat?_eq_some_iff.mp foundFloat
  have kept : clampConfidence (some read) confidences.default =
      (ofEntries confidences now entries).confidence := clampConfidence_again stated converted
  have text := (readsAs_encode normal numbers.floats stated).read?
  have whole := normalize_compact confidences again text
  rwa [ofEntries_echo normal kept] at whole

theorem Outcome.eq_parsed {outcome : Outcome} (read : outcome.isDegraded = false) :
    outcome = .parsed outcome.intent := by
  cases outcome with
  | parsed intent => rfl
  | degraded failure confidence => cases read

/-- An answer with a synonym, a number with a digit behind the point and a written day. -/
def spokenAnswer : String :=
  "\x7b\"entities\":\x7b\"channel\":\" E-Mail\"\x7d," ++
    "\"filters\":[\x7b\"field\":\"score\",\"value\":0.5\x7d]," ++
    "\"time\":\x7b\"from\":\"10/14/2026\"\x7d\x7d"

def usualConfidences : Confidences := ⟨⟨false, 0x3F333333⟩, ⟨false, 0x3E99999A⟩⟩

def spokenAt : Instant := ⟨⟨63927588600, 0, 7200⟩, by decide⟩

def echoedAt : Instant := ⟨⟨63999999999, 5, 7200⟩, by decide⟩

def spokenIntent : Intent := (normalize usualConfidences spokenAt spokenAnswer).intent

theorem spoken_answer_echoed :
    normalize usualConfidences spokenAt spokenAnswer = .parsed spokenIntent ∧
      NumbersReadBack spokenIntent ∧
      normalize usualConfidences echoedAt spokenIntent.encode.compact =
        .parsed spokenIntent := by
  have read : (normalize usualConfidences spokenAt spokenAnswer).isDegraded = false := by
    decide +kernel
  have parsed := Outcome.eq_parsed read
  have numbers : NumbersReadBack spokenIntent := ⟨by decide +kernel, by decide +kernel⟩
  exact ⟨parsed, numbers, normalize_echo usualConfidences spokenAt echoedAt rfl spokenAnswer
    spokenIntent parsed numbers⟩

end AnalystQuery.Intent
