import AnalystQuery.Intent.Normalization
import AnalystQuery.Proofs.Calendar.EmbeddedPhrases
import AnalystQuery.Proofs.Calendar.Timestamp
import AnalystQuery.Proofs.Json.Lookup
import AnalystQuery.Proofs.Json.Settled

/-! Parts of intents as they are read from an answer, and that each of them is read again from the
record that is written for it. -/

namespace AnalystQuery

theorem IntentKind.ofWord_name (kind : IntentKind) : IntentKind.ofWord kind.name = kind := by
  cases kind <;> decide +kernel

theorem Operator.ofWord_name (operator : Operator) : Operator.ofWord operator.name = operator := by
  cases operator <;> decide +kernel

theorem AggregationKind.ofWord_name (kind : AggregationKind) :
    AggregationKind.ofWord kind.name = kind := by
  cases kind <;> decide +kernel

theorem SortOrder.ofWord_name (order : SortOrder) : SortOrder.ofWord order.name = order := by
  cases order <;> decide +kernel

namespace Intent

open Calendar (Instant TimeRange IsNormalTimestamp)
open Json (Settled)

variable {depth : Nat} {text : String} {value : Json} {entries : Entries} {keys : List String}

/-- A record as it is read: its entries sorted by key. -/
def resorted : Json → Json
  | .object entries => .ofEntries entries
  | value => value

theorem mem_of_firstValue? (found : firstValue? entries keys = some value) :
    ∃ key, (key, value) ∈ entries := by
  obtain ⟨key, -, foundKey⟩ := List.mem_filterMap.mp (List.mem_of_find?_eq_some found)
  exact ⟨key, Json.mem_of_lookup foundKey⟩

/-- Text that is read as it is: trimmed and not empty. -/
structure IsGiven (text : String) : Prop where
  trimmed : Text.trim text = text
  nonempty : text ≠ ""

theorem isGiven_of_trimmedText? (read : trimmedText? value = some text) : IsGiven text := by
  rw [trimmedText?, Option.filter_eq_some_iff] at read
  obtain ⟨found, nonempty⟩ := read
  obtain ⟨whole, -, rfl⟩ := Option.map_eq_some_iff.mp found
  exact ⟨Text.trim_trim whole, by simpa using nonempty⟩

theorem trimmedText?_string (given : IsGiven text) : trimmedText? (.string text) = some text := by
  simp [trimmedText?, Json.asString?, given.trimmed, given.nonempty]

/-- A filter as it is read where so many containers may nest in its value. -/
structure NormalFilter (depth : Nat) (filter : Filter) : Prop where
  field : IsGiven filter.field
  value : Settled depth filter.value

theorem settled_of_lookup {key : String} (settled : Settled (depth + 1) (.object entries))
    (found : Json.lookup key entries = some value) : Settled depth value := by
  cases settled with
  | object sorted each => exact each _ (Json.mem_of_lookup found)

theorem normal_of_readFilter? {filter : Filter} (settled : Settled (depth + 1) value)
    (read : readFilter? value = some filter) : NormalFilter depth filter := by
  cases value with
  | object entries =>
    obtain ⟨field, foundField, same⟩ := Option.bind_eq_some_iff.mp read
    obtain ⟨fieldValue, -, readField⟩ := Option.bind_eq_some_iff.mp foundField
    obtain rfl := Option.some.inj same
    refine ⟨isGiven_of_trimmedText? readField, ?_⟩
    cases found : Json.lookup "value" entries with
    | none => exact .null
    | some value => exact settled_of_lookup settled found
  | null | bool | integer | float | string | array => cases read

theorem readFilter?_encode {filter : Filter} (normal : NormalFilter depth filter) :
    readFilter? (resorted filter.encode) = some filter := by
  have distinct : ([("field", Json.string filter.field),
      ("operator", Json.string filter.operator.name),
      ("value", filter.value)].map Prod.fst).Nodup :=
    show ["field", "operator", "value"].Nodup by decide
  rw [Filter.encode, resorted, Json.ofEntries]
  simp [readFilter?, Json.asObject?, Json.lookup_sortEntries distinct,
    firstValue?, trimmedText?_string normal.field, Json.isNull, Json.asString?,
    Operator.ofWord_name]

/-- An aggregation as it is read where so many containers may nest in its options. -/
structure NormalAggregation (depth : Nat) (aggregation : Aggregation) : Prop where
  field : ∀ field ∈ aggregation.field, IsGiven field
  label : ∀ label ∈ aggregation.label, IsGiven label
  options : Settled (depth + 1) (.object aggregation.options)

theorem isGiven_of_lookup {key : String} {found : Option String}
    (read : (Json.lookup key entries).bind trimmedText? = found) :
    ∀ text ∈ found, IsGiven text := by
  rintro text rfl
  obtain ⟨value, -, readText⟩ := Option.bind_eq_some_iff.mp read
  exact isGiven_of_trimmedText? readText

theorem normal_of_readAggregation? {aggregation : Aggregation}
    (settled : Settled (depth + 2) value)
    (read : readAggregation? value = some aggregation) : NormalAggregation depth aggregation := by
  have noOptions : Settled (depth + 1) (.object []) := .object .nil (List.forall_mem_nil _)
  cases value with
  | string word =>
    rw [readAggregation?] at read
    obtain rfl := Option.some.inj read
    exact ⟨nofun, nofun, noOptions⟩
  | object entries =>
    rw [readAggregation?] at read
    obtain rfl := Option.some.inj read
    refine ⟨isGiven_of_lookup rfl, isGiven_of_lookup rfl, ?_⟩
    dsimp only
    cases found : Json.lookup "options" entries with
    | none => exact noOptions
    | some options =>
      cases options with
      | object options => exact settled_of_lookup settled found
      | null | bool | integer | float | string | array => exact noOptions
  | null | bool | integer | float | array => cases read

theorem trimmedText?_ofOption {given : Option String} (normal : ∀ text ∈ given, IsGiven text) :
    trimmedText? (Json.ofOption .string given) = given := by
  cases given with
  | none => rfl
  | some text => exact trimmedText?_string (normal text rfl)

theorem readAggregation?_encode {aggregation : Aggregation}
    (normal : NormalAggregation depth aggregation) :
    readAggregation? (resorted aggregation.encode) = some aggregation := by
  have distinct : ([("type", Json.string aggregation.kind.name),
      ("field", Json.ofOption .string aggregation.field),
      ("name", Json.ofOption .string aggregation.label),
      ("options", Json.object aggregation.options)].map Prod.fst).Nodup :=
    show ["type", "field", "name", "options"].Nodup by decide
  rw [Aggregation.encode, resorted, Json.ofEntries]
  simp [readAggregation?, Json.asObject?, Json.lookup_sortEntries distinct,
    firstValue?, trimmedText?_ofOption normal.field,
    trimmedText?_ofOption normal.label, Json.isNull, Json.asString?,
    AggregationKind.ofWord_name]

theorem isGiven_of_readSort? {sort : SortKey} (read : readSort? value = some sort) :
    IsGiven sort.field := by
  cases value with
  | string text =>
    obtain ⟨field, readField, rfl⟩ := Option.map_eq_some_iff.mp read
    exact isGiven_of_trimmedText? readField
  | object entries =>
    obtain ⟨field, foundField, same⟩ := Option.bind_eq_some_iff.mp read
    cases same
    exact isGiven_of_lookup foundField field rfl
  | null | bool | integer | float | array => cases read

theorem readSort?_encode {sort : SortKey} (given : IsGiven sort.field) :
    readSort? (resorted sort.encode) = some sort := by
  have distinct : ([("field", Json.string sort.field),
      ("order", Json.string sort.order.name)].map Prod.fst).Nodup :=
    show ["field", "order"].Nodup by decide
  rw [SortKey.encode, resorted, Json.ofEntries]
  simp [readSort?, Json.lookup_sortEntries distinct, trimmedText?_string given, Json.asString?,
    SortOrder.ofWord_name]

/-- A window whose ends are normal timestamps. -/
structure NormalRange (offset : Int) (range : TimeRange) : Prop where
  start : IsNormalTimestamp offset range.start
  finish : IsNormalTimestamp offset range.finish

theorem normal_of_resolve? {now : Instant} {phrase : String} {range : TimeRange}
    (resolved : Calendar.resolve? now phrase = some range) (offset : Int) :
    NormalRange offset range := by
  obtain ⟨start, finish, rfl, -⟩ :=
    Calendar.inOrder_of_resolve (Calendar.resolve?_eq_some_iff.mp resolved)
  exact ⟨Calendar.isNormalTimestamp_render start offset,
    Calendar.isNormalTimestamp_render finish offset⟩

theorem normal_of_given (offset : Int) (given : IsGiven text) :
    IsNormalTimestamp offset (Calendar.normalizeTimestamp text offset) :=
  Calendar.isNormalTimestamp_normalizeTimestamp offset (given.trimmed.symm ▸ given.nonempty)

theorem normal_of_readTimeRange? {now : Instant} {range : TimeRange}
    (read : readTimeRange? now value = some range) : NormalRange now.offset range := by
  cases value with
  | string phrase => exact normal_of_resolve? read now.offset
  | object entries =>
    rw [readTimeRange?] at read
    split at read
    · exact normal_of_resolve? read now.offset
    · obtain ⟨start, foundStart, same⟩ := Option.bind_eq_some_iff.mp read
      have startGiven := isGiven_of_lookup foundStart start rfl
      obtain rfl := Option.some.inj same
      refine ⟨normal_of_given now.offset startGiven, ?_⟩
      dsimp only
      split
      · rename_i finish foundFinish
        exact normal_of_given now.offset (isGiven_of_lookup foundFinish finish rfl)
      · exact Calendar.isNormalTimestamp_render now now.offset
  | null | bool | integer | float | array => cases read

theorem given_of_normal {offset : Int} (normal : IsNormalTimestamp offset text) : IsGiven text :=
  ⟨normal.trimmed, normal.nonempty⟩

theorem readTimeRange?_encode {now : Instant} {range : TimeRange}
    (normal : NormalRange now.offset range) :
    readTimeRange? now (resorted range.encode) = some range := by
  have distinct : ([("from", Json.string range.start),
      ("to", Json.string range.finish)].map Prod.fst).Nodup :=
    show ["from", "to"].Nodup by decide
  have start := trimmedText?_string (given_of_normal normal.start)
  have finish := trimmedText?_string (given_of_normal normal.finish)
  rw [TimeRange.encode, resorted, Json.ofEntries]
  simp [readTimeRange?, Json.lookup_sortEntries distinct, firstValue?, start, finish,
    normal.start.normal, normal.finish.normal]

theorem lt_of_readNatural? {limit count : Nat}
    (read : Number.readNatural? limit text = some count) : count < limit := by
  simp only [Number.readNatural?, Option.ite_none_left_eq_some, Option.ite_none_right_eq_some,
    Option.some.injEq] at read
  obtain ⟨-, small, rfl⟩ := read
  exact small

theorem truncate_le {format : Number.Format} (number : Number.Binary format) (limit : Nat) :
    number.truncate limit ≤ limit := by
  rw [Number.Binary.truncate]
  split
  · exact Nat.zero_le _
  · split
    · exact Nat.le_refl _
    · exact Nat.min_le_left _ _

theorem lt_of_countValue? {count : Nat} (settled : Settled depth value)
    (read : countValue? value = some count) : count < Json.integerLimit := by
  cases value with
  | string text =>
    rw [countValue?] at read
    exact lt_of_readNatural? read
  | integer whole =>
    cases settled with
    | integer within =>
      have below := within.2
      rw [countValue?] at read
      split at read
      · cases read
        omega
      · cases read
  | float number =>
    rw [countValue?] at read
    split at read
    · obtain rfl := Option.some.inj read
      have below := truncate_le number (Nat.pow 2 64 - 1)
      exact Nat.lt_of_le_of_lt below (by decide)
    · cases read
  | null | bool | array | object => cases read

theorem countValue?_natural (count : Nat) : countValue? (.natural count) = some count := by
  simp [countValue?, Json.natural]

end Intent

end AnalystQuery
