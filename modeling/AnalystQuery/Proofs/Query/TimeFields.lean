import AnalystQuery.Proofs.Query.Clauses
import AnalystQuery.Proofs.Query.Envelope

/-! The field that stands for the time of documents. Among the dates of a schema one with a
conventional name comes before all others, in the order of the names, unless a field of another
type hides it: one that has the first conventional name that is present at all. -/

namespace AnalystQuery

namespace Schema

variable {schema : Schema} {field : Field} {name : String}

def hasDate (schema : Schema) (name : String) : Bool :=
  schema.fields.any fun field => field.name == name && field.type == .date

/-- The first conventional name that a date has. -/
def preferredDate? (schema : Schema) : Option String := timeFieldNames.find? schema.hasDate

def firstDate? (schema : Schema) : Option Field := schema.fields.find? (·.type == .date)

theorem hasDate_of_field? (found : schema.field? name = some field) (date : field.type = .date) :
    schema.hasDate name = true := by
  have named := List.find?_some found
  refine List.any_eq_true.mpr ⟨field, mem_of_field? found, ?_⟩
  rw [named, date]
  rfl

theorem hasDate_of_absent (absent : schema.field? name = none) : schema.hasDate name = false := by
  rw [field?, List.find?_eq_none] at absent
  rw [Bool.eq_false_iff, hasDate, ne_eq, List.any_eq_true]
  rintro ⟨field, member, both⟩
  exact absent field member (Bool.and_eq_true_iff.mp both).1

theorem firstDate?_eq_none_iff :
    schema.firstDate? = none ↔ ∀ field ∈ schema.fields, field.type ≠ .date := by
  rw [firstDate?, List.find?_eq_none]
  simp only [beq_iff_eq, ne_eq]

/-- A date that has the first conventional name that is present is preferred and chosen. -/
theorem timeField?_of_date (present : schema.firstPresent? timeFieldNames = some field)
    (date : field.type = .date) :
    schema.timeField? = some field ∧ schema.preferredDate? = some field.name := by
  constructor
  · have kept : (schema.firstPresent? timeFieldNames).filter (·.type == .date) = some field := by
      rw [present, Option.filter_some, date]
      rfl
    rw [timeField?, kept]
  · obtain ⟨before, name, after, names, found, earlier⟩ := List.findSome?_eq_some_iff.mp present
    have matched := List.find?_some found
    have named : field.name = name := beq_iff_eq.mp matched
    rw [preferredDate?, List.find?_eq_some_iff_append, named]
    refine ⟨hasDate_of_field? found date, before, after, names, fun other member => ?_⟩
    rw [hasDate_of_absent (earlier other member)]
    rfl

theorem timeField?_of_other
    (other : ∀ field, schema.firstPresent? timeFieldNames = some field → field.type ≠ .date) :
    schema.timeField? = schema.firstDate? := by
  have dropped : (schema.firstPresent? timeFieldNames).filter (·.type == .date) = none := by
    rw [Option.filter_eq_none_iff]
    intro field present
    simpa using other field present
  rw [timeField?, dropped]
  rfl

theorem preferredDate?_of_absent (absent : schema.firstPresent? timeFieldNames = none) :
    schema.preferredDate? = none := by
  rw [preferredDate?, List.find?_eq_none]
  intro name listed
  rw [hasDate_of_absent (List.findSome?_eq_none_iff.mp absent name listed)]
  exact Bool.false_ne_true

theorem timeField?_eq_none_iff :
    schema.timeField? = none ↔ ∀ field ∈ schema.fields, field.type ≠ .date := by
  constructor
  · intro none
    by_cases dated : ∃ field, schema.firstPresent? timeFieldNames = some field ∧ field.type = .date
    · obtain ⟨field, present, date⟩ := dated
      cases none.symm.trans (timeField?_of_date present date).1
    · rw [not_exists] at dated
      rw [timeField?_of_other fun field present date => dated field ⟨present, date⟩] at none
      exact firstDate?_eq_none_iff.mp none
  · intro undated
    rw [Option.eq_none_iff_forall_ne_some]
    intro field found
    exact undated field (mem_of_timeField? found) (date_of_timeField? found)

end Schema

namespace Query

open Schema (timeFieldNames)

variable {schema : Schema}

/-- The key that a request asks to sort by, if its field can be sorted. -/
def usableSort? (schema : Schema) (requested : Option SortKey) : Option Field :=
  requested.bind fun sort => (schema.field? sort.field).filter (·.type.isExact)

/-- Times are looked for in the date with the first conventional name, and in the date that is
listed first only where no date has such a name. -/
structure TimedByConvention (schema : Schema) : Prop where
  none_iff : schema.timeField? = none ↔ ∀ field ∈ schema.fields, field.type ≠ .date
  preferred : ∀ name, schema.preferredDate? = some name →
    ∃ field ∈ schema.fields, schema.timeField? = some field ∧ field.name = name ∧
      field.type = .date
  otherwise : schema.preferredDate? = none → schema.timeField? = schema.firstDate?
  windows : ∀ name, schema.preferredDate? = some name → ∀ range, ∃ words,
    (timeContribution schema range).clause = some (.filter, .leaf (.range name
      [("gte", .string range.start), ("lte", .string range.finish)]), words)
  sorting : ∀ name, schema.preferredDate? = some name → ∀ sizes index intent,
    usableSort? schema intent.sort = none →
      (compile sizes index schema intent).sort? =
        some (.array [SortKey.encodeEntry ⟨name, .descending⟩])

/-- The first conventional name that is present belongs to a field that is no date, and the date
that is listed first is not the preferred one. -/
structure HidesPreferred (schema : Schema) : Prop where
  other : ∃ field, schema.firstPresent? timeFieldNames = some field ∧ field.type ≠ .date
  later : ∃ name, schema.preferredDate? = some name ∧
    ∀ field, schema.firstDate? = some field → field.name ≠ name

theorem windowed_at {field : Field} (timed : schema.timeField? = some field)
    (range : Calendar.TimeRange) :
    ∃ words, (timeContribution schema range).clause = some (.filter, .leaf (.range field.name
      [("gte", .string range.start), ("lte", .string range.finish)]), words) :=
  (timeContribution_clause_iff schema range).mpr ⟨field, timed, rfl, rfl⟩

theorem chooseSort_latest {field : Field} {requested : Option SortKey}
    (timed : schema.timeField? = some field) (unusable : usableSort? schema requested = none) :
    (chooseSort schema requested).1 = some ⟨field.name, .descending⟩ := by
  cases requested with
  | none => simp [chooseSort, timed]
  | some sort =>
    rw [usableSort?, Option.bind_some] at unusable
    simp [chooseSort, timed, unusable]

theorem sort?_compile_latest {field : Field} {intent : Intent} (sizes : Sizes) (index : String)
    (timed : schema.timeField? = some field) (unusable : usableSort? schema intent.sort = none) :
    (compile sizes index schema intent).sort? =
      some (.array [SortKey.encodeEntry ⟨field.name, .descending⟩]) := by
  have chosen : (plan sizes schema intent).1.sort = some ⟨field.name, .descending⟩ :=
    chooseSort_latest timed unusable
  rw [GeneratedQuery.sort?, compile_envelope, Envelope.get?_sort, chosen]
  rfl

theorem timedByConvention_of_preferred
    (preferred : ∀ name, schema.preferredDate? = some name →
      ∃ field, schema.timeField? = some field ∧ field.name = name)
    (otherwise : schema.preferredDate? = none → schema.timeField? = schema.firstDate?) :
    TimedByConvention schema := by
  refine ⟨Schema.timeField?_eq_none_iff, ?_, otherwise, ?_, ?_⟩
  · intro name first
    obtain ⟨field, timed, named⟩ := preferred name first
    exact ⟨field, Schema.mem_of_timeField? timed, timed, named, Schema.date_of_timeField? timed⟩
  · intro name first range
    obtain ⟨field, timed, rfl⟩ := preferred name first
    exact windowed_at timed range
  · intro name first sizes index intent unusable
    obtain ⟨field, timed, rfl⟩ := preferred name first
    exact sort?_compile_latest sizes index timed unusable

/-- Windows of time and the usual sorting keep to the conventional dates of a schema, except where
a field of another type hides the preferred one. -/
theorem conventional_dates_preferred_iff (schema : Schema) :
    TimedByConvention schema ↔ ¬ HidesPreferred schema := by
  constructor
  · rintro timed ⟨⟨keyword, present, other⟩, name, first, unnamed⟩
    obtain ⟨field, -, chosen, named, -⟩ := timed.preferred name first
    rw [Schema.timeField?_of_other fun field found =>
      Option.some.inj (present.symm.trans found) ▸ other] at chosen
    exact unnamed field chosen named
  · intro visible
    cases present : schema.firstPresent? timeFieldNames with
    | none =>
      have undated := Schema.preferredDate?_of_absent present
      refine timedByConvention_of_preferred (fun name first => ?_) fun _ => ?_
      · cases undated.symm.trans first
      · refine Schema.timeField?_of_other fun field found => ?_
        cases present.symm.trans found
    | some field =>
      by_cases date : field.type = .date
      · obtain ⟨timed, first⟩ := Schema.timeField?_of_date present date
        refine timedByConvention_of_preferred (fun name preferred => ?_) fun unnamed => ?_
        · exact ⟨field, timed, Option.some.inj (first.symm.trans preferred)⟩
        · cases first.symm.trans unnamed
      · have listed : schema.timeField? = schema.firstDate? :=
          Schema.timeField?_of_other fun own found =>
            Option.some.inj (present.symm.trans found) ▸ date
        refine timedByConvention_of_preferred (fun name preferred => ?_) fun _ => listed
        -- Since the preferred date is not hidden, it is the one that is listed first.
        by_contra unnamed
        refine visible ⟨⟨field, present, date⟩, name, preferred, fun first found named => ?_⟩
        exact unnamed ⟨first, listed.trans found, named⟩

/-- Where timestamps are kept as keywords, the day of opening passes for the time of documents,
though there is a date of creation. -/
theorem opening_passes_for_creation : ¬ ∀ schema : Schema, TimedByConvention schema := by
  intro always
  let tickets : Schema :=
    ⟨[⟨"timestamp", .keyword, none⟩, ⟨"opened_at", .date, none⟩, ⟨"created_at", .date, none⟩]⟩
  have preferred : tickets.preferredDate? = some "created_at" := by decide +kernel
  have chosen : tickets.timeField? = some ⟨"opened_at", .date, none⟩ := by decide +kernel
  obtain ⟨field, -, timed, named, -⟩ := (always tickets).preferred "created_at" preferred
  obtain rfl := Option.some.inj (chosen.symm.trans timed)
  exact absurd named (by decide)

end Query

end AnalystQuery
