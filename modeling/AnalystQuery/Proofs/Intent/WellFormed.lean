import AnalystQuery.Proofs.Intent.Echo
import AnalystQuery.Proofs.Intent.Insertions

/-! Intents that come out of an answer, whatever it is: their confidence is one, their values are
canonical and stand once, whichever of its keys named a category, and their names are trimmed.
Answers that cannot be read become searches for nothing in particular. -/

namespace AnalystQuery

namespace Intent

open Calendar (Instant)

variable {category : Category} {value : String} {entries : Entries}

/-- Whether entries name a value of a category: they hold a text that means it under one of the
keys of the category. -/
def Names (entries : Entries) (category : Category) (value : String) : Prop :=
  value ≠ "" ∧ ∃ entry ∈ entries, Category.ofKey? entry.1 = some category ∧
    ∃ text ∈ scalarTexts entry.2, Glossary.normalize category text = value

theorem mem_get_readEntities :
    value ∈ (readEntities entries).get category ↔ Names entries category value := by
  rw [get_readEntities, Entities.mem_firsts, List.mem_flatMap, Names]
  simp only [mem_entryInsertions]

/-- What holds of every intent that comes out of an answer. -/
structure WellFormed (intent : Intent) : Prop where
  confidence : InUnit intent.confidence
  entities : intent.entities.IsNormal
  filters : ∀ filter ∈ intent.filters, IsGiven filter.field
  measured : ∀ aggregation ∈ intent.aggregations, ∀ field ∈ aggregation.field, IsGiven field
  labelled : ∀ aggregation ∈ intent.aggregations, ∀ label ∈ aggregation.label, IsGiven label
  sorted : ∀ sort ∈ intent.sort, IsGiven sort.field

/-- The search that stands for an answer which could not be read, and tells why. -/
structure StandsForFailure (intent : Intent) : Prop where
  search : intent.kind = .search
  failed : intent.parseFailed = true
  reason : ∃ reason ∈ intent.failureReason, reason ≠ ""
  entities : intent.entities.isEmpty = true
  filters : intent.filters = []
  aggregations : intent.aggregations = []

theorem isNotANumber_of_inUnit {value : Number.Single} (within : InUnit value) :
    value.isNotANumber = false := by
  have small := magnitude_unit_single ▸ within.atMost
  have infinity : Number.Binary.unitSingle < Number.Format.single.infinity := by decide
  rw [Number.Binary.isNotANumber, decide_eq_false_iff_not]
  omega

theorem inUnit_clampConfidence_of_default {default : Number.Single} (within : InUnit default)
    (stated : Option Number.Double) : InUnit (clampConfidence stated default) := by
  have assumed : InUnit (clampToUnit default) :=
    inUnit_clampToUnit plain_unit_single (isNotANumber_of_inUnit within)
  cases stated with
  | none => exact assumed
  | some value =>
    rw [clampConfidence]
    split
    · exact assumed
    · rename_i number
      exact inUnit_convert (inUnit_clampToUnit plain_unit_double (Bool.not_eq_true _ ▸ number))

theorem wellFormed_ofEntries {confidences : Confidences} (default : InUnit confidences.default)
    (now : Instant) {depth : Nat} (settled : Json.Settled (depth + 4) (.object entries)) :
    WellFormed (ofEntries confidences now entries) := by
  have normal := normal_ofEntries confidences now settled
  refine ⟨inUnit_clampConfidence_of_default default _, normal.entities, ?_, ?_, ?_, normal.sort⟩
  · exact fun filter member => (normal.filters filter member).field
  · exact fun aggregation member => (normal.aggregations aggregation member).field
  · exact fun aggregation member => (normal.aggregations aggregation member).label

theorem wellFormed_degraded (reason : String) {confidence : Number.Single}
    (within : InUnit confidence) : WellFormed (.degraded reason confidence) :=
  ⟨within, Entities.isNormal_empty, nofun, nofun, nofun, nofun⟩

theorem standsForFailure_degraded (failure : ReadFailure) (confidence : Number.Single) :
    StandsForFailure (.degraded failure.reason confidence) := by
  refine ⟨rfl, rfl, ⟨failure.reason, rfl, ?_⟩, rfl, rfl, rfl⟩
  cases failure <;> decide

theorem settled_of_readObject {answer : String} (read : readObject answer = .ok entries) :
    Json.Settled 127 (.object entries) := by
  obtain ⟨start, span, readAt⟩ := (readObject_eq_ok_iff answer entries).mp read
  exact Json.settled_of_read? readAt.valid

theorem mem_get_ofEntries (confidences : Confidences) (now : Instant) :
    value ∈ (ofEntries confidences now entries).entities.get category ↔
      ∃ named ∈ (firstValue? entries ["entities"]).bind Json.asObject?,
        Names named category value := by
  rw [ofEntries]
  cases (firstValue? entries ["entities"]).bind Json.asObject? with
  | none => simp [Entities.get_empty]
  | some named => simp [mem_get_readEntities]

/-- Whatever the answer is, the intent that comes out of it is well formed. A parsed one holds what
the answer names in each category, and a degraded one is a search that tells why. -/
theorem normalize_wellFormed (confidences : Confidences) (default : InUnit confidences.default)
    (degraded : InUnit confidences.degraded) (now : Instant) (answer : String) :
    WellFormed (normalize confidences now answer).intent ∧
      (∀ intent, normalize confidences now answer = .parsed intent →
        intent.parseFailed = false ∧ ∃ entries, readObject answer = .ok entries ∧
          ∀ category value, value ∈ intent.entities.get category ↔
            ∃ named ∈ (firstValue? entries ["entities"]).bind Json.asObject?,
              Names named category value) ∧
      ((normalize confidences now answer).isDegraded = true →
        StandsForFailure (normalize confidences now answer).intent) := by
  rw [normalize]
  cases read : readObject answer with
  | ok entries =>
    refine ⟨wellFormed_ofEntries default now (settled_of_readObject read), ?_, ?_⟩
    · intro intent same
      cases same
      exact ⟨rfl, entries, rfl, fun category value => mem_get_ofEntries confidences now⟩
    · intro lost
      cases lost
  | error failure =>
    refine ⟨wellFormed_degraded failure.reason degraded, ?_, ?_⟩
    · intro intent same
      cases same
    · exact fun _ => standsForFailure_degraded failure confidences.degraded

/-- Two keys of one category with synonyms, and a confidence that is no number. -/
def mergedAnswer : String :=
  "\x7b\"confidence\":\"NaN\"," ++
    "\"entities\":\x7b\"channel\":[\" E-Mail\",7],\"channels\":\"mail\"\x7d\x7d"

theorem merged_answer_wellFormed :
    InUnit usualConfidences.default ∧ InUnit usualConfidences.degraded ∧
      WellFormed (normalize usualConfidences spokenAt mergedAnswer).intent ∧
      (normalize usualConfidences spokenAt mergedAnswer).intent.entities.channels =
        ["email", "7"] := by
  have default : InUnit usualConfidences.default := ⟨by decide, by decide⟩
  have degraded : InUnit usualConfidences.degraded := ⟨by decide, by decide⟩
  refine ⟨default, degraded, ?_, by decide +kernel⟩
  exact (normalize_wellFormed usualConfidences default degraded spokenAt mergedAnswer).1

end Intent

end AnalystQuery
