import AnalystQuery.Calendar.Timestamp
import AnalystQuery.Glossary
import AnalystQuery.Intent.Basic
import AnalystQuery.Intent.Extraction
import AnalystQuery.Json.Printer
import AnalystQuery.Number.Reading

/-! From the answer of a language model to an intent. Every part of the answer is optional and
read leniently; an answer without a readable object becomes a degraded outcome, never an
error. -/

namespace AnalystQuery.Intent

open Number (Single Double Binary)
open Calendar (Instant TimeRange)

inductive Outcome where
  | parsed (intent : Intent)
  | degraded (failure : ReadFailure) (confidence : Single)

namespace Outcome

def isDegraded : Outcome → Bool
  | parsed _ => false
  | degraded .. => true

def intent : Outcome → Intent
  | parsed intent => intent
  | degraded failure confidence => .degraded failure.reason confidence

end Outcome

/-- The confidences that are assumed when an answer states none, and when it cannot be read. -/
structure Confidences where
  default : Single
  degraded : Single
  deriving DecidableEq, Repr

abbrev Entries := List (String × Json)

def firstValue? (entries : Entries) (keys : List String) : Option Json :=
  (keys.filterMap (Json.lookup · entries)).find? (!·.isNull)

def trimmedText? (value : Json) : Option String :=
  (value.asString?.map Text.trim).filter (· != "")

def unit (format : Number.Format) : Binary format := Binary.ofNat 1

def clampToUnit {format : Number.Format} (value : Binary format) : Binary format :=
  if value.less .zero then .zero
  else if (unit format).less value then unit format
  else value

/-- A confidence within `[0, 1]`; the default stands for one that is missing or no number. -/
def clampConfidence (stated : Option Double) (default : Single) : Single :=
  match stated with
  | some value => if value.isNotANumber then clampToUnit default else (clampToUnit value).convert
  | none => clampToUnit default

def confidenceValue? (value : Json) : Option Double :=
  match value with
  | .string text => Number.readDouble? (Text.trim text)
  | value => value.asDouble?

/-- A count, also one written as text; a fraction is cut off. -/
def countValue? (value : Json) : Option Nat :=
  match value with
  | .string text => Number.readNatural? (Nat.pow 2 64) (Text.trim text)
  | .integer whole => if 0 ≤ whole then some whole.toNat else none
  | .float number =>
    if Binary.zero.atMost number then some (number.truncate (Nat.pow 2 64 - 1)) else none
  | _ => none

def scalarText? (value : Json) : Option String :=
  match value with
  | .string text => some (Text.trim text)
  | .integer _ => some value.compact
  | .float _ => some value.compact
  | .bool _ => some value.compact
  | _ => none

/-- The texts of a scalar or of the scalars in an array, without empty ones. -/
def scalarTexts (value : Json) : List String :=
  let texts := match value with
    | .array items => items.filterMap scalarText?
    | value => (scalarText? value).toList
  texts.filter (· != "")

def insertTexts (entities : Entities) (category : Option Category) (texts : List String) :
    Entities :=
  match category with
  | some category => texts.foldl (fun entities text =>
      entities.insert category (Glossary.normalize category text)) entities
  | none => entities

/-- Entities under plural or singular keys; unknown keys are ignored. -/
def readEntities (entries : Entries) : Entities :=
  entries.foldl (fun entities (key, value) => insertTexts entities (Category.ofKey? key)
    (scalarTexts value)) Entities.empty

def readFilter? (value : Json) : Option Filter := do
  let entries ← value.asObject?
  let field ← (Json.lookup "field" entries).bind trimmedText?
  let operator := ((firstValue? entries ["operator", "op"]).bind Json.asString?).elim
    Operator.eq Operator.ofWord
  pure ⟨field, operator, (Json.lookup "value" entries).getD .null⟩

def readAggregation? (value : Json) : Option Aggregation :=
  match value with
  | .string word => some ⟨.ofWord word, none, none, []⟩
  | .object entries =>
    let kind := ((firstValue? entries ["type", "agg_type", "aggType"]).bind Json.asString?).elim
      AggregationKind.count AggregationKind.ofWord
    let options := ((Json.lookup "options" entries).bind Json.asObject?).getD []
    some ⟨kind, (Json.lookup "field" entries).bind trimmedText?,
      (Json.lookup "name" entries).bind trimmedText?, options⟩
  | _ => none

def readSort? (value : Json) : Option SortKey :=
  match value with
  | .string _ => (trimmedText? value).map (⟨·, .descending⟩)
  | .object entries => do
    let field ← (Json.lookup "field" entries).bind trimmedText?
    let order := ((Json.lookup "order" entries).bind Json.asString?).elim
      SortOrder.descending SortOrder.ofWord
    pure ⟨field, order⟩
  | _ => none

/-- A phrase, or timestamps: a lone start means up to now. -/
def readTimeRange? (now : Instant) (value : Json) : Option TimeRange :=
  match value with
  | .string phrase => Calendar.resolve? now phrase
  | .object entries =>
    match (firstValue? entries ["relative", "phrase"]).bind Json.asString? with
    | some phrase => Calendar.resolve? now phrase
    | none => do
      let start ← (Json.lookup "from" entries).bind trimmedText?
      let finish := match (Json.lookup "to" entries).bind trimmedText? with
        | some finish => Calendar.normalizeTimestamp finish now.offset
        | none => now.render
      pure ⟨Calendar.normalizeTimestamp start now.offset, finish⟩
  | _ => none

def listUnder (entries : Entries) (keys : List String) : List Json :=
  ((firstValue? entries keys).bind Json.asArray?).getD []

def ofEntries (confidences : Confidences) (now : Instant) (entries : Entries) : Intent :=
  { kind := ((firstValue? entries ["intent", "intentKind", "intent_kind", "kind"]).bind
      Json.asString?).elim IntentKind.search IntentKind.ofWord
    entities := ((firstValue? entries ["entities"]).bind Json.asObject?).elim
      Entities.empty readEntities
    filters := (listUnder entries ["filters"]).filterMap readFilter?
    aggregations := (listUnder entries ["aggregations", "aggs"]).filterMap readAggregation?
    timeRange := (firstValue? entries ["timeRange", "time_range", "time"]).bind
      (readTimeRange? now)
    sort := (firstValue? entries ["sort"]).bind readSort?
    size := (firstValue? entries ["size", "limit"]).bind countValue?
    offset := (firstValue? entries ["from", "offset"]).bind countValue?
    confidence := clampConfidence
      ((firstValue? entries ["confidence"]).bind confidenceValue?) confidences.default
    parseFailed := false
    failureReason := none }

def normalize (confidences : Confidences) (now : Instant) (answer : String) : Outcome :=
  match readObject answer with
  | .ok entries => .parsed (ofEntries confidences now entries)
  | .error failure => .degraded failure confidences.degraded

end AnalystQuery.Intent
