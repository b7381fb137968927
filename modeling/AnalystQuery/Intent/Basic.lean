import AnalystQuery.Calendar.Phrase
import AnalystQuery.Intent.Entities
import AnalystQuery.Json.Decoding

/-! Intents: what a question asks for, in typed form. Names are read in two ways: leniently from
the words of a language model, where anything unknown means the default, and strictly from
written intents. -/

namespace AnalystQuery

open Number (Single)
open Calendar (TimeRange)

def plainWord (text : String) : String := Text.lowerCase (Text.trim text)

inductive IntentKind where
  | search
  | aggregate
  | analyze
  | compare
  | trend
  deriving DecidableEq, Repr

namespace IntentKind

def all : List IntentKind := [search, aggregate, analyze, compare, trend]

def name : IntentKind → String
  | search => "search"
  | aggregate => "aggregate"
  | analyze => "analyze"
  | compare => "compare"
  | trend => "trend"

def title : IntentKind → String
  | search => "Search"
  | aggregate => "Aggregate"
  | analyze => "Analyze"
  | compare => "Compare"
  | trend => "Trend"

/-- The kind that a word means; a search by default. -/
def ofWord (word : String) : IntentKind :=
  match plainWord word with
  | "aggregate" | "aggregation" | "count" => aggregate
  | "analyze" | "analyse" | "analysis" => analyze
  | "compare" | "comparison" => compare
  | "trend" | "trends" => trend
  | _ => search

def ofName? (name : String) : Option IntentKind := all.find? (·.name == name)

end IntentKind

inductive Operator where
  | eq
  | ne
  | gt
  | gte
  | lt
  | lte
  | oneOf
  | contains
  | exists
  deriving DecidableEq, Repr

namespace Operator

def all : List Operator := [eq, ne, gt, gte, lt, lte, oneOf, contains, .exists]

def name : Operator → String
  | eq => "eq"
  | ne => "ne"
  | gt => "gt"
  | gte => "gte"
  | lt => "lt"
  | lte => "lte"
  | oneOf => "in"
  | contains => "contains"
  | .exists => "exists"

def phrase : Operator → String
  | eq => "is"
  | ne => "is not"
  | gt => "greater than"
  | gte => "at least"
  | lt => "less than"
  | lte => "at most"
  | oneOf => "is one of"
  | contains => "contains"
  | .exists => "exists"

/-- The operator that a word or sign means; equality by default. -/
def ofWord (word : String) : Operator :=
  match plainWord word with
  | "ne" | "!=" | "neq" | "not" => ne
  | "gt" | ">" => gt
  | "gte" | ">=" => gte
  | "lt" | "<" => lt
  | "lte" | "<=" => lte
  | "in" => oneOf
  | "contains" | "match" | "like" => contains
  | "exists" => .exists
  | _ => eq

def ofName? (name : String) : Option Operator := all.find? (·.name == name)

end Operator

structure Filter where
  field : String
  operator : Operator
  value : Json
  deriving Repr

inductive AggregationKind where
  | count
  | avg
  | sum
  | min
  | max
  | terms
  | dateHistogram
  | percentiles
  deriving DecidableEq, Repr

namespace AggregationKind

def all : List AggregationKind := [count, avg, sum, min, max, terms, dateHistogram, percentiles]

def name : AggregationKind → String
  | count => "count"
  | avg => "avg"
  | sum => "sum"
  | min => "min"
  | max => "max"
  | terms => "terms"
  | dateHistogram => "date_histogram"
  | percentiles => "percentiles"

/-- The kind that a word means, where hyphens and spaces stand for underscores; a count by
default. -/
def ofWord (word : String) : AggregationKind :=
  let plain := String.ofList ((plainWord word).toList.map fun c =>
    if c = '-' || c = ' ' then '_' else c)
  match plain with
  | "avg" | "average" | "mean" => avg
  | "sum" | "total" => sum
  | "min" | "minimum" => min
  | "max" | "maximum" => max
  | "terms" | "group_by" | "breakdown" => terms
  | "date_histogram" | "histogram" | "over_time" => dateHistogram
  | "percentiles" | "percentile" => percentiles
  | _ => count

def ofName? (name : String) : Option AggregationKind := all.find? (·.name == name)

def isMetric : AggregationKind → Bool
  | avg => true
  | sum => true
  | min => true
  | max => true
  | percentiles => true
  | _ => false

end AggregationKind

structure Aggregation where
  kind : AggregationKind
  field : Option String
  label : Option String
  options : List (String × Json)
  deriving Repr

inductive SortOrder where
  | ascending
  | descending
  deriving DecidableEq, Repr

namespace SortOrder

def all : List SortOrder := [ascending, descending]

def name : SortOrder → String
  | ascending => "asc"
  | descending => "desc"

/-- The order that a word means; descending by default. -/
def ofWord (word : String) : SortOrder :=
  match plainWord word with
  | "asc" | "ascending" | "oldest" => ascending
  | _ => descending

def ofName? (name : String) : Option SortOrder := all.find? (·.name == name)

end SortOrder

structure SortKey where
  field : String
  order : SortOrder
  deriving DecidableEq, Repr

/-- The structured reading of a question. -/
structure Intent where
  kind : IntentKind
  entities : Entities
  filters : List Filter
  aggregations : List Aggregation
  timeRange : Option TimeRange
  sort : Option SortKey
  size : Option Nat
  offset : Option Nat
  confidence : Single
  parseFailed : Bool
  failureReason : Option String
  deriving Repr

namespace Intent

def plain (kind : IntentKind) (confidence : Single) : Intent :=
  ⟨kind, .empty, [], [], none, none, none, none, confidence, false, none⟩

/-- The search that stands for an answer which could not be read. -/
def degraded (reason : String) (confidence : Single) : Intent :=
  { plain .search confidence with parseFailed := true, failureReason := some reason }

end Intent

open Json (Raw)

def Calendar.TimeRange.encode (range : TimeRange) : Json :=
  .object [("from", .string range.start), ("to", .string range.finish)]

def Calendar.TimeRange.decode? (raw : Raw) : Option TimeRange := do
  let fields ← raw.fields? ["from", "to"]
  pure ⟨← fields.required "from" Raw.string?, ← fields.required "to" Raw.string?⟩

def Category.decode? (raw : Raw) : Option Category := raw.caseName?.bind Category.ofName?

def IntentKind.decode? (raw : Raw) : Option IntentKind := raw.caseName?.bind IntentKind.ofName?

def Operator.decode? (raw : Raw) : Option Operator := raw.caseName?.bind Operator.ofName?

def AggregationKind.decode? (raw : Raw) : Option AggregationKind :=
  raw.caseName?.bind AggregationKind.ofName?

def SortOrder.decode? (raw : Raw) : Option SortOrder := raw.caseName?.bind SortOrder.ofName?

namespace Entities

def encode (entities : Entities) : Json :=
  .object (Category.all.map fun category => (category.name, .strings (entities.get category)))

def decode? (raw : Raw) : Option Entities := do
  let fields ← raw.fields? (Category.all.map Category.name)
  Category.all.foldlM (fun entities category => do
    pure (entities.set category (← fields.optional category.name [] (Raw.list? Raw.string?))))
    empty

end Entities

namespace Filter

def encode (filter : Filter) : Json :=
  .object [("field", .string filter.field), ("operator", .string filter.operator.name),
    ("value", filter.value)]

def decode? (raw : Raw) : Option Filter := do
  let fields ← raw.fields? ["field", "operator", "value"]
  let field ← fields.required "field" Raw.string?
  let operator ← fields.required "operator" Operator.decode?
  let value ← fields.optional "value" .null Raw.value?
  pure ⟨field, operator, value⟩

end Filter

namespace Aggregation

def encode (aggregation : Aggregation) : Json :=
  .object [("type", .string aggregation.kind.name),
    ("field", Json.ofOption .string aggregation.field),
    ("name", Json.ofOption .string aggregation.label),
    ("options", .object aggregation.options)]

def decode? (raw : Raw) : Option Aggregation := do
  let fields ← raw.fields? ["type", "field", "name", "options"]
  let kind ← fields.required "type" AggregationKind.decode?
  let field ← fields.optional "field" none (Raw.nullable? Raw.string?)
  let label ← fields.optional "name" none (Raw.nullable? Raw.string?)
  let options ← fields.optional "options" [] Raw.entries?
  pure ⟨kind, field, label, options⟩

end Aggregation

namespace SortKey

def encode (sort : SortKey) : Json :=
  .object [("field", .string sort.field), ("order", .string sort.order.name)]

def decode? (raw : Raw) : Option SortKey := do
  let fields ← raw.fields? ["field", "order"]
  let field ← fields.required "field" Raw.string?
  let order ← fields.optional "order" .descending SortOrder.decode?
  pure ⟨field, order⟩

end SortKey

namespace Intent

def encode (intent : Intent) : Json :=
  .object <|
    [("intent", .string intent.kind.name),
      ("entities", intent.entities.encode),
      ("filters", .array (intent.filters.map Filter.encode)),
      ("aggregations", .array (intent.aggregations.map Aggregation.encode))] ++
    Json.optionalEntry "time_range" Calendar.TimeRange.encode intent.timeRange ++
    Json.optionalEntry "sort" SortKey.encode intent.sort ++
    Json.optionalEntry "size" Json.natural intent.size ++
    Json.optionalEntry "from" Json.natural intent.offset ++
    [("confidence", Json.ofSingle intent.confidence),
      ("parse_failed", .bool intent.parseFailed)] ++
    Json.optionalEntry "parse_failure_reason" .string intent.failureReason

def fieldNames : List String :=
  ["intent", "entities", "filters", "aggregations", "time_range", "sort", "size", "from",
   "confidence", "parse_failed", "parse_failure_reason"]

def decode? (raw : Raw) : Option Intent := do
  let fields ← raw.fields? fieldNames
  let kind ← fields.required "intent" IntentKind.decode?
  let entities ← fields.required "entities" Entities.decode?
  let filters ← fields.required "filters" (Raw.list? Filter.decode?)
  let aggregations ← fields.required "aggregations" (Raw.list? Aggregation.decode?)
  let timeRange ← fields.optional "time_range" none (Raw.nullable? Calendar.TimeRange.decode?)
  let sort ← fields.optional "sort" none (Raw.nullable? SortKey.decode?)
  let size ← fields.optional "size" none (Raw.nullable? Raw.size?)
  let offset ← fields.optional "from" none (Raw.nullable? Raw.size?)
  let confidence ← fields.required "confidence" Raw.single?
  let parseFailed ← fields.required "parse_failed" Raw.bool?
  let failureReason ← fields.optional "parse_failure_reason" none (Raw.nullable? Raw.string?)
  pure ⟨kind, entities, filters, aggregations, timeRange, sort, size, offset, confidence,
    parseFailed, failureReason⟩

end Intent

end AnalystQuery
