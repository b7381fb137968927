import AnalystQuery.Json.Printer
import AnalystQuery.Number.Reading
import AnalystQuery.Query.Clause
import AnalystQuery.Query.ForbiddenKey
import AnalystQuery.Query.Generated
import AnalystQuery.Schema

/-! Compiling an intent against the schema of an index. Only fields of the schema are used. Each
part of the intent makes a contribution: a clause together with the words that describe it, or
notes that say why there is none. -/

namespace AnalystQuery.Query

structure Contribution where
  clause : Option (Role × Clause × String)
  notes : List String
  deriving Repr

def noted (note : String) : Contribution := ⟨none, [note]⟩

structure Sizes where
  default : Nat
  max : Nat
  deriving DecidableEq, Repr

def displayText : Json → String
  | .string text => text
  | value => value.compact

def valueTexts : Json → List String
  | .array items => items.map displayText
  | value => [displayText value]

/-- Keeps the values of a closed vocabulary in the spelling of the schema, each once, and notes
the others. An open vocabulary keeps everything. -/
def acceptValues (field : Field) (values : List String) : List String × List String :=
  match field.values with
  | none => (values, [])
  | some known => values.foldl (fun (accepted, notes) value =>
      match known.find? (Text.sameIgnoringAsciiCase · value) with
      | some spelling =>
        (if accepted.contains spelling then accepted else accepted ++ [spelling], notes)
      | none =>
        (accepted, notes ++ ["'" ++ value ++ "' is not a known " ++ field.name ++ " value"]))
    ([], [])

/-- A value for a field: numeric fields get a number where the text of the value is one. -/
def typedValue (field : Field) (value : Json) : Json :=
  match value with
  | .string text =>
    if field.type.isNumeric then
      match Number.readDouble? (Text.trim text) with
      | some number => if number.isFinite then .float number else value
      | none => value
    else value
  | value => value

def oneOfLeaf (field : Field) (values : List String) : Leaf :=
  match values with
  | [value] => .term field.name (.string value)
  | values => .terms field.name values

def categoryFields : Category → List String
  | .customers => ["customer_id", "customer_name", "customer"]
  | .channels => ["channel", "platform"]
  | .sentiments => ["sentiment"]
  | .topics => ["topics", "topic"]
  | .categories => ["category", "categories"]
  | .priorities => ["priority"]
  | .regions => ["region"]
  | .products => ["product", "products"]
  | .statuses => ["status"]

/-- Topics are searched for in all text fields when no field holds them. -/
def topicContribution (schema : Schema) (topics : List String) : Contribution :=
  match schema.textFields.map (·.name) with
  | [] => noted "topic filter ignored (no text fields in this index)"
  | fields =>
    ⟨some (.must, .leaf (.mentions fields (" ".intercalate topics)),
      "text mentions " ++ " or ".intercalate topics), []⟩

/-- The contribution of the values of a category. The vocabulary of the first field that is
present decides which values are kept; all fields that are present are searched. -/
def entityContribution (schema : Schema) (category : Category) (values : List String) :
    Contribution :=
  match (categoryFields category).filterMap schema.field? with
  | [] =>
    if category = .topics then topicContribution schema values
    else noted (category.singular ++ " filter ignored (no matching field in this index)")
  | primary :: others =>
    let (accepted, notes) := acceptValues primary values
    if accepted.isEmpty then ⟨none, notes⟩
    else
      let leaves := (primary :: others).map fun field => oneOfLeaf field accepted
      let clause := if others.isEmpty then .leaf (oneOfLeaf primary accepted) else .anyOf leaves
      ⟨some (.filter, clause, primary.name ++ " is " ++ " or ".intercalate accepted), notes⟩

def equalityLeaf (field : Field) (value : Json) (accepted : List String) : Leaf :=
  if field.type = .text then .matches field.name (" ".intercalate accepted)
  else
    match accepted, value.asArray? with
    | [text], none =>
      if field.type.isExact then
        .term field.name (if field.type.isNumeric then typedValue field value else .string text)
      else oneOfLeaf field accepted
    | _, _ => oneOfLeaf field accepted

def filterContribution (schema : Schema) (filter : Filter) : Contribution :=
  match schema.field? filter.field with
  | none => noted ("unknown field '" ++ filter.field ++ "' ignored")
  | some field =>
    let value := filter.value
    let equality (role : Role) : Contribution :=
      let (accepted, notes) := acceptValues field (valueTexts value)
      if accepted.isEmpty then ⟨none, notes⟩
      else
        ⟨some (role, .leaf (equalityLeaf field value accepted),
          field.name ++ " " ++ filter.operator.phrase ++ " " ++ displayText value), notes⟩
    let described (role : Role) (leaf : Leaf) : Contribution :=
      ⟨some (role, .leaf leaf,
        field.name ++ " " ++ filter.operator.phrase ++ " " ++ displayText value), []⟩
    let bounded : Contribution :=
      if field.type.isNumeric || field.type = .date then
        described .filter (.range field.name [(filter.operator.name, typedValue field value)])
      else noted ("range filter on non-numeric field '" ++ field.name ++ "' ignored")
    match filter.operator with
    | .exists => ⟨some (.filter, .leaf (.exists field.name), field.name ++ " exists"), []⟩
    | operator =>
      if value.isNull then noted ("filter on '" ++ field.name ++ "' ignored (no value)")
      else
        match operator with
        | .eq => equality .filter
        | .oneOf => equality .filter
        | .ne => equality .mustNot
        | .contains => described .must (.matches field.name (displayText value))
        | _ => bounded

def timeContribution (schema : Schema) (range : Calendar.TimeRange) : Contribution :=
  match schema.timeField? with
  | none => noted "time range ignored (index has no date field)"
  | some field =>
    ⟨some (.filter, .leaf (.range field.name
        [("gte", .string range.start), ("lte", .string range.finish)]),
      field.name ++ " between " ++ range.start ++ " and " ++ range.finish), []⟩

def contributions (schema : Schema) (intent : Intent) : List Contribution :=
  (intent.entities.toList.map fun (category, values) =>
      entityContribution schema category values) ++
    intent.filters.map (filterContribution schema) ++
    (intent.timeRange.toList.map (timeContribution schema))

def defaultGroups : Nat := 10

def calendarIntervals : List String :=
  ["minute", "hour", "day", "week", "month", "quarter", "year"]

def aggregationField? (schema : Schema) (aggregation : Aggregation) : Option Field :=
  match aggregation.kind, aggregation.field with
  | .dateHistogram, some name => (schema.field? name).filter (·.type == .date)
  | .dateHistogram, none => schema.timeField?
  | _, some name => schema.field? name
  | _, none => none

private def histogramInterval (options : List (String × Json)) : String :=
  let stated := (Json.lookup "interval" options).orElse fun _ =>
    Json.lookup "calendar_interval" options
  (((stated.bind Json.asString?).map Text.lowerCase).filter calendarIntervals.contains).getD "day"

def measure? (sizes : Sizes) (aggregation : Aggregation) (field : Option Field) :
    Option Measure :=
  match aggregation.kind, field with
  | .count, none => if aggregation.field.isNone then some .documentCount else none
  | .count, some field => some (.valueCount field.name)
  | .terms, some field =>
    if field.type.isExact then
      let groups := ((Json.lookup "size" aggregation.options).bind Json.asNatural?).getD
        defaultGroups
      some (.terms field.name (min groups sizes.max))
    else none
  | .dateHistogram, some field =>
    some (.dateHistogram field.name (histogramInterval aggregation.options))
  | .percentiles, some field =>
    if field.type.isNumeric then
      let percents := (Json.lookup "percents" aggregation.options).filter (·.asArray?.isSome)
      some (.percentiles field.name percents)
    else none
  | kind, some field =>
    if field.type.isNumeric then some (.metric kind field.name) else none
  | _, none => none

private def isLabelCharacter (c : Char) : Bool :=
  ('a' ≤ c && c ≤ 'z') || ('0' ≤ c && c ≤ '9')

def cleanLabel (label : String) : String :=
  let characters := (Text.lowerCase (Text.trim label)).toList.map fun c =>
    if isLabelCharacter c then c else '_'
  let started := characters.dropWhile (· == '_')
  String.ofList (started.reverse.dropWhile (· == '_')).reverse

/-- The key of an aggregation: its label, or a name made of its kind and field when no label is
left or the label is forbidden. -/
def aggregationKey (aggregation : Aggregation) (field : Option Field) : String :=
  let generated := match aggregation.field, field with
    | some _, some field => aggregation.kind.name ++ "_" ++ field.name
    | _, _ => aggregation.kind.name
  match aggregation.label with
  | none => generated
  | some label =>
    let cleaned := cleanLabel label
    if cleaned = "" || isForbiddenKey cleaned then generated else cleaned

structure Computation where
  key : String
  measure : Measure
  description : String
  deriving Repr

/-- The key for the next computation: one that is taken gets the position appended. -/
def freshKey (taken : List String) (key : String) : String :=
  if taken.contains key then key ++ "_" ++ toString (taken.length + 1) else key

/-- The computations of the aggregations that the schema supports, after those already `built`,
and notes on the others. -/
def buildComputations (sizes : Sizes) (schema : Schema) (built : List Computation) :
    List Aggregation → List Computation × List String
  | [] => (built, [])
  | aggregation :: rest =>
    let field := aggregationField? schema aggregation
    match measure? sizes aggregation field with
    | none =>
      let (computations, notes) := buildComputations sizes schema built rest
      (computations, (aggregation.kind.name ++ " aggregation on '" ++
        aggregation.field.getD "-" ++ "' ignored (field missing or unsuitable)") :: notes)
    | some measure =>
      let key := freshKey (built.map (·.key)) (aggregationKey aggregation field)
      let description := match field with
        | some field => aggregation.kind.name ++ " of " ++ field.name ++ " (" ++ key ++ ")"
        | none => aggregation.kind.name ++ " (" ++ key ++ ")"
      buildComputations sizes schema (built ++ [⟨key, measure, description⟩]) rest

/-- The key to sort by, and a note when the requested one is not used. Without a usable request
the latest documents come first. -/
def chooseSort (schema : Schema) (requested : Option SortKey) : Option SortKey × List String :=
  let latest : Option SortKey := schema.timeField?.map fun field => ⟨field.name, .descending⟩
  match requested with
  | none => (latest, [])
  | some sort =>
    match (schema.field? sort.field).filter (·.type.isExact) with
    | some field => (some ⟨field.name, sort.order⟩, [])
    | none => (latest, ["sort on '" ++ sort.field ++ "' ignored"])

structure Envelope where
  condition : Condition
  computations : List Computation
  sort : Option SortKey
  size : Nat
  offset : Nat
  deriving Repr

def SortKey.encodeEntry (sort : SortKey) : Json :=
  .object [(sort.field, .object [("order", .string sort.order.name)])]

def Envelope.encode (envelope : Envelope) : Json :=
  .object <|
    (if envelope.computations.isEmpty then []
      else [("aggs", .ofEntries (envelope.computations.map fun computation =>
        (computation.key, computation.measure.encode)))]) ++
    (if envelope.offset = 0 then [] else [("from", .natural envelope.offset)]) ++
    [("query", envelope.condition.encode), ("size", .natural envelope.size)] ++
    (match envelope.sort with
      | some sort => [("sort", .array [SortKey.encodeEntry sort])]
      | none => []) ++
    [("track_total_hits", .bool true)]

def lowConfidence : Number.Single := Number.Decimal.nearest false ⟨5, -1⟩

/-- What a reading says before the page: what is looked for and what is computed. -/
def opening (index : String) (kind : IntentKind) (conditions computations : List String) : String :=
  kind.title ++ " " ++ index ++
    (if conditions.isEmpty then " (all documents)"
      else " where " ++ " and ".intercalate conditions) ++ "." ++
    (if computations.isEmpty then ""
      else " Aggregations: " ++ ", ".intercalate computations ++ ".")

def announcement (size : Nat) (sort : Option SortKey) : String :=
  if size = 0 then ""
  else " Returning up to " ++ toString size ++ " results" ++
    (match sort with
      | some sort => " sorted by " ++ sort.field ++ " " ++ sort.order.name
      | none => "") ++ "."

def remarks (intent : Intent) (notes : List String) : String :=
  (if notes.isEmpty then "" else " Note: " ++ "; ".intercalate notes ++ ".") ++
    (if intent.parseFailed then
        " The request could not be fully interpreted, so this is a broad search."
      else if intent.confidence.less lowConfidence then
        " Low confidence (" ++ String.ofList (intent.confidence.fixed 2) ++
          "); consider rephrasing or refining."
      else "")

def explain (index : String) (intent : Intent) (envelope : Envelope) (conditions : List String)
    (notes : List String) : String :=
  opening index intent.kind conditions (envelope.computations.map (·.description)) ++
    announcement envelope.size envelope.sort ++ remarks intent notes

def plan (sizes : Sizes) (schema : Schema) (intent : Intent) :
    Envelope × List String × List String :=
  let parts := contributions schema intent
  let clauses := parts.filterMap (·.clause)
  let (computations, aggregationNotes) :=
    buildComputations sizes schema [] intent.aggregations
  let (sort, sortNotes) := chooseSort schema intent.sort
  let defaultSize := if computations.isEmpty then sizes.default else 0
  let envelope : Envelope :=
    { condition := ⟨clauses.map fun (role, clause, _) => (role, clause)⟩
      computations
      sort
      size := min (intent.size.getD defaultSize) sizes.max
      offset := intent.offset.getD 0 }
  (envelope, clauses.map (·.2.2), parts.flatMap (·.notes) ++ aggregationNotes ++ sortNotes)

def compile (sizes : Sizes) (index : String) (schema : Schema) (intent : Intent) :
    GeneratedQuery :=
  let (envelope, conditions, notes) := plan sizes schema intent
  { index
    envelope := envelope.encode
    explanation := explain index intent envelope conditions notes
    intent }

end AnalystQuery.Query
