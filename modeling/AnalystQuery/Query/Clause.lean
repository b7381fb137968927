import AnalystQuery.Intent.Basic

/-! Queries as they are compiled: conditions on single fields, alternatives of such conditions,
and what the matching documents must and must not satisfy. `encode` writes them in the query
language of the search engine. -/

namespace AnalystQuery.Query

/-- A condition on a document that is not made of others. -/
inductive Leaf where
  | term (field : String) (value : Json)
  | terms (field : String) (values : List String)
  | matches (field : String) (text : String)
  | mentions (fields : List String) (text : String)
  /-- the field lies within the bounds, each named by its comparison -/
  | range (field : String) (bounds : List (String × Json))
  | exists (field : String)
  deriving Repr

inductive Clause where
  | leaf (condition : Leaf)
  | anyOf (leaves : List Leaf)
  deriving Repr

/-- How a clause takes part in a query: it restricts, it also counts for relevance, or it
excludes. -/
inductive Role where
  | filter
  | must
  | mustNot
  deriving DecidableEq, Repr

/-- All clauses with their roles; without any, every document matches. -/
structure Condition where
  clauses : List (Role × Clause)
  deriving Repr

namespace Condition

def inRole (condition : Condition) (role : Role) : List Clause :=
  (condition.clauses.filter (·.1 == role)).map (·.2)

end Condition

inductive Measure where
  | documentCount
  | valueCount (field : String)
  | terms (field : String) (size : Nat)
  | dateHistogram (field : String) (interval : String)
  | percentiles (field : String) (percents : Option Json)
  | metric (kind : AggregationKind) (field : String)
  deriving Repr

def single (key : String) (value : Json) : Json := .object [(key, value)]

def Leaf.encode : Leaf → Json
  | .term field value => single "term" (single field value)
  | .terms field values => single "terms" (single field (.strings values))
  | .matches field text => single "match" (single field (.string text))
  | .mentions fields text =>
    single "multi_match" (.object
      [("fields", .strings fields), ("operator", .string "or"), ("query", .string text)])
  | .range field bounds => single "range" (single field (.ofEntries bounds))
  | .exists field => single "exists" (single "field" (.string field))

def Clause.encode : Clause → Json
  | .leaf condition => condition.encode
  | .anyOf leaves =>
    single "bool" (.object
      [("minimum_should_match", .integer 1), ("should", .array (leaves.map Leaf.encode))])

namespace Condition

def roleEntry (condition : Condition) (key : String) (role : Role) : List (String × Json) :=
  let clauses := condition.inRole role
  if clauses.isEmpty then [] else [(key, .array (clauses.map Clause.encode))]

def encode (condition : Condition) : Json :=
  if condition.clauses.isEmpty then single "match_all" (.object [])
  else
    single "bool" (.object
      (condition.roleEntry "filter" .filter ++ condition.roleEntry "must" .must ++
        condition.roleEntry "must_not" .mustNot))

end Condition

def Measure.encode : Measure → Json
  | .documentCount => single "filter" (single "match_all" (.object []))
  | .valueCount field => single "value_count" (single "field" (.string field))
  | .terms field size =>
    single "terms" (.object [("field", .string field), ("size", .natural size)])
  | .dateHistogram field interval =>
    single "date_histogram" (.object
      [("calendar_interval", .string interval), ("field", .string field)])
  | .percentiles field none => single "percentiles" (single "field" (.string field))
  | .percentiles field (some percents) =>
    single "percentiles" (.object [("field", .string field), ("percents", percents)])
  | .metric kind field => single kind.name (single "field" (.string field))

end AnalystQuery.Query
