import AnalystQuery.Query.Inspection
import AnalystQuery.Schema

/-! The fields that an envelope refers to, in its query, its aggregations and its sorting. -/

namespace AnalystQuery.Query

/-- A field name without the weight behind it. -/
def unweighted (name : String) : String := String.ofList (name.toList.takeWhile (· != '^'))

def clauseFields (key : String) (body : Json) : List String :=
  if fieldKeyedClauses.contains key then
    ((body.asObject?.getD []).map (·.1)).filter (!isPermissiveKey ·)
  else if key = "exists" then ((body.get? "field").bind Json.asString?).toList
  else
    ((((body.get? "fields").bind Json.asArray?).getD []).filterMap Json.asString?).map unweighted

mutual
def queryFields (position : Position) : Json → List String
  | .array items => itemQueryFields position items
  | .object entries => entryQueryFields position entries
  | _ => []

def itemQueryFields (position : Position) : List Json → List String
  | [] => []
  | item :: rest => queryFields position item ++ itemQueryFields position rest

def entryQueryFields (position : Position) : List (String × Json) → List String
  | [] => []
  | (key, body) :: rest =>
    (if position = .clause then clauseFields key body else []) ++
      queryFields (position.child key) body ++ entryQueryFields position rest
end

mutual
def aggregationFields : Json → List String
  | .object entries => entryAggregationFields entries
  | .array items => itemAggregationFields items
  | _ => []

def itemAggregationFields : List Json → List String
  | [] => []
  | item :: rest => aggregationFields item ++ itemAggregationFields rest

def entryAggregationFields : List (String × Json) → List String
  | [] => []
  | (key, value) :: rest =>
    (if key = "filter" then queryFields .clause value
      else match key, value with
        | "field", .string field => [field]
        | _, value => aggregationFields value) ++
      entryAggregationFields rest
end

def sortEntryFields : Json → List String
  | .string field => [field]
  | .object entries => entries.map (·.1)
  | _ => []

def sortFields : Json → List String
  | .array items => items.flatMap sortEntryFields
  | value => sortEntryFields value

def insertSorted (text : String) : List String → List String
  | [] => [text]
  | other :: rest =>
    if text < other then text :: other :: rest
    else if text = other then other :: rest
    else other :: insertSorted text rest

/-- Each text once, in byte order. -/
def distinctSorted (texts : List String) : List String :=
  texts.foldl (fun sorted text => insertSorted text sorted) []

def mentionedFields (envelope : Json) : List String :=
  ((envelope.get? "query").elim [] (queryFields .clause)) ++
    (["aggs", "aggregations"].flatMap fun key =>
      (envelope.get? key).elim [] aggregationFields) ++
    ((envelope.get? "sort").elim [] sortFields)

/-- The fields that an envelope refers to; names with an underscore in front belong to the
engine and are left out. -/
def referencedFields (envelope : Json) : List String :=
  distinctSorted ((mentionedFields envelope).filter fun field =>
    !("_".toList.isPrefixOf field.toList))

def unknownFields (envelope : Json) (schema : Schema) : List String :=
  (referencedFields envelope).filter (!schema.hasField ·)

end AnalystQuery.Query
