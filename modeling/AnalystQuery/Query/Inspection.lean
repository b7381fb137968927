import AnalystQuery.Json.Basic
import AnalystQuery.Query.ForbiddenKey

/-! Inspecting envelopes before they are sent. Top-level keys must be allowed and forbidden keys
may stand nowhere; both are violations, reported with the path to the key. Keys in places of the
query grammar where they are not known are only listed. -/

namespace AnalystQuery.Query

def defaultTopLevelKeys : List String :=
  ["query", "aggs", "aggregations", "sort", "size", "from", "_source", "track_total_hits"]

def boolKeys : List String := ["must", "should", "filter", "must_not", "minimum_should_match"]

def knownClauses : List String :=
  ["match_all", "match_none", "match", "match_phrase", "match_phrase_prefix",
   "match_bool_prefix", "multi_match", "query_string", "simple_query_string", "term", "terms",
   "terms_set", "range", "exists", "prefix", "wildcard", "regexp", "fuzzy", "ids", "bool",
   "constant_score", "dis_max", "function_score", "boosting", "nested", "has_child",
   "has_parent", "geo_distance", "geo_bounding_box", "more_like_this"]

def fieldKeyedClauses : List String :=
  ["term", "terms", "range", "match", "match_phrase", "match_phrase_prefix",
   "match_bool_prefix", "prefix", "wildcard", "regexp", "fuzzy"]

def wrapperClauses : List String :=
  ["constant_score", "dis_max", "function_score", "boosting", "nested", "has_child",
   "has_parent"]

/-- Where a value stands in the query grammar. -/
inductive Position where
  | clause
  | boolBody
  | wrapper
  | other
  deriving DecidableEq, Repr

def Position.child (position : Position) (key : String) : Position :=
  match position with
  | .clause =>
    if key = "bool" then .boolBody else if wrapperClauses.contains key then .wrapper else .other
  | .boolBody =>
    if ["must", "should", "filter", "must_not"].contains key then .clause else .other
  | .wrapper =>
    if ["filter", "query", "queries", "positive", "negative"].contains key then .clause
    else .other
  | .other => .other

/-- Keys that may accompany clauses: names with an underscore in front, and boosts. -/
def isPermissiveKey (key : String) : Bool :=
  "_".toList.isPrefixOf key.toList || "boost".toList.isPrefixOf key.toList

def Position.knows (position : Position) (key : String) : Bool :=
  match position with
  | .clause => knownClauses.contains key || boolKeys.contains key || isPermissiveKey key
  | .boolBody => boolKeys.contains key || isPermissiveKey key
  | .wrapper => true
  | .other => true

inductive Finding where
  | violation (path : String)
  | unknownClause (path : String)
  deriving DecidableEq, Repr

def joinPath (path key : String) : String := if path = "" then key else path ++ "." ++ key

def keyFindings (key path : String) (position : Position) : List Finding :=
  if isForbiddenKey key then [.violation path]
  else if position.knows key then []
  else [.unknownClause path]

mutual
/-- What is found within a value, in the order of its keys and items. -/
def findings (path : String) (position : Position) : Json → List Finding
  | .object entries => entryFindings path position entries
  | .array items => itemFindings path position 0 items
  | _ => []

def entryFindings (path : String) (position : Position) : List (String × Json) → List Finding
  | [] => []
  | (key, value) :: rest =>
    keyFindings key (joinPath path key) position ++
      findings (joinPath path key) (position.child key) value ++
      entryFindings path position rest

def itemFindings (path : String) (position : Position) (index : Nat) : List Json → List Finding
  | [] => []
  | value :: rest =>
    findings (path ++ "[" ++ toString index ++ "]") position value ++
      itemFindings path position (index + 1) rest
end

/-- The position of the value under a top-level key. -/
def topPosition (key : String) : Position := if key = "query" then .clause else .other

def topFindings (allowed : List String) (key : String) (value : Json) : List Finding :=
  (if allowed.contains key then keyFindings key key .other else [.violation key]) ++
    findings key (topPosition key) value

def inspect (allowed : List String) : Json → List Finding
  | .object entries => entries.flatMap fun (key, value) => topFindings allowed key value
  | _ => [.violation "$ (envelope is not an object)"]

def Finding.violation? : Finding → Option String
  | .violation path => some path
  | .unknownClause _ => none

def Finding.unknownClause? : Finding → Option String
  | .violation _ => none
  | .unknownClause path => some path

def violations (allowed : List String) (envelope : Json) : List String :=
  (inspect allowed envelope).filterMap Finding.violation?

def unknownClauses (allowed : List String) (envelope : Json) : List String :=
  (inspect allowed envelope).filterMap Finding.unknownClause?

end AnalystQuery.Query
