import AnalystQuery.Error
import AnalystQuery.Http.Exchange
import AnalystQuery.Json.Reader
import AnalystQuery.Search.Basic
import AnalystQuery.Settings.Basic
import AnalystQuery.Text.Blank

/-! The search engine behind its interface: what is posted for a call, and what its answers
mean. -/

namespace AnalystQuery.Search

/-- The body of a call. Aggregations come without documents. -/
def Call.body : Call → Json
  | .plain _ query options =>
    .ofEntries (
      [("query", query)] ++ Json.optionalEntry "size" .natural options.size ++
      Json.optionalEntry "from" .natural options.offset ++
      Json.optionalEntry "sort" id options.sort ++
      Json.optionalEntry "_source" id options.source ++ [("track_total_hits", .bool true)])
  | .aggregate _ query aggregations =>
    .ofEntries [("query", query), ("aggs", aggregations), ("size", .natural 0),
      ("track_total_hits", .bool true)]

def authorization? (settings : Settings.Search) : Option String :=
  settings.username.map fun username =>
    Http.basicAuthorization username (settings.password.getD "")

def Call.request (settings : Settings.Search) (call : Call) : Http.Request :=
  Http.postJson
    (Http.trimSlashes settings.baseUrl ++ "/" ++ settings.physicalIndex call.index ++ "/_search")
    (authorization? settings) call.body

def refusalLength : Nat := 200

/-- The reason for a refusal: the one that it states, or its text. -/
def refusalReason (body : String) : String :=
  let stated := do
    let error ← (← Json.read? body).get? "error"
    ((error.get? "reason").bind Json.asString?).or error.asString?
  match stated with
  | some reason => reason
  | none =>
    let text := Text.clamp body refusalLength
    if text = "" then "unknown error" else text

private def readHit (hit : Json) : Hit :=
  { id := ((hit.get? "_id").bind Json.asString?).getD ""
    score := (hit.get? "_score").bind Json.asDouble?
    source := (hit.get? "_source").getD .null
    highlight := hit.get? "highlight" }

private def readTotal (total : Json) : Nat :=
  match total with
  | .object entries => ((Json.lookup "value" entries).bind Json.asNatural?).getD 0
  | other => other.asNatural?.getD 0

/-- Reads an answer. Only the part with the documents must be there. -/
def readResponse (payload : Json) : Except ExecutionError Response :=
  match payload.get? "hits" with
  | none => .error (.malformed "missing 'hits'")
  | some hits => .ok
    { total := ((hits.get? "total").map readTotal).getD 0
      hits := (((hits.get? "hits").bind Json.asArray?).getD []).map readHit
      aggregations := payload.get? "aggregations" }

def readAnswer (status : Nat) (body : String) : Except ExecutionError Response :=
  if Http.isSuccess status then
    match Json.read? body with
    | some payload => readResponse payload
    | none => .error (.malformed "error decoding response body")
  else .error (.rejected status (refusalReason (Http.plainText body)))

def outcome (settings : Settings.Search) (request : Http.Request) :
    Http.Reply → Except ExecutionError Response
  | .answered status body => readAnswer status (Http.carriedBody status body)
  | .refused => .error (.connection request.failure)
  | .dropped => .error (.connection request.failure)
  | .late => .error (.timeout (1000 * settings.timeoutSeconds))
  | .unsendable fault => .error (.connection fault)

end AnalystQuery.Search
