import AnalystQuery.Http.Exchange
import AnalystQuery.Json.Decoding
import AnalystQuery.Reasoning.Call
import AnalystQuery.Settings.Basic
import AnalystQuery.Text.Blank

/-! A language model behind a chat interface: what is posted to it, and what its answers mean. -/

namespace AnalystQuery.Reasoning

open Json (Raw)
open Number (Single)

structure ChatModel where
  baseUrl : String
  name : String
  apiKey : Option String
  temperature : Single
  maxTokens : Nat
  /-- the milliseconds after which an answer is no longer waited for -/
  patience : Nat
  deriving DecidableEq, Repr

namespace ChatModel

/-- The model of the settings. A missing key is taken from the environment, and an empty one
counts as none. Callers have deadlines of their own, so the patience is four times the longest. -/
def ofSettings (settings : Settings.Reasoning) (environmentKey : Option String) : ChatModel :=
  { baseUrl := Http.trimSlashes settings.baseUrl
    name := settings.model
    apiKey := (settings.apiKey.or environmentKey).filter (· != "")
    temperature := settings.temperature
    maxTokens := settings.maxTokens
    patience := 4 * max settings.timeoutMillis settings.summaryTimeoutMillis }

def named (baseUrl name : String) (apiKey : Option String) : ChatModel :=
  ⟨Http.trimSlashes baseUrl, name, apiKey, .zero, 1024, 120000⟩

private def message (role content : String) : Json :=
  .object [("role", .string role), ("content", .string content)]

def request (model : ChatModel) (call : Call) (choices : Choices) : Http.Request :=
  let instructions := call.instructions.toList.map (message "system")
  Http.postJson (model.baseUrl ++ "/chat/completions")
    (model.apiKey.map ("Bearer " ++ ·))
    (.object (
      [("model", .string model.name),
        ("messages", .array (instructions ++ [message "user" call.prompt])),
        ("temperature", .ofSingle (choices.temperature.getD model.temperature)),
        ("max_tokens", .natural (choices.maxTokens.getD model.maxTokens))] ++
      Json.optionalEntry "user" .string call.rateLimitKey))

def refusalMessage? (body : String) : Option String := do
  let fields ← (← Raw.read? body).fields? ["error"]
  fields.required "error" fun raw => do
    (← raw.fields? ["message"]).required "message" Raw.string?

private def content? (raw : Raw) : Option (Option String) := do
  let fields ← raw.fields? ["message"]
  fields.required "message" fun raw => do
    (← raw.fields? ["content"]).optional "content" none (Raw.nullable? Raw.string?)

def contents? (body : String) : Option (List (Option String)) := do
  let fields ← (← Raw.read? body).fields? ["choices"]
  fields.required "choices" (Raw.list? content?)

/-- What an answer means: the content of its first choice. -/
def readAnswer (status : Nat) (body : String) : Except ReasoningError String :=
  if status = 429 then .error .rateLimited
  else if Http.isSuccess status then
    match contents? body with
    | none => .error (.api "Failed to parse response: error decoding response body")
    | some contents =>
      match contents.head?.join with
      | some content =>
        if Text.trim content = "" then .error .emptyResponse else .ok content
      | none => .error .emptyResponse
  else
    let text := Http.plainText body
    .error (.api ("API error (" ++ Http.statusText status ++ "): " ++
      (refusalMessage? text).getD text))

def outcome (request : Http.Request) : Http.Reply → Except ReasoningError String
  | .answered status body => readAnswer status (Http.carriedBody status body)
  | .refused => .error (.api ("Connection failed: " ++ request.failure))
  | .dropped => .error (.api ("Request failed: " ++ request.failure))
  | .late => .error (.api "Request timed out")
  | .unsendable fault => .error (.api ("Request failed: " ++ fault))

end ChatModel

end AnalystQuery.Reasoning
