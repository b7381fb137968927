import AnalystQuery.Glossary
import AnalystQuery.Json.Printer
import AnalystQuery.Query.Generated
import AnalystQuery.Request.Basic
import AnalystQuery.Schema

/-! What the language model is told when it reads a question: the shape of the answer, the
fields and words it may use, and what is known about the question. -/

namespace AnalystQuery.Prompt

def intentInstructions : String :=
  "You translate analyst questions about customer communications into a structured search " ++
    "intent.\n" ++
  "Respond with a single JSON object and nothing else, using this shape:\n" ++
  "\x7b\n" ++
  "  \"intent\": \"search\" | \"aggregate\" | \"analyze\" | \"compare\" | \"trend\",\n" ++
  "  \"entities\": \x7b\n" ++
  "    \"customers\": [], \"channels\": [], \"sentiments\": [], \"topics\": [], " ++
    "\"categories\": [],\n" ++
  "    \"priorities\": [], \"regions\": [], \"products\": [], \"statuses\": []\n" ++
  "  \x7d,\n" ++
  "  \"filters\": [\x7b\"field\": \"<schema field>\", \"operator\": " ++
    "\"eq|ne|gt|gte|lt|lte|in|contains|exists\", \"value\": <value>\x7d],\n" ++
  "  \"aggregations\": [\x7b\"type\": " ++
    "\"count|avg|sum|min|max|terms|date_histogram|percentiles\", \"field\": \"<schema field>\", " ++
    "\"name\": \"<label>\", \"options\": \x7b\x7d\x7d],\n" ++
  "  \"timeRange\": \"<relative phrase such as 'last week' or 'last 3 days'>\" | " ++
    "\x7b\"from\": \"<ISO 8601>\", \"to\": \"<ISO 8601>\"\x7d | null,\n" ++
  "  \"sort\": \x7b\"field\": \"<schema field>\", \"order\": \"asc|desc\"\x7d | null,\n" ++
  "  \"size\": <number> | null,\n" ++
  "  \"confidence\": <0.0 to 1.0>\n" ++
  "\x7d\n" ++
  "Only reference fields listed in the index schema. Use canonical glossary values for " ++
    "entities."

def setting (request : Request) (schema : Schema) (now : String) : String :=
  "Target index: " ++ request.index ++ "\nCurrent time: " ++ now ++ "\n\nIndex schema:\n" ++
    schema.describe ++ "\n\n" ++ Glossary.promptText ++ "\n"

def historyLines (number : Nat) : List String → List String
  | [] => []
  | question :: rest =>
    (toString number ++ ". " ++ Text.trim question ++ "\n") :: historyLines (number + 1) rest

def earlierQuestions (history : List String) : String :=
  if history.isEmpty then ""
  else "Previous questions in this session (oldest first):\n" ++
    String.join (historyLines 1 history) ++ "\n"

def additionalContext (context : Option String) : String :=
  match (context.map Text.trim).filter (· != "") with
  | some context => "Additional context: " ++ context ++ "\n\n"
  | none => ""

def question (request : Request) (schema : Schema) (window : Nat) (now : String) : String :=
  setting request schema now ++ earlierQuestions (request.recentHistory window) ++
    additionalContext request.context ++ "Question: " ++ Text.trim request.question ++ "\n"

/-- Asks for a corrected intent, given what was wrong with an earlier reading. -/
def refinement (request : Request) (feedback : String) (earlier : GeneratedQuery)
    (schema : Schema) (now : String) : String :=
  setting request schema now ++
    "Original question: " ++ Text.trim request.question ++ "\n" ++
    "Previous interpretation: " ++ earlier.explanation ++ "\n" ++
    "Previous intent JSON: " ++ earlier.intent.encode.compact ++ "\n" ++
    "Analyst feedback: " ++ Text.trim feedback ++ "\n\n" ++
    "Return a corrected intent JSON object that addresses the feedback.\n"

end AnalystQuery.Prompt
