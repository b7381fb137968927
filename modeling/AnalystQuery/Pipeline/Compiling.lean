import AnalystQuery.Intent.Normalization
import AnalystQuery.Pipeline.Session
import AnalystQuery.Prompt.Question
import AnalystQuery.Query.Compilation
import AnalystQuery.Query.References
import AnalystQuery.Request.CacheKey

/-! From a question to a query: the request is checked before anything is asked, the language
model reads the question unless its reading is remembered, and every query is inspected before
it is handed on. -/

namespace AnalystQuery.Pipeline

def requestError? (pipeline : Pipeline) (request : Request) (execute : Bool) :
    Option ValidationError :=
  let rules := pipeline.settings.pipeline
  if Text.trim request.question = "" then some .emptyQuery
  else if !rules.allows request.index then some .unknownIndex
  else if execute && !rules.executes request.index then some (.notExecutable request.index)
  else none

def checkRequest (pipeline : Pipeline) (request : Request) (execute : Bool) : Operation Unit :=
  match pipeline.requestError? request execute with
  | some cause => reject cause
  | none => pure ()

def requireSchema (pipeline : Pipeline) (index : String) : Operation Schema :=
  match pipeline.schema? index with
  | some schema => pure schema
  | none => throw (.validation (.missingSchema index))

def reason (pipeline : Pipeline) (request : Request) (prompt : String) : Operation String := do
  let outcome ← askWithin pipeline.settings.reasoning.timeoutMillis
    ⟨prompt, some Prompt.intentInstructions, request.rateLimitKey⟩
  match outcome with
  | .ok answer => pure answer
  | .error cause => throw (.reasoning cause)

def normalize (pipeline : Pipeline) (now : Calendar.Instant) (answer : String) :
    Activity Intent := do
  let rules := pipeline.settings.pipeline
  let outcome := Intent.normalize ⟨rules.defaultConfidence, rules.degradedConfidence⟩ now answer
  if outcome.isDegraded then count .parseDegradations
  pure outcome.intent

/-- The intent of a request: the remembered one, or what the language model reads. A degraded
intent is not remembered. -/
def resolveIntent (pipeline : Pipeline) (request : Request) (schema : Schema)
    (now : Calendar.Instant) : Operation Intent := do
  let window := pipeline.settings.pipeline.historyWindow
  let key := request.cacheKey window
  match ← remembered? key with
  | some intent =>
    enter .cacheHit
    pure intent
  | none =>
    enter .reasoning
    let answer ← pipeline.reason request (Prompt.question request schema window now.render)
    enter .normalizing
    let intent ← pipeline.normalize now answer
    if !intent.parseFailed then pipeline.remember key intent
    pure intent

def checkSecurity (pipeline : Pipeline) (query : GeneratedQuery) : Operation Unit := do
  enter .securityValidating
  let violations := Query.violations pipeline.settings.pipeline.topLevelKeys query.envelope
  if !violations.isEmpty then reject (.unsafeQuery violations)

/-- Refuses an envelope with fields outside the schema, where the settings say so. -/
def checkFields (pipeline : Pipeline) (schema : Schema) (query : GeneratedQuery) :
    Operation Unit := do
  enter .schemaValidating
  let unknown := Query.unknownFields query.envelope schema
  if !unknown.isEmpty && pipeline.settings.pipeline.strictSchema then
    reject (.unknownFields unknown)

def compileIntent (pipeline : Pipeline) (request : Request) (schema : Schema)
    (intent : Intent) : Operation GeneratedQuery := do
  enter .compiling
  let rules := pipeline.settings.pipeline
  let query := Query.compile ⟨rules.defaultSize, rules.maxSize⟩ request.index schema intent
  pipeline.checkSecurity query
  pipeline.checkFields schema query
  pure query

def compileChecked (pipeline : Pipeline) (request : Request) :
    Operation GeneratedQuery := do
  enter .validating
  pipeline.checkRequest request request.execute
  let schema ← pipeline.requireSchema request.index
  let now ← pipeline.present request.timezone
  let intent ← pipeline.resolveIntent request schema now
  pipeline.compileIntent request schema intent

def compile (pipeline : Pipeline) (request : Request) : Operation GeneratedQuery := do
  count .compileRequests
  recordingFailure (timing .compile (pipeline.compileChecked request))

/-- Compiles a question anew, given what was wrong with an earlier query. -/
def refine (pipeline : Pipeline) (request : Request) (feedback : String)
    (earlier : GeneratedQuery) : Operation GeneratedQuery :=
  recordingFailure do
    enter .validating
    pipeline.checkRequest request false
    if Text.trim feedback = "" then reject .emptyQuery
    let schema ← pipeline.requireSchema request.index
    let now ← pipeline.present request.timezone
    enter .reasoning
    let answer ← pipeline.reason request
      (Prompt.refinement request feedback earlier schema now.render)
    enter .normalizing
    let intent ← pipeline.normalize now answer
    pipeline.compileIntent request schema intent

end AnalystQuery.Pipeline
