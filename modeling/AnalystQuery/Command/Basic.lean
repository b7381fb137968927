import AnalystQuery.Metrics.Exposition
import AnalystQuery.Pipeline.Examples
import AnalystQuery.Pipeline.Executing
import AnalystQuery.Pipeline.Report

/-! The commands of the program: what each prints, and how it can fail. -/

namespace AnalystQuery

inductive Command where
  | compile (question index : String) (context timezone : Option String)
      (execute metrics : Bool)
  | refine (question index feedback file : String)
  | validate (file : String) (index : Option String)
  | resolveTime (phrase : String) (timezone : Option String)
  | examples (index : String)
  deriving DecidableEq, Repr

namespace Command

def file? : Command → Option String
  | refine _ _ _ file => some file
  | validate file _ => some file
  | _ => none

inductive Failure where
  | operation (cause : Error)
  | unreadableFile (file : String)
  | notJson
  | notGenerated
  | noSchema (index : String)
  | refused
  deriving DecidableEq, Repr

def Failure.message : Failure → String
  | operation cause => cause.message
  | unreadableFile file => "Failed to read " ++ file
  | notJson => "The file does not hold JSON text"
  | notGenerated => "DSL file is not a generated query"
  | noSchema index => "No schema for index '" ++ index ++ "'"
  | refused => "DSL failed security validation"

structure Output where
  printed : String
  metrics : Option String
  failure : Option Failure
  deriving DecidableEq, Repr

structure Surroundings where
  fileText : String → Except FileError String
  now : Calendar.Instant

private def page (value : Json) : String := value.pretty ++ "\n"

private def failed (failure : Failure) : Output := ⟨"", none, some failure⟩

private def shown (value : Json) : Output := ⟨page value, none, none⟩

private def ofOutcome {α : Type} (encode : α → Json) : Except Error α → Output
  | .ok value => shown (encode value)
  | .error cause => failed (.operation cause)

def pipelineAt (settings : Settings) (now : Calendar.Instant) : Pipeline :=
  ⟨settings, Schema.builtIn, now⟩

def runOperation {α : Type} (settings : Settings) (encode : α → Json)
    (operation : Pipeline.Operation α) : Pipeline.Plan (Output × Pipeline.Session) := do
  let (outcome, session) ← operation.run.run (.fresh settings.cache.enabled)
  pure (ofOutcome encode outcome, session)

def runCompile (surroundings : Surroundings) (settings : Settings) (request : Request)
    (metrics : Bool) : Pipeline.Plan Output := do
  let pipeline := pipelineAt settings surroundings.now
  let (output, session) ←
    if request.execute then runOperation settings Answer.encode (pipeline.answer request)
    else runOperation settings GeneratedQuery.encode (pipeline.compile request)
  if metrics then
    pure { output with metrics := some ((Pipeline.metricsOf session.journal).exposition 0) }
  else pure output

def runRefine (surroundings : Surroundings) (settings : Settings) (request : Request)
    (feedback file : String) : Pipeline.Plan Output :=
  match surroundings.fileText file with
  | .error _ => pure (failed (.unreadableFile file))
  | .ok text =>
    match (Json.Raw.read? text).bind GeneratedQuery.decode? with
    | none => pure (failed .notGenerated)
    | some earlier => do
      let pipeline := pipelineAt settings surroundings.now
      let (output, _) ← runOperation settings GeneratedQuery.encode
        (pipeline.refine request feedback earlier)
      pure output

/-- The envelope in a file: a generated query holds it under a key, with its index beside. -/
def envelopeOf (value : Json) : Json :=
  match value.get? "dsl", value.get? "index" with
  | some envelope, some _ => envelope
  | _, _ => value

def inspectEnvelope (settings : Settings) (schema : Option Schema) (envelope : Json) : Output :=
  let allowed := settings.pipeline.topLevelKeys
  let violations := Query.violations allowed envelope
  let printed := page (.object [
    ("unknown_clauses", .strings (Query.unknownClauses allowed envelope)),
    ("unknown_fields", .strings (schema.elim [] (Query.unknownFields envelope))),
    ("valid", .bool violations.isEmpty),
    ("violations", .strings violations)])
  ⟨printed, none, if violations.isEmpty then none else some .refused⟩

def runValidate (surroundings : Surroundings) (settings : Settings) (file : String)
    (index : Option String) : Output :=
  match surroundings.fileText file with
  | .error _ => failed (.unreadableFile file)
  | .ok text =>
    match Json.read? text with
    | none => failed .notJson
    | some value =>
      match index with
      | none => inspectEnvelope settings none (envelopeOf value)
      | some index =>
        match Schema.builtIn.find? (·.1 == index) with
        | none => failed (.noSchema index)
        | some (_, schema) => inspectEnvelope settings (some schema) (envelopeOf value)

def runResolveTime (surroundings : Surroundings) (phrase : String) (timezone : Option String) :
    Output :=
  let now := surroundings.now.inZone timezone
  shown (.object [("phrase", .string phrase),
    ("timeRange", .ofOption Calendar.TimeRange.encode (Calendar.resolve? now phrase))])

def run (surroundings : Surroundings) (settings : Settings) : Command → Pipeline.Plan Output
  | compile question index context timezone execute metrics =>
    runCompile surroundings settings
      { Request.ask question index with context, timezone, execute } metrics
  | refine question index feedback file =>
    runRefine surroundings settings (.ask question index) feedback file
  | validate file index => pure (runValidate surroundings settings file index)
  | resolveTime phrase timezone => pure (runResolveTime surroundings phrase timezone)
  | examples index => pure (shown (.strings (Pipeline.exampleQuestions index)))

end Command

end AnalystQuery
