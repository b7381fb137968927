import AnalystQuery.Command.Basic
import AnalystQuery.Proofs.Pipeline.CacheHits
import AnalystQuery.Proofs.Pipeline.Pages
import AnalystQuery.Proofs.Query.Storing

/-! Queries that are saved to files. Whatever a session was used for before, a query that it gives
is compiled from a storable intent, so that it is read in its own text as it was; refining it from
a file is refining the query itself. -/

namespace AnalystQuery.Pipeline

open Operation (Runs)

variable {pipeline : Pipeline} {before after : Session} {contacts : List Contact}
  {request : Request} {schema : Schema} {generated : GeneratedQuery}

def OfStorable (pipeline : Pipeline) (generated : GeneratedQuery) : Prop :=
  ∃ index schema intent, Intent.Storable intent ∧
    generated = Query.compile pipeline.sizes index schema intent

theorem storable_reading (pipeline : Pipeline) (request : Request) (elapsed : Nat)
    (answer : String) : (pipeline.reading request elapsed answer).intent.Storable :=
  Intent.storable_normalize _ _ answer

theorem ofStorable_of_verdict {intent : Intent} (storable : intent.Storable)
    (passes : pipeline.verdict request schema intent = .ok generated) :
    pipeline.OfStorable generated :=
  ⟨request.index, schema, intent, storable, eq_compile_of_verdict passes⟩

theorem ofStorable_of_response {elapsed : Nat} {heard : Except ReasoningError String}
    (given : pipeline.response request schema elapsed heard = .ok generated) :
    pipeline.OfStorable generated := by
  cases heard with
  | ok answer =>
    rw [response] at given
    exact ofStorable_of_verdict (storable_reading pipeline request elapsed answer) given
  | error cause => cases given

theorem History.storable {steps : List Step} {key : String} {intent : Intent}
    (history : pipeline.History steps before) (found : before.recalled? key = some intent) :
    intent.Storable := by
  obtain ⟨entry, member, -, -, rfl⟩ := Session.mem_of_recalled? found
  obtain ⟨_, source, _, asked, answer, -, origin⟩ := history.explains.sources entry member
  exact origin.intent ▸ storable_reading pipeline asked source.time answer

theorem ofStorable_of_compile {steps : List Step} (history : pipeline.History steps before)
    (runs : Runs (pipeline.compile request) before contacts (.ok generated) after) :
    pipeline.OfStorable generated := by
  rcases Operation.compile_cases runs with ⟨error, -, -, same, -⟩ |
      ⟨schema, -, ⟨intent, found, -, given, -⟩ | ⟨-, heard, -, given, -⟩⟩
  · cases same
  · exact ofStorable_of_verdict (history.storable found) given.symm
  · exact ofStorable_of_response given.symm

theorem ofStorable_of_refine {feedback : String} {earlier : GeneratedQuery}
    (runs : Runs (pipeline.refine request feedback earlier) before contacts (.ok generated) after) :
    pipeline.OfStorable generated := by
  rcases Operation.refine_cases runs with ⟨error, -, -, same, -⟩ |
      ⟨schema, heard, -, -, -, given, -⟩
  · cases same
  · exact ofStorable_of_response given.symm

theorem ofStorable_of_perform {steps : List Step} {task : Task} {result : Result}
    (history : pipeline.History steps before)
    (performs : Runs (pipeline.perform task) before contacts (.ok result) after)
    (given : result.query? = some generated) : pipeline.OfStorable generated := by
  rcases query_of_perform performs given with ⟨request, _, _, _, -, -, compiles⟩ |
      ⟨request, feedback, earlier, -, refines⟩
  · exact ofStorable_of_compile history compiles
  · exact ofStorable_of_refine refines

theorem OfStorable.decode?_spelled (origin : pipeline.OfStorable generated)
    (fits : pipeline.settings.pipeline.maxSize < Json.integerLimit)
    (finite : generated.intent.confidence.isFinite = true) (numbers : generated.NumbersReadBack) :
    GeneratedQuery.decode? (Json.spelled generated.encode) = some generated := by
  obtain ⟨index, schema, intent, storable, rfl⟩ := origin
  exact GeneratedQuery.decode?_spelled (Query.isSettled_compile index storable fits) storable finite
    numbers

/-- The command that refines a query which is at hand, and in no file. -/
def refineAtHand (surroundings : Command.Surroundings) (settings : Settings) (request : Request)
    (feedback : String) (earlier : GeneratedQuery) : Plan Command.Output := do
  let (output, _) ← Command.runOperation settings GeneratedQuery.encode
    ((Command.pipelineAt settings surroundings.now).refine request feedback earlier)
  pure output

/-- Refining the query that is read in a file is refining that query. -/
theorem runRefine_of_saved {surroundings : Command.Surroundings} {file text : String}
    (held : surroundings.fileText file = .ok text)
    (saved : (Json.Raw.read? text).bind GeneratedQuery.decode? = some generated)
    (settings : Settings) (request : Request) (feedback : String) :
    Command.runRefine surroundings settings request feedback file =
      refineAtHand surroundings settings request feedback generated := by
  rw [Command.runRefine, held]
  dsimp only
  rw [saved]
  rfl

/-- A query that a session gives is read in each of its texts as it was, if its confidence is finite,
it does not nest too deeply, its numbers are read as they are written, and the limit of the settings
is a number of 64 bits. So refining it from a file is refining the query itself. -/
theorem generated_query_read_back {steps : List Step} {task : Task} {result : Result}
    (history : pipeline.History steps before)
    (performs : Runs (pipeline.perform task) before contacts (.ok result) after)
    (given : result.query? = some generated)
    (fits : pipeline.settings.pipeline.maxSize < Json.integerLimit)
    (finite : generated.intent.confidence.isFinite = true)
    (nests : generated.encode.nesting ≤ Json.nestingLimit)
    (numbers : generated.NumbersReadBack) :
    ∀ text ∈ generated.encode.writings,
      (Json.Raw.read? text).bind GeneratedQuery.decode? = some generated ∧
        ∀ (surroundings : Command.Surroundings) (settings : Settings) (request : Request)
          (feedback file : String), surroundings.fileText file = .ok text →
          Command.runRefine surroundings settings request feedback file =
            refineAtHand surroundings settings request feedback generated := by
  have origin := ofStorable_of_perform history performs given
  intro text written
  have saved : (Json.Raw.read? text).bind GeneratedQuery.decode? = some generated := by
    rw [Json.read?_writings nests numbers.floats text written]
    exact origin.decode?_spelled fits finite numbers
  exact ⟨saved, fun _ settings request feedback _ held =>
    runRefine_of_saved held saved settings request feedback⟩

private def scorePipeline : Pipeline := ⟨.default, Schema.builtIn, .origin⟩

private def scoreRequest : Request := .ask "slow negative mails" "communications"

private def scoreAnswer : String :=
  "\x7b\"filters\": [\x7b\"field\": \"sentiment_score\", \"operator\": \"lt\", \"value\": -0.25\x7d], " ++
    "\"confidence\": 0.75, \"from\": 20\x7d"

private def scoreIntent : Intent := (scorePipeline.reading scoreRequest 0 scoreAnswer).intent

theorem score_query_read_back :
    ∃ steps before contacts result after generated,
      scorePipeline.History steps before ∧
      Runs (scorePipeline.perform (.compile scoreRequest)) before contacts (.ok result) after ∧
      result.query? = some generated ∧
      scorePipeline.settings.pipeline.maxSize < Json.integerLimit ∧
      generated.intent.confidence.isFinite = true ∧
      generated.encode.nesting ≤ Json.nestingLimit ∧ generated.NumbersReadBack ∧
      ∀ text ∈ generated.encode.writings,
        (Json.Raw.read? text).bind GeneratedQuery.decode? = some generated ∧
          ∀ (surroundings : Command.Surroundings) (settings : Settings) (request : Request)
            (feedback file : String), surroundings.fileText file = .ok text →
            Command.runRefine surroundings settings request feedback file =
              refineAtHand surroundings settings request feedback generated := by
  have accepts : scorePipeline.Accepts scoreRequest .communications :=
    ⟨by decide +kernel, by decide +kernel⟩
  obtain ⟨contacts, outcome, after, performs, follow⟩ :=
    Operation.exists_runs (scorePipeline.perform (.compile scoreRequest)) (.fresh true)
      (fun _ => ⟨0, .ok scoreAnswer⟩) fun _ => ⟨0, .error (.timeout 0)⟩
  obtain ⟨compiled, rfl, compiles⟩ := Operation.runs_map_iff.mp performs
  have given := ((Operation.compiles_compile compiles).of_missed follow accepts rfl).1
  have fits : scorePipeline.settings.pipeline.maxSize < Json.integerLimit := by decide
  have sound : (scorePipeline.verdict scoreRequest .communications scoreIntent).isOk = true := by
    decide +kernel
  obtain ⟨generated, passes⟩ : ∃ generated,
      scorePipeline.verdict scoreRequest .communications scoreIntent = .ok generated := by
    cases verdict : scorePipeline.verdict scoreRequest .communications scoreIntent with
    | ok generated => exact ⟨generated, rfl⟩
    | error error =>
      rw [verdict] at sound
      cases sound
  have made := eq_compile_of_verdict passes
  obtain ⟨finite, nests, legible, confidence⟩ : generated.intent.confidence.isFinite = true ∧
      generated.encode.nesting ≤ Json.nestingLimit ∧ Json.Legible generated.encode ∧
      Intent.ConfidenceReadBack generated.intent.confidence := by
    rw [made]
    decide +kernel
  have numbers : generated.NumbersReadBack := ⟨legible, fun _ => confidence⟩
  rw [given.trans passes] at performs
  exact ⟨[], .fresh true, contacts, .query generated, after, generated, .fresh true, performs, rfl,
    fits, finite, nests, numbers,
    generated_query_read_back (.fresh true) performs rfl fits finite nests numbers⟩

end AnalystQuery.Pipeline
