import AnalystQuery.Proofs.Pipeline.Compiles

/-! Everything that executing a query and summing up what it finds can do. A query that passes the
checks is searched for once. What is found decides whether the language model is asked for a
summary, and never depends on what it says. -/

namespace AnalystQuery.Pipeline

open Operation (Runs)
open Prompt (summaryInstructions nothingFound plainSummary)

variable {pipeline : Pipeline} {request : Request} {query : GeneratedQuery} {schema : Schema}
  {before after : Session} {contacts : List Contact}

def summaryCall (pipeline : Pipeline) (request : Request) (response : Search.Response) :
    Reasoning.Call :=
  let rules := pipeline.settings.pipeline
  ⟨Prompt.summary request.question response.total response.hits response.aggregations
    rules.sampleSize rules.snippetLength, some summaryInstructions, request.rateLimitKey⟩

def summaryText (index : String) (total : Nat) (heard : Except ReasoningError String) : String :=
  ((heard.toOption.map Text.trim).filter (· != "")).getD (plainSummary index total)

/-- The ways in which findings are summed up: the contacts, the summary, and the calls that are
postponed afterwards. -/
inductive Summarizes (pipeline : Pipeline) (request : Request) (response : Search.Response)
    (postponed : List Reasoning.Call) : List Contact → String → List Reasoning.Call → Prop where
  | nothing (none : response.total = 0) :
      Summarizes pipeline request response postponed [] nothingFound postponed
  | asked {contacts : List Contact} {heard : Except ReasoningError String}
      {left : List Reasoning.Call} (some : response.total ≠ 0)
      (asks : Asks pipeline.settings.reasoning.summaryTimeoutMillis
        (pipeline.summaryCall request response) postponed contacts heard left) :
      Summarizes pipeline request response postponed contacts
        (summaryText request.index response.total heard) left

theorem Activity.runs_summarize {response : Search.Response} {summary : String}
    (runs : Runs (pipeline.summarize request response) before contacts summary after) :
    Summarizes pipeline request response before.postponed contacts summary after.postponed := by
  unfold summarize at runs
  split at runs
  · rename_i none
    obtain ⟨rfl, rfl, rfl⟩ := runs_pure_iff.mp runs
    exact .nothing none
  · rename_i some
    obtain ⟨_, _, _, _, rfl, enters, asking⟩ := runs_bind_iff.mp runs
    obtain ⟨rfl, rfl⟩ := runs_modify_iff.mp enters
    obtain ⟨first, second, heard, between, rfl, asks, settling⟩ := runs_bind_iff.mp asking
    have settled : second = [] ∧ summary = summaryText request.index response.total heard ∧
        after.postponed = between.postponed := by
      rw [summaryText]
      split at settling
      · rename_i text said
        obtain ⟨rfl, rfl, rfl⟩ := runs_pure_iff.mp settling
        rw [said]
        exact ⟨rfl, rfl, rfl⟩
      · rename_i silent
        obtain ⟨rfl, same⟩ := Plan.runs_done_iff.mp settling
        obtain ⟨rfl, rfl⟩ := Prod.mk.inj same
        rw [silent]
        exact ⟨rfl, rfl, rfl⟩
    obtain ⟨rfl, rfl, same⟩ := settled
    rw [same, List.nil_append, List.append_nil]
    have posed := asks_askWithin asks
    exact .asked some posed

/-- The ways in which a query is executed and its findings are summed up: the contacts, the
outcome, and the calls that are postponed afterwards. -/
inductive Executes (pipeline : Pipeline) (request : Request) (query : GeneratedQuery)
    (postponed : List Reasoning.Call) :
    List Contact → Except Error Findings → List Reasoning.Call → Prop where
  | failed {begun : List Contact} {left : List Reasoning.Call} (reply : Search.Reply)
      (cause : ExecutionError) (fails : reply.outcome = .error cause)
      (catches : Catches postponed begun left) :
      Executes pipeline request query postponed (.searched (searchCall query) reply :: begun)
        (.error (.execution cause)) left
  | found {begun rest : List Contact} {between left : List Reasoning.Call} {summary : String}
      (reply : Search.Reply) (response : Search.Response) (millis : Nat)
      (finds : reply.outcome = .ok response) (catches : Catches postponed begun between)
      (sums : Summarizes pipeline request response between rest summary left) :
      Executes pipeline request query postponed
        (.searched (searchCall query) reply :: (begun ++ rest))
        (.ok ⟨response.total, response.hits, response.aggregations, millis, summary⟩) left

section MapError

variable {ε δ α : Type} {outcome : Except ε α} {change : ε → δ}

theorem eq_ok_of_mapError {value : α} (same : outcome.mapError change = .ok value) :
    outcome = .ok value := by
  cases outcome with
  | ok other => rw [Except.ok.inj same]
  | error cause => cases same

theorem eq_error_of_mapError {error : δ} (same : outcome.mapError change = .error error) :
    ∃ cause, outcome = .error cause ∧ error = change cause := by
  cases outcome with
  | ok other => cases same
  | error cause => exact ⟨cause, rfl, (Except.error.inj same).symm⟩

end MapError

theorem executionError?_of_verdict {intent : Intent}
    (flawless : pipeline.requestError? request true = none)
    (given : pipeline.verdict request schema intent = .ok query) :
    pipeline.executionError? query = none := by
  have executes : pipeline.settings.pipeline.executes request.index = true := by
    rw [requestError?] at flawless
    split at flawless
    · cases flawless
    · split at flawless
      · cases flawless
      · split at flawless
        · cases flawless
        · rename_i executes
          simpa using executes
  have same := eq_compile_of_verdict given
  have index : query.index = request.index := by
    rw [same]
    rfl
  rw [executionError?, index, if_pos executes]
  rw [verdict_eq] at given
  dsimp only at given
  rw [← same] at given
  cases secure : pipeline.securityError? query with
  | some cause =>
    rw [secure] at given
    cases given
  | none => rfl

namespace Operation

theorem immediate_startExecution {cause : ValidationError}
    (refusal : pipeline.executionError? query = some cause) :
    Immediate (pipeline.startExecution query) (.error (.validation cause)) := by
  have checks := immediate_checkExecutable pipeline query
  rw [refusal] at checks
  exact checks.fail

theorem runs_startExecution {outcome : Except Error Search.Reply}
    (admitted : pipeline.executionError? query = none)
    (runs : Runs (pipeline.startExecution query) before contacts outcome after) :
    ∃ reply, contacts = [.searched (searchCall query) reply] ∧ outcome = .ok reply ∧
      Alike before after := by
  have passes := immediate_checkExecutable pipeline query
  rw [admitted] at passes
  obtain ⟨checked, early, starting⟩ := passes.runs_next runs
  obtain ⟨reply, rfl, searches⟩ :=
    runs_lift_iff.mp (runs_count_bind_iff.mp (runs_enter_bind_iff.mp starting))
  obtain ⟨rfl, rfl⟩ := Activity.runs_startSearch_iff.mp searches
  exact ⟨reply, rfl, rfl, (early.trans (alike_noting _ _)).trans (alike_noting _ _)⟩

theorem runs_settle {reply : Search.Reply} {outcome : Except Error Search.Response}
    (runs : Runs (settle reply) before contacts outcome after) :
    Catches before.postponed contacts after.postponed ∧
      outcome = reply.outcome.mapError .execution := by
  obtain ⟨begun, _, _, waited, rfl, waits, timing⟩ := runs_lift_bind_iff.mp runs
  obtain ⟨_, last, _, _, rfl, times, settling⟩ := runs_lift_bind_iff.mp timing
  obtain ⟨rfl, rfl⟩ := Activity.runs_modify_iff.mp times
  have settled : last = [] ∧ outcome = reply.outcome.mapError .execution ∧
      after.postponed = waited.postponed := by
    cases given : reply.outcome with
    | ok response =>
      rw [given] at settling
      obtain ⟨rfl, rfl, rfl⟩ := runs_pure_iff.mp settling
      exact ⟨rfl, rfl, rfl⟩
    | error cause =>
      rw [given] at settling
      obtain ⟨rfl, rfl, rfl⟩ := runs_throw_iff.mp (runs_count_bind_iff.mp settling)
      exact ⟨rfl, rfl, rfl⟩
  obtain ⟨rfl, rfl, same⟩ := settled
  rw [same, List.nil_append, List.append_nil]
  exact ⟨Activity.catches_wait waits, rfl⟩

theorem runs_execute {outcome : Except Error Search.Response}
    (admitted : pipeline.executionError? query = none)
    (runs : Runs (pipeline.execute query) before contacts outcome after) :
    ∃ reply begun, contacts = .searched (searchCall query) reply :: begun ∧
      Catches before.postponed begun after.postponed ∧
      outcome = reply.outcome.mapError .execution := by
  rcases runs_bind_iff.mp runs with ⟨error, rfl, fails⟩ |
      ⟨_, begun, reply, started, rfl, starts, settles⟩
  · obtain ⟨reply, -, same, -⟩ := runs_startExecution admitted fails
    cases same
  · obtain ⟨_, rfl, same, alike⟩ := runs_startExecution admitted starts
    obtain rfl := Except.ok.inj same
    obtain ⟨catches, given⟩ := runs_settle settles
    rw [alike.postponed] at catches
    exact ⟨reply, begun, rfl, catches, given⟩

theorem runs_run {outcome : Except Error Findings}
    (admitted : pipeline.executionError? query = none)
    (runs : Runs (pipeline.run request query) before contacts outcome after) :
    Executes pipeline request query before.postponed contacts outcome after.postponed := by
  have executing := runs_get_bind_iff.mp runs
  rcases runs_bind_iff.mp executing with ⟨error, rfl, fails⟩ |
      ⟨_, _, response, executed, rfl, executes, reading⟩
  · obtain ⟨reply, begun, rfl, catches, given⟩ := runs_execute admitted fails
    obtain ⟨cause, failed, rfl⟩ := eq_error_of_mapError given.symm
    exact .failed reply cause failed catches
  · obtain ⟨reply, begun, rfl, catches, given⟩ := runs_execute admitted executes
    have finds := eq_ok_of_mapError given.symm
    have summing := runs_get_bind_iff.mp reading
    obtain ⟨rest, _, summary, _, rfl, sums, giving⟩ := runs_lift_bind_iff.mp summing
    obtain ⟨rfl, rfl, rfl⟩ := runs_pure_iff.mp giving
    rw [List.append_nil]
    exact .found reply response _ finds catches (Activity.runs_summarize sums)

theorem executionError?_of_compile (executes : request.execute = true)
    (runs : Runs (pipeline.compile request) before contacts (.ok query) after) :
    pipeline.executionError? query = none := by
  rcases compile_cases runs with ⟨error, -, -, same, -⟩ |
      ⟨schema, accepts, ⟨intent, -, -, given, -⟩ | ⟨-, heard, -, given, -⟩⟩
  · cases same
  · exact executionError?_of_verdict (executes ▸ accepts.flawless) given.symm
  · cases heard with
    | ok answer =>
      rw [response] at given
      exact executionError?_of_verdict (executes ▸ accepts.flawless) given.symm
    | error cause => cases given

theorem runs_answer {outcome : Except Error Answer}
    (runs : Runs (pipeline.answer request) before contacts outcome after) :
    ∃ first compiled between,
      Runs (pipeline.compile { request with execute := true }) before first compiled between ∧
      ((∃ error, compiled = .error error ∧ contacts = first ∧ outcome = .error error ∧
          after = between) ∨
        ∃ query second executed ended, compiled = .ok query ∧ contacts = first ++ second ∧
          Runs (pipeline.run { request with execute := true } query) between second executed
            ended ∧
          Alike ended after ∧
          ((∃ error, executed = .error error ∧ outcome = .error error) ∨
            ∃ findings millis, executed = .ok findings ∧
              outcome = .ok ⟨query, findings, millis, findings.summary⟩)) := by
  have compiling := runs_get_bind_iff.mp runs
  rcases runs_bind_iff.mp compiling with ⟨error, rfl, fails⟩ |
      ⟨first, _, query, between, rfl, compiles, executing⟩
  · exact ⟨_, _, after, fails, Or.inl ⟨error, rfl, rfl, rfl, rfl⟩⟩
  refine ⟨first, _, between, compiles, Or.inr ?_⟩
  rcases runs_bind_iff.mp executing with ⟨error, rfl, fails⟩ |
      ⟨second, _, findings, executed, rfl, executes, entering⟩
  · obtain ⟨ended, inner, alike⟩ := runs_recordingFailure fails
    exact ⟨query, _, _, ended, rfl, rfl, inner, alike, Or.inl ⟨error, rfl, rfl⟩⟩
  · obtain ⟨ended, inner, alike⟩ := runs_recordingFailure executes
    have giving := runs_get_bind_iff.mp (runs_enter_bind_iff.mp entering)
    obtain ⟨rfl, rfl, rfl⟩ := runs_pure_iff.mp giving
    have finished := alike.trans (alike_noting executed (.entered .done))
    refine ⟨query, second, _, ended, rfl, ?_, inner, finished, Or.inr ⟨findings, _, rfl, rfl⟩⟩
    simp only [List.append_nil]

/-- The cases of an answer: the question is not compiled, or its query is executed. -/
theorem answer_cases {outcome : Except Error Answer}
    (runs : Runs (pipeline.answer request) before contacts outcome after) :
    ∃ first compiled between,
      Runs (pipeline.compile { request with execute := true }) before first compiled between ∧
      ((∃ error, compiled = .error error ∧ contacts = first ∧ outcome = .error error ∧
          after = between) ∨
        ∃ query second executed, compiled = .ok query ∧ contacts = first ++ second ∧
          Executes pipeline { request with execute := true } query between.postponed second
            executed after.postponed ∧
          ((∃ error, executed = .error error ∧ outcome = .error error) ∨
            ∃ findings millis, executed = .ok findings ∧
              outcome = .ok ⟨query, findings, millis, findings.summary⟩)) := by
  obtain ⟨first, compiled, between, compiles, ends⟩ := runs_answer runs
  refine ⟨first, compiled, between, compiles, ends.imp_right ?_⟩
  rintro ⟨query, second, executed, ended, rfl, rfl, executes, alike, gives⟩
  have ways := runs_run (executionError?_of_compile rfl compiles) executes
  rw [← alike.postponed] at ways
  exact ⟨query, second, executed, rfl, rfl, ways, gives⟩

end Operation

end AnalystQuery.Pipeline
