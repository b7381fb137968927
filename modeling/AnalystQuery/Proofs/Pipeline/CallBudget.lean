import AnalystQuery.Proofs.Pipeline.Branches
import AnalystQuery.Proofs.Pipeline.Refinement

/-! How many calls a task takes. What is refused takes none. A question takes one call of the
language model unless its intent is remembered, an execution one call of the search engine, and
findings one call for their summary. No call is made again, whatever became of it. -/

namespace AnalystQuery.Pipeline

open Operation (Runs Immediate)

variable {α β : Type} {pipeline : Pipeline} {request : Request} {query : GeneratedQuery}
  {before after : Session} {contacts : List Contact}

def Contact.call? : Contact → Option Reasoning.Call
  | .asked call _ => some call
  | .searched _ _ => none

def Contact.search? : Contact → Option (Search.Call × Search.Reply)
  | .asked _ _ => none
  | .searched call reply => some (call, reply)

/-- The language model is asked `asks` and the search engine `searched`. Each call of the language
model that is issued, or was postponed before, begins once or is postponed. -/
structure Spends (postponed : List Reasoning.Call) (contacts : List Contact)
    (left asks : List Reasoning.Call) (searched : List (Search.Call × Search.Reply)) : Prop where
  asked : postponed ++ asks = contacts.filterMap Contact.call? ++ left
  searched : contacts.filterMap Contact.search? = searched

section Spends

variable {postponed between left asks more : List Reasoning.Call} {others : List Contact}
  {searched found : List (Search.Call × Search.Reply)}

theorem spends_nothing (postponed : List Reasoning.Call) : Spends postponed [] postponed [] [] :=
  ⟨List.append_nil _, rfl⟩

theorem Spends.join (early : Spends postponed contacts between asks searched)
    (late : Spends between others left more found) :
    Spends postponed (contacts ++ others) left (asks ++ more) (searched ++ found) := by
  constructor
  · calc postponed ++ (asks ++ more)
        = contacts.filterMap Contact.call? ++ (between ++ more) := by
          rw [← List.append_assoc, early.asked, List.append_assoc]
      _ = (contacts ++ others).filterMap Contact.call? ++ left := by
          rw [late.asked, List.filterMap_append, List.append_assoc]
  · rw [List.filterMap_append, early.searched, late.searched]

theorem Spends.unsearched {call : Search.Call} {reply : Search.Reply}
    (spends : Spends postponed contacts left asks []) : .searched call reply ∉ contacts := by
  intro member
  have found : (call, reply) ∈ contacts.filterMap Contact.search? :=
    List.mem_filterMap.mpr ⟨_, member, rfl⟩
  rw [spends.searched] at found
  cases found

theorem spends_search (postponed : List Reasoning.Call) (call : Search.Call)
    (reply : Search.Reply) :
    Spends postponed [.searched call reply] postponed [] [(call, reply)] :=
  ⟨List.append_nil _, rfl⟩

theorem Begun.filterMap {calls : List Reasoning.Call} (begun : Begun calls contacts) :
    contacts.filterMap Contact.call? = calls ∧ contacts.filterMap Contact.search? = [] := by
  induction begun with
  | nil => exact ⟨rfl, rfl⟩
  | cons first _ ih =>
    obtain ⟨reply, rfl⟩ := first
    obtain ⟨calls, none⟩ := ih
    exact ⟨congrArg (_ :: ·) calls, none⟩

theorem Catches.spends (catches : Catches postponed contacts left) :
    Spends postponed contacts left [] [] := by
  cases catches with
  | none => exact spends_nothing _
  | all begun =>
    obtain ⟨calls, none⟩ := begun.filterMap
    exact ⟨congrArg (· ++ []) calls.symm, none⟩

theorem Asks.spends {deadline : Nat} {call : Reasoning.Call}
    {heard : Except ReasoningError String}
    (posed : Asks deadline call postponed contacts heard left) :
    Spends postponed contacts left [call] [] := by
  cases posed with
  | givenUp => exact ⟨rfl, rfl⟩
  | made reply hopeful begun =>
    obtain ⟨calls, none⟩ := begun.filterMap
    constructor
    · rw [List.filterMap_append, calls, List.append_nil]
      rfl
    · rw [List.filterMap_append, none]
      rfl

def summaryCalls (pipeline : Pipeline) (request : Request) :
    Except ExecutionError Search.Response → List Reasoning.Call
  | .ok response => if response.total = 0 then [] else [pipeline.summaryCall request response]
  | .error _ => []

theorem Summarizes.spends {response : Search.Response} {summary : String}
    (sums : Summarizes pipeline request response postponed contacts summary left) :
    Spends postponed contacts left (pipeline.summaryCalls request (.ok response)) [] := by
  rw [summaryCalls]
  cases sums with
  | nothing none =>
    rw [if_pos none]
    exact spends_nothing _
  | asked some asks =>
    rw [if_neg some]
    exact asks.spends

theorem Executes.spends {outcome : Except Error Findings}
    (executes : Executes pipeline request query postponed contacts outcome left) :
    ∃ reply, Spends postponed contacts left (pipeline.summaryCalls request reply.outcome)
      [(searchCall query, reply)] := by
  cases executes with
  | failed reply cause fails catches =>
    refine ⟨reply, ?_⟩
    rw [fails]
    exact (spends_search _ _ reply).join catches.spends
  | found reply response millis finds catches sums =>
    refine ⟨reply, ?_⟩
    rw [finds]
    exact (spends_search _ _ reply).join (catches.spends.join sums.spends)

end Spends

theorem spends_searches (postponed : List Reasoning.Call)
    (settled : List (Branch × Search.Reply)) :
    Spends postponed (searches settled) postponed []
      (settled.map fun (branch, reply) => (searchCall branch.query, reply)) := by
  induction settled with
  | nil => exact spends_nothing _
  | cons first rest ih => exact (spends_search _ _ _).join ih

def refusalCodes : List String := ["EMPTY_QUERY", "INVALID_INDEX", "INDEX_NOT_EXECUTABLE"]

/-- The outcome is a failure for a reason that is seen before anything is asked. -/
def FailsFast : Except Error α → Prop
  | .ok _ => False
  | .error error => error.code ∈ refusalCodes

theorem failsFast_map_iff {outcome : Except Error α} {change : α → β} :
    FailsFast (outcome.map change) ↔ FailsFast outcome := by
  cases outcome <;> rfl

theorem requestError?_code {cause : ValidationError} {execute : Bool}
    (flaw : pipeline.requestError? request execute = some cause) : cause.code ∈ refusalCodes := by
  have emptyQuery : ValidationError.emptyQuery.code ∈ refusalCodes := by decide
  have unknownIndex : ValidationError.unknownIndex.code ∈ refusalCodes := by decide
  have notExecutable : (ValidationError.notExecutable request.index).code ∈ refusalCodes :=
    List.mem_cons_of_mem _ (List.mem_cons_of_mem _ List.mem_cons_self)
  rw [requestError?] at flaw
  split at flaw
  · rwa [← Option.some.inj flaw]
  · split at flaw
    · rwa [← Option.some.inj flaw]
    · split at flaw
      · rwa [← Option.some.inj flaw]
      · cases flaw

theorem missingSchema_code (index : String) :
    (ValidationError.missingSchema index).code ∈ refusalCodes :=
  List.mem_cons_of_mem _ List.mem_cons_self

theorem refusal?_code {error : Error} (refusal : pipeline.refusal? request = some error) :
    error.code ∈ refusalCodes := by
  rw [refusal?] at refusal
  split at refusal
  · rename_i flaw
    rw [← Option.some.inj refusal]
    exact requestError?_code flaw
  · rw [← Option.some.inj refusal]
    exact missingSchema_code request.index
  · cases refusal

theorem refinementRefusal?_code {feedback : String} {error : Error}
    (refusal : pipeline.refinementRefusal? request feedback = some error) :
    error.code ∈ refusalCodes := by
  rw [refinementRefusal?] at refusal
  split at refusal
  · rename_i flaw
    rw [← Option.some.inj refusal]
    exact requestError?_code flaw
  · split at refusal
    · rw [← Option.some.inj refusal]
      exact List.mem_cons_self
    · split at refusal
      · rw [← Option.some.inj refusal]
        exact missingSchema_code request.index
      · cases refusal

theorem slow_verdict (pipeline : Pipeline) (request : Request) (schema : Schema)
    (intent : Intent) : ¬ FailsFast (pipeline.verdict request schema intent) := by
  dsimp only [verdict]
  split
  · split
    · exact (by decide : "SCHEMA_VALIDATION_FAILED" ∉ refusalCodes)
    · exact id
  · exact (by decide : "DSL_VALIDATION_FAILED" ∉ refusalCodes)

theorem slow_reasoning (cause : ReasoningError) :
    ¬ FailsFast (.error (.reasoning cause) : Except Error α) := by
  cases cause with
  | timeout => exact (by decide : "REASONING_TIMEOUT" ∉ refusalCodes)
  | rateLimited | api | emptyResponse | aborted =>
    exact (by decide : "REASONING_FAILED" ∉ refusalCodes)

theorem slow_execution (cause : ExecutionError) :
    ¬ FailsFast (.error (.execution cause) : Except Error α) :=
  (by decide : "EXECUTION_FAILED" ∉ refusalCodes)

theorem slow_response (pipeline : Pipeline) (request : Request) (schema : Schema)
    (elapsed : Nat) (heard : Except ReasoningError String) :
    ¬ FailsFast (pipeline.response request schema elapsed heard) := by
  cases heard with
  | ok answer =>
    rw [response]
    exact slow_verdict _ _ _ _
  | error cause => exact slow_reasoning cause

/-- The calls of the language model that compiling a question takes. -/
def CompileCalls (pipeline : Pipeline) (session : Session) (request : Request)
    (asks : List Reasoning.Call) : Prop :=
  match session.recalled? (pipeline.key request) with
  | some _ => asks = []
  | none => ∃ schema, asks = [pipeline.intentCall request schema session.elapsed]

theorem compileCalls_of_recalled {intent : Intent}
    (recalled : before.recalled? (pipeline.key request) = some intent) :
    pipeline.CompileCalls before request [] := by
  simp only [CompileCalls, recalled]

theorem compileCalls_of_missed (missed : before.recalled? (pipeline.key request) = none)
    (schema : Schema) :
    pipeline.CompileCalls before request [pipeline.intentCall request schema before.elapsed] := by
  simp only [CompileCalls, missed]
  exact ⟨schema, rfl⟩

/-- The calls that answering a question takes, of which the first compile it. -/
def AnswerCalls (pipeline : Pipeline) (session : Session) (request : Request)
    (contacts : List Contact) (asks : List Reasoning.Call)
    (searched : List (Search.Call × Search.Reply)) : Prop :=
  ∃ first second compiled between early late, contacts = first ++ second ∧
    Runs (pipeline.compile request) session first compiled between ∧
    asks = early ++ late ∧ pipeline.CompileCalls session request early ∧
    match compiled with
    | .ok query => ∃ reply, searched = [(searchCall query, reply)] ∧
        late = pipeline.summaryCalls request reply.outcome
    | .error _ => searched = [] ∧ late = []

/-- The calls that a task takes which is not refused at once. -/
def Budget (pipeline : Pipeline) (session : Session) (contacts : List Contact) :
    Task → List Reasoning.Call → List (Search.Call × Search.Reply) → Prop
  | .compile request, asks, searched =>
    searched = [] ∧ pipeline.CompileCalls session request asks
  | .answer request, asks, searched =>
    pipeline.AnswerCalls session { request with execute := true } contacts asks searched
  | .refine request feedback earlier, asks, searched => searched = [] ∧
      ∃ schema, asks = [pipeline.refinementCall request feedback earlier schema session.elapsed]
  | .execute query, asks, searched => asks = [] ∧
      match pipeline.executionError? query with
      | some _ => searched = []
      | none => ∃ reply, searched = [(searchCall query, reply)]
  | .executeAll branches, asks, searched => asks = [] ∧
      match pipeline.branchesError? branches with
      | some _ => searched = []
      | none => ∃ settled : List (Branch × Search.Reply), settled.map (·.1) <+: branches ∧
          searched = settled.map fun (branch, reply) => (searchCall branch.query, reply)
  | .summarize request response, asks, searched =>
    searched = [] ∧ asks = pipeline.summaryCalls request (.ok response)
  | .advance _, asks, searched => searched = [] ∧ asks = []

/-- An operation that is refused does nothing in any session, and any other keeps to its budget. -/
inductive Charges (operation : Operation α)
    (budget : List Reasoning.Call → List (Search.Call × Search.Reply) → Prop) (before : Session) :
    List Contact → Except Error α → Session → Prop where
  | refused {outcome : Except Error α} {after : Session} (fast : FailsFast outcome)
      (nothing : Immediate operation outcome) :
      Charges operation budget before [] outcome after
  | spent {contacts : List Contact} {outcome : Except Error α} {after : Session}
      {asks : List Reasoning.Call} {searched : List (Search.Call × Search.Reply)}
      (slow : ¬ FailsFast outcome) (keeps : budget asks searched)
      (spends : Spends before.postponed contacts after.postponed asks searched) :
      Charges operation budget before contacts outcome after

/-- A task is refused and does nothing, or its calls are those of its budget. -/
abbrev WithinBudget (pipeline : Pipeline) (task : Task) (before : Session)
    (contacts : List Contact) (outcome : Except Error Result) (after : Session) : Prop :=
  Charges (pipeline.perform task) (pipeline.Budget before contacts task) before contacts outcome
    after

section Charges

variable {operation : Operation α} {outcome : Except Error α}
  {budget : List Reasoning.Call → List (Search.Call × Search.Reply) → Prop}

theorem Charges.map (charges : Charges operation budget before contacts outcome after)
    (change : α → β) :
    Charges (change <$> operation) budget before contacts (outcome.map change) after := by
  cases charges with
  | refused fast nothing => exact .refused (failsFast_map_iff.mpr fast) (nothing.map change)
  | spent slow keeps spends => exact .spent (mt failsFast_map_iff.mp slow) keeps spends

theorem Operation.Immediate.charges {error : Error}
    (refused : Immediate operation (.error error)) (free : budget [] [])
    (runs : Runs operation before contacts outcome after) :
    Charges operation budget before contacts outcome after := by
  obtain ⟨rfl, rfl, alike⟩ := refused.runs runs
  by_cases fast : error.code ∈ refusalCodes
  · exact .refused fast refused
  · refine .spent fast free ?_
    rw [alike.postponed]
    exact spends_nothing _

end Charges

theorem charges_compile {outcome : Except Error GeneratedQuery}
    (runs : Runs (pipeline.compile request) before contacts outcome after) :
    Charges (pipeline.compile request) (pipeline.Budget before contacts (.compile request)) before
      contacts outcome after := by
  rcases Operation.compile_cases runs with ⟨error, refusal, rfl, rfl, -⟩ |
      ⟨schema, -, ⟨intent, recalled, rfl, rfl, alike⟩ | ⟨missed, heard, asks, rfl, -⟩⟩
  · exact .refused (refusal?_code refusal) (Operation.immediate_compile refusal)
  · refine .spent (slow_verdict _ _ _ _) ⟨rfl, compileCalls_of_recalled recalled⟩ ?_
    rw [alike.postponed]
    exact spends_nothing _
  · exact .spent (slow_response _ _ _ _ _) ⟨rfl, compileCalls_of_missed missed schema⟩ asks.spends

theorem charges_answer {outcome : Except Error Answer}
    (runs : Runs (pipeline.answer request) before contacts outcome after) :
    Charges (pipeline.answer request) (pipeline.Budget before contacts (.answer request)) before
      contacts outcome after := by
  obtain ⟨first, compiled, between, compiles, ends⟩ := Operation.answer_cases runs
  cases charges_compile compiles with
  | refused fast refused =>
    rcases ends with ⟨error, rfl, rfl, rfl, -⟩ | ⟨query, _, _, rfl, -⟩
    · exact .refused fast refused.fail_reading
    · cases fast
  | @spent _ _ _ early searched slow keeps spends =>
    obtain ⟨rfl, budget⟩ := keeps
    rcases ends with ⟨error, rfl, rfl, rfl, rfl⟩ |
        ⟨query, second, executed, rfl, rfl, executes, gives⟩
    · refine .spent slow ?_ spends
      exact ⟨_, [], _, _, early, [], (List.append_nil _).symm, compiles,
        (List.append_nil _).symm, budget, rfl, rfl⟩
    · obtain ⟨reply, searches⟩ := executes.spends
      have slowly : ¬ FailsFast outcome := by
        rcases gives with ⟨error, rfl, rfl⟩ | ⟨findings, millis, rfl, rfl⟩
        · cases executes with
          | failed reply cause => exact slow_execution cause
        · exact id
      refine .spent slowly ?_ (spends.join searches)
      exact ⟨first, second, _, between, early, _, rfl, compiles, rfl, budget, reply, rfl, rfl⟩

theorem charges_refine {feedback : String} {earlier : GeneratedQuery}
    {outcome : Except Error GeneratedQuery}
    (runs : Runs (pipeline.refine request feedback earlier) before contacts outcome after) :
    Charges (pipeline.refine request feedback earlier)
      (pipeline.Budget before contacts (.refine request feedback earlier)) before contacts outcome
      after := by
  rcases Operation.refine_cases runs with ⟨error, refusal, rfl, rfl, -⟩ |
      ⟨schema, heard, -, -, asks, rfl, -⟩
  · exact .refused (refinementRefusal?_code refusal) (Operation.immediate_refine refusal)
  · exact .spent (slow_response _ _ _ _ _) ⟨rfl, schema, rfl⟩ asks.spends

theorem charges_execute {outcome : Except Error Search.Response}
    (runs : Runs (pipeline.execute query) before contacts outcome after) :
    Charges (pipeline.execute query) (pipeline.Budget before contacts (.execute query)) before
      contacts outcome after := by
  cases admitted : pipeline.executionError? query with
  | some cause =>
    refine (Operation.immediate_startExecution admitted).fail.charges ⟨rfl, ?_⟩ runs
    rw [admitted]
  | none =>
    obtain ⟨reply, begun, rfl, catches, rfl⟩ := Operation.runs_execute admitted runs
    refine .spent ?_ ⟨rfl, ?_⟩ ((spends_search _ _ reply).join catches.spends)
    · cases reply.outcome with
      | ok response => exact id
      | error cause => exact slow_execution cause
    · rw [admitted]
      exact ⟨reply, rfl⟩

theorem charges_executeAll {branches : List Branch}
    {outcome : Except Error (List BranchFindings)}
    (runs : Runs (pipeline.executeAll branches) before contacts outcome after) :
    Charges (pipeline.executeAll branches)
      (pipeline.Budget before contacts (.executeAll branches)) before contacts outcome after := by
  cases admitted : pipeline.branchesError? branches with
  | some cause =>
    refine (Operation.immediate_executeAll admitted).charges ⟨rfl, ?_⟩ runs
    rw [admitted]
  | none =>
    obtain ⟨settled, begun, rfl, catches, listed, ends⟩ := Operation.runs_executeAll admitted runs
    refine .spent ?_ ⟨rfl, ?_⟩ ((spends_searches _ settled).join catches.spends)
    · rcases ends with ⟨-, findings, rfl, -⟩ | ⟨cause, -, rfl⟩
      · exact id
      · exact slow_execution cause
    · rw [admitted, List.append_nil]
      exact ⟨settled, listed, rfl⟩

theorem perform_within_budget {task : Task} {outcome : Except Error Result}
    (runs : Runs (pipeline.perform task) before contacts outcome after) :
    pipeline.WithinBudget task before contacts outcome after := by
  cases task with
  | compile request =>
    obtain ⟨compiled, rfl, compiles⟩ := Operation.runs_map_iff.mp runs
    exact (charges_compile compiles).map _
  | answer request =>
    obtain ⟨answered, rfl, answers⟩ := Operation.runs_map_iff.mp runs
    exact (charges_answer answers).map _
  | refine request feedback earlier =>
    obtain ⟨refined, rfl, refines⟩ := Operation.runs_map_iff.mp runs
    exact (charges_refine refines).map _
  | execute query =>
    obtain ⟨executed, rfl, executes⟩ := Operation.runs_map_iff.mp runs
    exact (charges_execute executes).map _
  | executeAll branches =>
    obtain ⟨executed, rfl, executes⟩ := Operation.runs_map_iff.mp runs
    exact (charges_executeAll executes).map _
  | summarize request response =>
    obtain ⟨_, rfl, lifts⟩ := Operation.runs_map_iff.mp runs
    obtain ⟨summary, rfl, sums⟩ := Operation.runs_lift_iff.mp lifts
    exact .spent id ⟨rfl, rfl⟩ (Activity.runs_summarize sums).spends
  | advance millis =>
    obtain ⟨rfl, same⟩ := Plan.runs_done_iff.mp runs
    obtain ⟨rfl, rfl⟩ := Prod.mk.inj same
    exact .spent id ⟨rfl, rfl⟩ (spends_nothing _)

/-- The tasks of a session, each within its budget. -/
inductive Budgeted (pipeline : Pipeline) :
    List Task → Session → List Contact → List (Except Error Result) → Session → Prop where
  | nil (session : Session) : Budgeted pipeline [] session [] [] session
  | cons {task : Task} {tasks : List Task} {before between after : Session}
      {first second : List Contact} {outcome : Except Error Result}
      {outcomes : List (Except Error Result)}
      (within : pipeline.WithinBudget task before first outcome between)
      (rest : Budgeted pipeline tasks between second outcomes after) :
      Budgeted pipeline (task :: tasks) before (first ++ second) (outcome :: outcomes) after

/-- Whatever tasks are carried out from whatever session, and whatever is replied to their calls,
each of them keeps to its budget. So a call that fails or comes too late is not made again. -/
theorem session_within_budget {tasks : List Task} {outcomes : List (Except Error Result)}
    (runs : Activity.Runs (pipeline.performAll tasks) before contacts outcomes after) :
    pipeline.Budgeted tasks before contacts outcomes after := by
  induction tasks generalizing before contacts outcomes with
  | nil =>
    obtain ⟨rfl, rfl, rfl⟩ := Activity.runs_pure_iff.mp runs
    exact .nil after
  | cons task rest ih =>
    obtain ⟨first, _, outcome, between, rfl, performs, going⟩ := Activity.runs_bind_iff.mp runs
    obtain ⟨second, _, others, _, rfl, performsRest, gives⟩ := Activity.runs_bind_iff.mp going
    obtain ⟨rfl, rfl, rfl⟩ := Activity.runs_pure_iff.mp gives
    rw [List.append_nil]
    exact .cons (perform_within_budget performs) (ih performsRest)

private def budgetedTasks : List Task :=
  [.answer (.ask "all mail" "communications"), .compile (.ask "all mail" "communications"),
    .answer (.ask "all posts" "social"), .compile (.ask " " "communications")]

theorem mail_session_within_budget :
    ∃ contacts outcomes after,
      Activity.Runs
        (Pipeline.performAll ⟨.default, Schema.builtIn, .origin⟩ budgetedTasks) (.fresh true)
        contacts outcomes after ∧
      Budgeted ⟨.default, Schema.builtIn, .origin⟩ budgetedTasks (.fresh true) contacts outcomes
        after := by
  obtain ⟨contacts, outcomes, after, runs, -⟩ := Activity.exists_runs
    (Pipeline.performAll ⟨.default, Schema.builtIn, .origin⟩ budgetedTasks) (.fresh true)
    (fun _ => ⟨20, .ok "\x7b\x7d"⟩) fun _ => ⟨30, .ok ⟨2, [], none⟩⟩
  exact ⟨contacts, outcomes, after, runs, session_within_budget runs⟩

end AnalystQuery.Pipeline
