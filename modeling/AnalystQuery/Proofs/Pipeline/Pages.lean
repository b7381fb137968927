import AnalystQuery.Proofs.Pipeline.Branches
import AnalystQuery.Proofs.Query.Computations
import AnalystQuery.Proofs.Search.Posted

/-! The sizes of pages that are asked for. What is compiled keeps to the limit of the settings,
groups included. A query that is handed in is searched for with the size that it states, so that a
session keeps to the limit exactly if the queries do that are handed in. -/

namespace AnalystQuery

/-- A call that states a size states one within the limit. -/
def Search.Call.Within (limit : Nat) : Search.Call → Prop
  | .plain _ _ options => ∀ size ∈ options.size, size ≤ limit
  | .aggregate .. => True

namespace Pipeline

open Operation (Runs Ensures Confined compile_cases)

variable {α β : Type} {pipeline : Pipeline} {request : Request} {query : GeneratedQuery}
  {call : Search.Call} {limit : Nat}

theorem Plan.Issues.andThen {plan : Plan α} (issues : plan.Issues call)
    (continuation : α → Plan β) : (plan.andThen continuation).Issues call := by
  induction issues with
  | now call next => exact .now call _
  | afterAsk asked next reply later ih => exact .afterAsk asked _ reply ih
  | afterSearch searched next reply later ih => exact .afterSearch searched _ reply ih

theorem Plan.Runs.issues_andThen {plan : Plan α} {contacts : List Contact} {value : α}
    {continuation : α → Plan β} (runs : plan.Runs contacts value)
    (issues : (continuation value).Issues call) : (plan.andThen continuation).Issues call := by
  induction runs with
  | done value => exact issues
  | ask asked next reply later ih => exact .afterAsk asked _ reply (ih issues)
  | search searched next reply later ih => exact .afterSearch searched _ reply (ih issues)

/-- What holds of every value that a plan gives may be required of it. -/
theorem Plan.Ensures.of_runs {permitted : Search.Call → Prop} {post : α → Prop} {plan : Plan α}
    (ensures : plan.Ensures permitted fun _ => True)
    (holds : ∀ contacts value, plan.Runs contacts value → post value) :
    plan.Ensures permitted post := by
  induction plan with
  | done value => exact holds [] value (.done value)
  | ask call next ih =>
    exact fun reply => ih reply (ensures reply) fun _ _ runs =>
      holds _ _ (.ask call next reply runs)
  | search call next ih =>
    exact ⟨ensures.1, fun reply => ih reply (ensures.2 reply) fun _ _ runs =>
      holds _ _ (.search call next reply runs)⟩

namespace Operation

theorem ensures_of_runs {permitted : Search.Call → Prop} {post : α → Prop}
    {operation : Operation α} (confined : Confined permitted operation)
    (holds : ∀ before contacts value after,
      operation.Runs before contacts (.ok value) after → post value) :
    Ensures permitted operation post := by
  refine ⟨fun session => Plan.Ensures.of_runs ?_ ?_⟩
  · exact (confined.inSession session).mono fun _ _ => True.intro
  · rintro contacts ⟨outcome, after⟩ runs value rfl
    exact holds session contacts value after runs

end Operation

def sizes (pipeline : Pipeline) : Query.Sizes :=
  ⟨pipeline.settings.pipeline.defaultSize, pipeline.settings.pipeline.maxSize⟩

theorem within_searchCall (bounded : ∀ size ∈ query.size?, size ≤ limit) :
    (searchCall query).Within limit := by
  unfold searchCall
  split
  · exact True.intro
  · exact bounded

theorem within_compile (sizes : Query.Sizes) (index : String) (schema : Schema) (intent : Intent) :
    (searchCall (Query.compile sizes index schema intent)).Within sizes.max := by
  refine within_searchCall fun size stated => ?_
  rw [Query.size?_compile] at stated
  obtain rfl := Option.some.inj stated
  exact Nat.min_le_right _ _

theorem compiled_of_runs {before after : Session} {contacts : List Contact}
    (runs : Runs (pipeline.compile request) before contacts (.ok query) after) :
    ∃ schema intent, query = Query.compile pipeline.sizes request.index schema intent := by
  rcases compile_cases runs with ⟨error, -, -, same, -⟩ |
      ⟨schema, accepts, ⟨intent, -, -, given, -⟩ | ⟨-, heard, -, given, -⟩⟩
  · cases same
  · exact ⟨schema, intent, eq_compile_of_verdict given.symm⟩
  · cases heard with
    | ok answer =>
      rw [response] at given
      exact ⟨schema, _, eq_compile_of_verdict given.symm⟩
    | error cause => cases given

section Groups

variable {sizes : Query.Sizes} {schema : Schema} {intent : Intent}

theorem groups_within {entry : String × Json} {terms : Json}
    (member : entry ∈ Query.entriesUnder "aggs" (Query.compile sizes index schema intent).envelope)
    (grouping : entry.2.get? "terms" = some terms) :
    ∃ groups ≤ sizes.max, terms.get? "size" = some (.natural groups) := by
  rw [Query.compile_envelope, Query.Envelope.entriesUnder_aggs,
    Query.mem_aggregation_block] at member
  obtain ⟨computation, lasts, rfl⟩ := member
  obtain ⟨aggregation, -, supported⟩ := Query.supported_of_mem_computations lasts.mem
  have fits := Query.fits_of_measure? supported
  have other (name : String) (body : Json) (apart : name ≠ "terms") :
      (Query.single name body).get? "terms" ≠ some terms := by
    simp [Query.single, Json.get?, Json.lookup, apart]
  cases measured : computation.measure with
  | terms field groups =>
    rw [measured] at supported grouping
    cases grouping
    exact ⟨groups, Query.groups_of_measure? supported, rfl⟩
  | metric kind field =>
    have computing : kind ∈ Query.metricKinds := fits.metric_kind kind field measured
    have apart : ∀ kind ∈ Query.metricKinds, kind.name ≠ "terms" := by decide
    rw [measured] at grouping
    exact absurd grouping (other _ _ (apart kind computing))
  | documentCount | valueCount | dateHistogram =>
    rw [measured] at grouping
    exact absurd grouping (other _ _ (by decide))
  | percentiles field percents =>
    rw [measured] at grouping
    cases percents <;> exact absurd grouping (other _ _ (by decide))

end Groups

/-- The queries that a task brings along and searches for. -/
inductive Brings (pipeline : Pipeline) : Task → GeneratedQuery → Prop where
  | alone {query : GeneratedQuery} (executable : pipeline.Executable query) :
      Brings pipeline (.execute query) query
  | together {branches : List Branch} {branch : Branch}
      (executable : ∀ branch ∈ branches, pipeline.Executable branch.query)
      (member : branch ∈ branches) : Brings pipeline (.executeAll branches) branch.query

namespace Operation

variable {permitted : Search.Call → Prop}

theorem confined_execute (admits : pipeline.Executable query → permitted (searchCall query)) :
    Confined permitted (pipeline.execute query) :=
  ensures_bind (ensures_startExecution pipeline query admits) fun reply _ =>
    (waiting_confined pipeline permitted).settle reply

theorem ensures_checkAll (branches : List Branch) :
    Ensures permitted (branches.forM fun branch => pipeline.checkExecutable branch.query) fun _ =>
      ∀ branch ∈ branches, pipeline.Executable branch.query := by
  induction branches with
  | nil => exact ensures_pure (List.forall_mem_nil _)
  | cons branch rest ih =>
    refine ensures_bind (ensures_checkExecutable pipeline branch.query) fun _ executable => ?_
    exact ih.mono fun _ others => List.forall_mem_cons.mpr ⟨executable, others⟩

theorem confined_executeAll {branches : List Branch}
    (admits : (∀ branch ∈ branches, pipeline.Executable branch.query) →
      ∀ branch ∈ branches, permitted (searchCall branch.query)) :
    Confined permitted (pipeline.executeAll branches) := by
  have waiting := waiting_confined pipeline permitted
  refine ensures_bind (ensures_checkAll branches) fun _ executable => ?_
  have starts : ∀ branch ∈ branches, Confined permitted (pipeline.startExecution branch.query) :=
    fun branch member => ensures_startExecution pipeline branch.query fun _ =>
      admits executable branch member
  exact (waiting.toClosed.startBranches starts _ _).bind fun settled => waiting.settleAll _ settled

theorem confined_answer (request : Request)
    (admits : ∀ schema intent,
      permitted (searchCall (Query.compile pipeline.sizes request.index schema intent))) :
    Confined permitted (pipeline.answer request) := by
  have closed := (waiting_confined pipeline permitted).toClosed
  refine closed.bind closed.session fun _ => ?_
  have compiles := ensures_of_runs
    ((compiling_confined pipeline permitted).compile { request with execute := true })
    fun _ _ _ _ => compiled_of_runs
  refine ensures_bind compiles fun query compiled => ?_
  obtain ⟨schema, intent, rfl⟩ := compiled
  have executes : Confined permitted
      (pipeline.execute (Query.compile pipeline.sizes request.index schema intent)) :=
    confined_execute fun _ => admits schema intent
  have runs : Confined permitted (pipeline.run { request with execute := true } _) :=
    closed.run _ _ executes fun response =>
      (quiet_lift (Activity.quiet_summarize pipeline _ response)).confined
  refine closed.bind (closed.recordingFailure runs) fun _ => ?_
  exact closed.bind (closed.enter _) fun _ => closed.bind closed.session fun _ => closed.pure _

theorem confined_task (task : Task)
    (compiled : ∀ index schema intent,
      permitted (searchCall (Query.compile pipeline.sizes index schema intent)))
    (brought : ∀ query, Brings pipeline task query → permitted (searchCall query)) :
    Confined permitted (pipeline.perform task) := by
  have compiling := compiling_confined pipeline permitted
  have map {γ : Type} {operation : Operation γ} (change : γ → Result)
      (confined : Confined permitted operation) : Confined permitted (change <$> operation) :=
    ensures_map change confined fun _ _ => True.intro
  cases task with
  | compile request => exact map _ (compiling.compile request)
  | answer request => exact map _ (confined_answer request (compiled request.index))
  | refine request feedback earlier => exact map _ (compiling.refine request feedback earlier)
  | execute query =>
    exact map _ (confined_execute fun executable => brought query (.alone executable))
  | executeAll branches =>
    exact map _ (confined_executeAll fun executable branch member =>
      brought branch.query (.together executable member))
  | summarize request response =>
    exact map _ (quiet_lift (Activity.quiet_summarize pipeline request response)).confined
  | advance millis =>
    exact ensures_bind (ensures_lift (Activity.ensures_modify _)) fun _ _ => ensures_pure True.intro

theorem executionError?_of_executable (executable : pipeline.Executable query) :
    pipeline.executionError? query = none := by
  rw [executionError?, if_pos executable.executes, securityError?, executable.secure]
  rfl

theorem runs_started (executable : pipeline.Executable query) (before : Session)
    (reply : Search.Reply) :
    ∃ contacts after, Runs (pipeline.startExecution query) before contacts (.ok reply) after := by
  obtain ⟨contacts, outcome, after, runs, follow⟩ :=
    exists_runs (pipeline.startExecution query) before (fun _ => ⟨0, .ok ""⟩) fun _ => reply
  obtain ⟨given, rfl, rfl, -⟩ :=
    runs_startExecution (executionError?_of_executable executable) runs
  obtain rfl : given = reply := follow _ List.mem_cons_self
  exact ⟨_, after, runs⟩

theorem issues_startExecution (executable : pipeline.Executable query) (session : Session) :
    ((pipeline.startExecution query).run.run session).Issues (searchCall query) := by
  obtain ⟨checked, passed⟩ := checkExecutable_run executable session
  change Plan.Issues (Plan.andThen ((pipeline.checkExecutable query).run.run session) _) _
  rw [passed]
  exact .now _ _

theorem issues_startBranches {branches : List Branch} {branch : Branch}
    (executable : ∀ branch ∈ branches, pipeline.Executable branch.query)
    (member : branch ∈ branches) (inOrder underWay : Bool) (session : Session) :
    ((pipeline.startBranches inOrder underWay branches).run.run session).Issues
      (searchCall branch.query) := by
  induction branches generalizing underWay session with
  | nil => cases member
  | cons first rest ih =>
    obtain ⟨here, others⟩ := List.forall_mem_cons.mp executable
    rcases List.mem_cons.mp member with rfl | later
    · exact (issues_startExecution here session).andThen _
    -- The branch is reached when the calls of those in front of it do not fail.
    · obtain ⟨contacts, between, runs⟩ := runs_started here session ⟨0, .ok ⟨0, [], none⟩⟩
      exact runs.issues_andThen ((ih others later _ _).andThen _)

theorem issues_executeAll {branches : List Branch} {branch : Branch}
    (executable : ∀ branch ∈ branches, pipeline.Executable branch.query)
    (member : branch ∈ branches) (session : Session) :
    ((pipeline.executeAll branches).run.run session).Issues (searchCall branch.query) := by
  have checks := immediate_checkAll pipeline branches
  have flawless : pipeline.branchesError? branches = none :=
    List.findSome?_eq_none_iff.mpr fun branch member =>
      executionError?_of_executable (executable branch member)
  rw [flawless] at checks
  obtain ⟨events, passed⟩ := checks
  change Plan.Issues (Plan.andThen ((branches.forM fun branch =>
    pipeline.checkExecutable branch.query).run.run session) _) _
  rw [passed]
  exact (issues_startBranches executable member _ _ _).andThen _

end Operation

theorem Brings.issues {task : Task} (brings : Brings pipeline task query) (session : Session) :
    ((pipeline.perform task).run.run session).Issues (searchCall query) := by
  cases brings with
  | alone executable => exact ((issues_execute_iff executable).mpr rfl).andThen _
  | together executable member =>
    exact (Operation.issues_executeAll executable member session).andThen _

theorem Activity.issues_performAll {tasks : List Task} {task : Task} (member : task ∈ tasks)
    (issues : ∀ session, ((pipeline.perform task).run.run session).Issues call)
    (session : Session) : ((pipeline.performAll tasks).run session).Issues call := by
  induction tasks generalizing session with
  | nil => cases member
  | cons first rest ih =>
    rcases List.mem_cons.mp member with rfl | later
    · exact (issues session).andThen _
    · obtain ⟨contacts, outcome, after, runs, -⟩ := Operation.exists_runs (pipeline.perform first)
        session (fun _ => ⟨0, .ok ""⟩) fun _ => ⟨0, .ok ⟨0, [], none⟩⟩
      exact Plan.Runs.issues_andThen runs ((ih later after).andThen _)

/-- Every call of a session keeps to the limit of pages if and only if the queries do that are
handed in and searched for. What is compiled always does, and never asks for more groups. -/
theorem pages_within_limit_iff (pipeline : Pipeline) (tasks : List Task) (session : Session) :
    ((∀ call, ((pipeline.performAll tasks).run session).Issues call →
        call.Within pipeline.settings.pipeline.maxSize) ↔
      ∀ task ∈ tasks, ∀ query, Brings pipeline task query →
        (searchCall query).Within pipeline.settings.pipeline.maxSize) ∧
    ∀ index schema intent,
      ∀ entry ∈ Query.entriesUnder "aggs"
        (Query.compile pipeline.sizes index schema intent).envelope,
      ∀ terms, entry.2.get? "terms" = some terms →
        ∃ groups ≤ pipeline.settings.pipeline.maxSize,
          terms.get? "size" = some (.natural groups) := by
  refine ⟨⟨fun bounded task member query brings => ?_, fun bounded call issues => ?_⟩,
    fun index schema intent entry member terms => groups_within member⟩
  · exact bounded _ (Activity.issues_performAll member brings.issues session)
  · have confined : ∀ task ∈ tasks,
        Confined (Search.Call.Within pipeline.settings.pipeline.maxSize) (pipeline.perform task) :=
      fun task member => Operation.confined_task task (within_compile pipeline.sizes)
        (bounded task member)
    exact ((Activity.ensures_tasks confined).inSession session).permitted_of_issues issues

private def largePage : GeneratedQuery :=
  { index := "communications"
    envelope := .object [("query", .object [("match_all", .object [])]), ("size", .natural 100000)]
    explanation := ""
    intent := .plain .search .zero }

/-- A query that comes from elsewhere is searched for with any size. -/
theorem large_page_searched :
    ¬ ∀ (pipeline : Pipeline) (tasks : List Task) (session : Session) (call : Search.Call),
      pipeline.settings.error? = none → ((pipeline.performAll tasks).run session).Issues call →
        call.Within pipeline.settings.pipeline.maxSize := by
  intro always
  have issues : (((Pipeline.mk .default [] .origin).performAll [.execute largePage]).run
      (.fresh true)).Issues (searchCall largePage) := .now _ _
  have within := always _ _ _ _ (by decide) issues
  have small : 100000 ≤ 100 := within 100000 rfl
  omega

end Pipeline

end AnalystQuery
