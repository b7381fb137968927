import AnalystQuery.Proofs.Pipeline.CacheHits
import AnalystQuery.Proofs.Pipeline.Relisting
import AnalystQuery.Proofs.Query.CompiledInspection

/-! What a session tells about the lists of the settings: of each index that a task names, and of
each top-level key of a query that is inspected, whether it is listed. Lists that agree on these
give the same session, down to every text that is sent or returned. -/

namespace AnalystQuery.Pipeline

open Operation (Runs)

variable {pipeline : Pipeline} {lists : Listing} {request : Request} {schema : Schema}
  {query : GeneratedQuery} {before after : Session} {contacts : List Contact}

/-- The queries into which a question is compiled, whether they pass or not. -/
inductive CompilesTo (pipeline : Pipeline) (request : Request) (before : Session) :
    List Contact → GeneratedQuery → Prop where
  | resolved {schema : Schema} {start between : Session} {first rest : List Contact}
      {intent : Intent} (accepts : pipeline.Accepts request schema) (alike : Alike before start)
      (resolves : Runs (pipeline.resolveIntent request schema
        (pipeline.moment request before.elapsed)) start first (.ok intent) between) :
      CompilesTo pipeline request before (first ++ rest)
        (Query.compile pipeline.sizes request.index schema intent)

/-- The queries into which a question is compiled anew. -/
inductive RefinesTo (pipeline : Pipeline) (request : Request) (feedback : String)
    (earlier : GeneratedQuery) (before : Session) : List Contact → GeneratedQuery → Prop where
  | answered {schema : Schema} {start between : Session} {first rest : List Contact}
      {answer : String} (flawless : pipeline.requestError? request false = none)
      (words : Text.trim feedback ≠ "") (described : pipeline.schema? request.index = some schema)
      (alike : Alike before start)
      (answers : Runs (pipeline.reason request (Prompt.refinement request feedback earlier schema
        (pipeline.moment request before.elapsed).render)) start first (.ok answer) between) :
      RefinesTo pipeline request feedback earlier before (first ++ rest)
        (Query.compile pipeline.sizes request.index schema
          (pipeline.reading request before.elapsed answer).intent)

/-- The queries whose envelopes a task inspects when it is carried out with these contacts. -/
inductive Inspects (pipeline : Pipeline) (before : Session) (contacts : List Contact) :
    Task → GeneratedQuery → Prop where
  | compiled {task : Task} {request : Request} {query : GeneratedQuery}
      (asks : task.compiled? = some request)
      (compiles : CompilesTo pipeline request before contacts query) :
      Inspects pipeline before contacts task query
  | refined {request : Request} {feedback : String} {earlier query : GeneratedQuery}
      (refines : RefinesTo pipeline request feedback earlier before contacts query) :
      Inspects pipeline before contacts (.refine request feedback earlier) query
  | executed {query : GeneratedQuery}
      (executes : pipeline.settings.pipeline.executes query.index = true) :
      Inspects pipeline before contacts (.execute query) query
  | batched {branches : List Branch} {query : GeneratedQuery}
      (reaches : pipeline.Reaches branches query) :
      Inspects pipeline before contacts (.executeAll branches) query

def Task.indexes : Task → List String
  | .compile request => [request.index]
  | .answer request => [request.index]
  | .refine request _ _ => [request.index]
  | .execute query => [query.index]
  | .executeAll branches => branches.map (·.query.index)
  | .summarize _ _ => []
  | .advance _ => []

theorem CompilesTo.append (compiles : CompilesTo pipeline request before contacts query)
    (more : List Contact) : CompilesTo pipeline request before (contacts ++ more) query := by
  obtain ⟨accepts, alike, resolves⟩ := compiles
  rw [List.append_assoc]
  exact .resolved accepts alike resolves

theorem CompilesTo.index (compiles : CompilesTo pipeline request before contacts query) :
    query.index = request.index := by
  obtain ⟨-, -, -⟩ := compiles
  rfl

theorem CompilesTo.sameKeys (compiles : CompilesTo pipeline request before contacts query)
    (own : Query.defaultTopLevelKeys ⊆ pipeline.settings.pipeline.topLevelKeys)
    (others : Query.defaultTopLevelKeys ⊆ lists.keys) : lists.SameKeys pipeline query := by
  obtain ⟨-, -, -⟩ := compiles
  intro key member
  rw [Query.compile_envelope] at member
  obtain ⟨entries, encoded, top⟩ := Query.Envelope.top_keys _
  rw [encoded] at member
  obtain ⟨entry, inside, rfl⟩ := List.mem_map.mp member
  exact iff_of_true (others (top entry inside)) (own (top entry inside))

namespace Operation

theorem schema?_of_found {index : String}
    (found : (match pipeline.schema? index with
      | some schema => Except.ok schema
      | none => .error (.validation (.missingSchema index)) : Except Error Schema) = .ok schema) :
    pipeline.schema? index = some schema := by
  split at found
  · rename_i given
    rw [given, Except.ok.inj found]
  · cases found

-- Only the checks look at the lists.
theorem compileChecked_relisted :
    (pipeline.relisted lists).compileChecked request = (do
      enter .validating
      (pipeline.relisted lists).checkRequest request request.execute
      let schema ← pipeline.requireSchema request.index
      let now ← pipeline.present request.timezone
      let intent ← pipeline.resolveIntent request schema now
      (pipeline.relisted lists).compileIntent request schema intent) := rfl

theorem runs_compileChecked_relisted {outcome : Except Error GeneratedQuery} {start : Session}
    (alike : Alike start before) (same : lists.SameIndex pipeline request.index)
    (keys : ∀ query, CompilesTo pipeline request start contacts query →
      lists.SameKeys pipeline query)
    (runs : Runs (pipeline.compileChecked request) before contacts outcome after) :
    Runs ((pipeline.relisted lists).compileChecked request) before contacts outcome after := by
  rw [compileChecked_relisted, checkRequest_relisted same]
  apply runs_enter_bind_iff.mpr
  refine (immediate_checkRequest pipeline request request.execute).exchange
    (runs_enter_bind_iff.mp runs) fun _ checked passed early describing => ?_
  refine (immediate_requireSchema pipeline request.index).exchange describing
    fun schema described found next presenting => ?_
  have entered := alike.trans (alike_noting before (.entered .validating))
  have reached := (entered.trans early).trans next
  -- No time has passed since the start, so the present is that of the inspected query.
  apply runs_present_bind_iff.mpr
  have resolving := runs_present_bind_iff.mp presenting
  rw [reached.elapsed] at resolving ⊢
  refine resolving.next_exchange fun first intent resolved rest split resolves compiles => ?_
  have accepts : pipeline.Accepts request schema :=
    ⟨eq_none_of_judgement passed, schema?_of_found found⟩
  have query : CompilesTo pipeline request start contacts
      (Query.compile pipeline.sizes request.index schema intent) := by
    rw [split]
    exact .resolved accepts reached resolves
  rw [compileIntent_relisted (keys _ query)]
  exact compiles

theorem runs_compile_relisted {outcome : Except Error GeneratedQuery}
    (same : lists.SameIndex pipeline request.index)
    (keys : ∀ query, CompilesTo pipeline request before contacts query →
      lists.SameKeys pipeline query)
    (runs : Runs (pipeline.compile request) before contacts outcome after) :
    Runs ((pipeline.relisted lists).compile request) before contacts outcome after := by
  refine runs_count_bind_iff.mpr ((runs_count_bind_iff.mp runs).recordingFailure_exchange ?_)
  refine fun result between timed => timed.timing_exchange fun ended checks => ?_
  exact runs_compileChecked_relisted (alike_noting before (.counted .compileRequests)) same keys
    checks

def refineAccepted (pipeline : Pipeline) (request : Request) (feedback : String)
    (earlier : GeneratedQuery) : Operation GeneratedQuery := do
  let schema ← pipeline.requireSchema request.index
  let now ← pipeline.present request.timezone
  enter .reasoning
  let answer ← pipeline.reason request
    (Prompt.refinement request feedback earlier schema now.render)
  enter .normalizing
  let intent ← pipeline.normalize now answer
  pipeline.compileIntent request schema intent

theorem refine_eq (pipeline : Pipeline) (request : Request) (feedback : String)
    (earlier : GeneratedQuery) :
    pipeline.refine request feedback earlier = recordingFailure (do
      enter .validating
      pipeline.checkRequest request false
      if Text.trim feedback = "" then
        reject .emptyQuery >>= fun (_ : Unit) => refineAccepted pipeline request feedback earlier
      else refineAccepted pipeline request feedback earlier) := rfl

theorem refineAccepted_relisted (feedback : String) (earlier : GeneratedQuery) :
    refineAccepted (pipeline.relisted lists) request feedback earlier = (do
      let schema ← pipeline.requireSchema request.index
      let now ← pipeline.present request.timezone
      enter .reasoning
      let answer ← pipeline.reason request
        (Prompt.refinement request feedback earlier schema now.render)
      enter .normalizing
      let intent ← pipeline.normalize now answer
      (pipeline.relisted lists).compileIntent request schema intent) := rfl

variable {feedback : String} {earlier : GeneratedQuery}

theorem runs_refineAccepted_relisted {outcome : Except Error GeneratedQuery} {start : Session}
    (alike : Alike start before) (flawless : pipeline.requestError? request false = none)
    (words : Text.trim feedback ≠ "")
    (keys : ∀ query, RefinesTo pipeline request feedback earlier start contacts query →
      lists.SameKeys pipeline query)
    (runs : Runs (refineAccepted pipeline request feedback earlier) before contacts outcome
      after) :
    Runs (refineAccepted (pipeline.relisted lists) request feedback earlier) before contacts
      outcome after := by
  rw [refineAccepted_relisted]
  refine (immediate_requireSchema pipeline request.index).exchange runs
    fun schema described found next presenting => ?_
  have reached := alike.trans next
  apply runs_present_bind_iff.mpr
  have reasoning := runs_present_bind_iff.mp presenting
  rw [reached.elapsed] at reasoning ⊢
  have begun := reached.trans (alike_noting described (.entered .reasoning))
  apply runs_enter_bind_iff.mpr
  refine (runs_enter_bind_iff.mp reasoning).next_exchange
    fun first answer answered rest split answers normalizing => ?_
  apply runs_enter_bind_iff.mpr
  obtain ⟨silent, second, intent, normalized, rfl, normalizes, compiles⟩ :=
    runs_lift_bind_iff.mp (runs_enter_bind_iff.mp normalizing)
  obtain ⟨rfl, rfl, -⟩ := Activity.runs_normalize normalizes
  have query : RefinesTo pipeline request feedback earlier start contacts
      (Query.compile pipeline.sizes request.index schema
        (pipeline.reading request start.elapsed answer).intent) := by
    rw [split]
    exact .answered flawless words (schema?_of_found found) begun answers
  refine runs_lift_bind_iff.mpr ⟨[], second, _, normalized, rfl, normalizes, ?_⟩
  rw [compileIntent_relisted (keys _ query)]
  exact compiles

theorem runs_refine_relisted {outcome : Except Error GeneratedQuery}
    (same : lists.SameIndex pipeline request.index)
    (keys : ∀ query, RefinesTo pipeline request feedback earlier before contacts query →
      lists.SameKeys pipeline query)
    (runs : Runs (pipeline.refine request feedback earlier) before contacts outcome after) :
    Runs ((pipeline.relisted lists).refine request feedback earlier) before contacts outcome
      after := by
  rw [refine_eq] at runs ⊢
  rw [checkRequest_relisted same]
  refine runs.recordingFailure_exchange fun result ended checks => ?_
  apply runs_enter_bind_iff.mpr
  refine (immediate_checkRequest pipeline request false).exchange (runs_enter_bind_iff.mp checks)
    fun _ checked passed early minding => ?_
  by_cases blank : Text.trim feedback = ""
  · rw [if_pos blank] at minding ⊢
    rwa [(immediate_reject .emptyQuery).absorbs _
      fun _ => refineAccepted pipeline request feedback earlier]
  · rw [if_neg blank] at minding ⊢
    have alike := (alike_noting before (.entered .validating)).trans early
    exact runs_refineAccepted_relisted alike (eq_none_of_judgement passed) blank keys minding

theorem compilesTo_of_runs
    (runs : Runs (pipeline.compile request) before contacts (.ok query) after) :
    CompilesTo pipeline request before contacts query := by
  rcases compile_cases runs with ⟨error, -, -, same, -⟩ | ⟨schema, accepts, -⟩
  · cases same
  obtain ⟨start, found, resolved, alike, resolves, given, -⟩ := runs_compile accepts runs
  cases found with
  | error error => cases given
  | ok intent =>
    obtain rfl := eq_compile_of_verdict given.symm
    rw [alike.elapsed] at resolves
    have whole : CompilesTo pipeline request before (contacts ++ []) _ :=
      .resolved accepts alike resolves
    rwa [List.append_nil] at whole

theorem runs_answer_relisted {outcome : Except Error Answer}
    (same : lists.SameIndex pipeline request.index)
    (keys : ∀ query, CompilesTo pipeline { request with execute := true } before contacts query →
      lists.SameKeys pipeline query)
    (runs : Runs (pipeline.answer request) before contacts outcome after) :
    Runs ((pipeline.relisted lists).answer request) before contacts outcome after := by
  refine runs_get_bind_iff.mpr ((runs_get_bind_iff.mp runs).bind_exchange ?_ ?_)
  · refine fun first result between second split compiles => ?_
    refine runs_compile_relisted same (fun query compiled => keys query ?_) compiles
    rw [split]
    exact compiled.append second
  · refine fun first query between second split compiles executing => ?_
    have compiled := compilesTo_of_runs compiles
    have listed : lists.SameKeys pipeline query := keys query (split ▸ compiled.append second)
    have executes : (pipeline.relisted lists).run { request with execute := true } query = _ :=
      run_relisted (compiled.index ▸ same) fun _ => listed
    rwa [executes]

theorem runs_perform_relisted {task : Task} {outcome : Except Error Result}
    (same : ∀ index ∈ task.indexes, lists.SameIndex pipeline index)
    (keys : ∀ query, Inspects pipeline before contacts task query → lists.SameKeys pipeline query)
    (runs : Runs (pipeline.perform task) before contacts outcome after) :
    Runs ((pipeline.relisted lists).perform task) before contacts outcome after := by
  cases task with
  | compile request =>
    refine runs.map_exchange fun result compiles => ?_
    refine runs_compile_relisted (same _ List.mem_cons_self) (fun query compiled => ?_) compiles
    exact keys query (.compiled rfl compiled)
  | answer request =>
    refine runs.map_exchange fun result answers => ?_
    refine runs_answer_relisted (same _ List.mem_cons_self) (fun query compiled => ?_) answers
    exact keys query (.compiled rfl compiled)
  | refine request feedback earlier =>
    refine runs.map_exchange fun result refines => ?_
    refine runs_refine_relisted (same _ List.mem_cons_self) (fun query refined => ?_) refines
    exact keys query (.refined refined)
  | execute query =>
    have executes := execute_relisted (same _ List.mem_cons_self) fun executes =>
      keys query (.executed executes)
    refine runs.map_exchange fun result executed => ?_
    rwa [executes]
  | executeAll branches =>
    have executes := executeAll_relisted (fun branch member => same _ (List.mem_map_of_mem member))
      fun query reaches => keys query (.batched reaches)
    refine runs.map_exchange fun result executed => ?_
    rwa [executes]
  | summarize request response => exact runs
  | advance millis => exact runs

end Operation

/-- The queries whose envelopes are inspected when tasks are carried out with these contacts. -/
inductive InspectsAmong (pipeline : Pipeline) :
    Session → List Contact → List Task → GeneratedQuery → Prop where
  | now {before between : Session} {first second : List Contact} {task : Task} {rest : List Task}
      {outcome : Except Error Result} {query : GeneratedQuery}
      (performs : Runs (pipeline.perform task) before first outcome between)
      (inspects : Inspects pipeline before first task query) :
      InspectsAmong pipeline before (first ++ second) (task :: rest) query
  | later {before between : Session} {first second : List Contact} {task : Task} {rest : List Task}
      {outcome : Except Error Result} {query : GeneratedQuery}
      (performs : Runs (pipeline.perform task) before first outcome between)
      (inspects : InspectsAmong pipeline between second rest query) :
      InspectsAmong pipeline before (first ++ second) (task :: rest) query

theorem runs_performAll_relisted {tasks : List Task} {results : List (Except Error Result)}
    (same : ∀ task ∈ tasks, ∀ index ∈ task.indexes, lists.SameIndex pipeline index)
    (keys : ∀ query, InspectsAmong pipeline before contacts tasks query →
      lists.SameKeys pipeline query)
    (runs : Activity.Runs (pipeline.performAll tasks) before contacts results after) :
    Activity.Runs ((pipeline.relisted lists).performAll tasks) before contacts results after := by
  induction tasks generalizing before contacts results with
  | nil => exact runs
  | cons task rest ih =>
    obtain ⟨here, others⟩ := List.forall_mem_cons.mp same
    obtain ⟨first, _, outcome, between, rfl, performs, performing⟩ := Activity.runs_bind_iff.mp runs
    obtain ⟨second, _, answers, ended, rfl, later, giving⟩ := Activity.runs_bind_iff.mp performing
    obtain ⟨rfl, rfl, rfl⟩ := Activity.runs_pure_iff.mp giving
    rw [List.append_nil] at keys
    -- The first task leaves the same session in both, and the rest starts from it.
    have now := Operation.runs_perform_relisted here
      (fun query inspects => keys query (.now performs inspects)) performs
    have next := ih others (fun query inspects => keys query (.later performs inspects)) later
    refine Activity.runs_bind_iff.mpr ⟨first, _, outcome, between, rfl, now, ?_⟩
    exact Activity.runs_bind_iff.mpr ⟨second, [], answers, _, rfl, next, giving⟩

/-- Where two pipelines differ in their lists only, and these agree on each index that a task names
and on each top-level key of a query that is inspected, a session with the one is a session with
the other. As long as replies are the same it is the only one: every call, every prompt, every
result, every text of an error and what is on record are the same. -/
theorem lists_undisclosed {tasks : List Task} {results : List (Except Error Result)}
    (runs : Activity.Runs (pipeline.performAll tasks) before contacts results after)
    (same : ∀ task ∈ tasks, ∀ index ∈ task.indexes, lists.SameIndex pipeline index)
    (keys : ∀ query, InspectsAmong pipeline before contacts tasks query →
      lists.SameKeys pipeline query) :
    Activity.Runs ((pipeline.relisted lists).performAll tasks) before contacts results after ∧
    ∀ others answers final,
      Activity.Runs ((pipeline.relisted lists).performAll tasks) before others answers final →
      SameReplies contacts others → others = contacts ∧ answers = results ∧ final = after := by
  have relisted := runs_performAll_relisted same keys runs
  refine ⟨relisted, fun others answers final also replies => ?_⟩
  obtain ⟨alike, given⟩ := Plan.Runs.unique relisted also replies
  obtain ⟨rfl, rfl⟩ := Prod.mk.inj given
  exact ⟨alike, rfl, rfl⟩

private def payrollOffice : Pipeline := ⟨.default, Schema.builtIn, .origin⟩

/-- Lists with a further index and a further key. -/
private def longerLists : Listing :=
  ⟨"payroll" :: payrollOffice.settings.pipeline.allowedIndexes,
    "payroll" :: payrollOffice.settings.pipeline.executableIndexes,
    "highlight" :: payrollOffice.settings.pipeline.topLevelKeys⟩

private def scripted : GeneratedQuery :=
  { index := "communications"
    envelope := .object [("query", .object [("match_all", .object [])]), ("script", .string "x")]
    explanation := ""
    intent := .plain .search .zero }

private def mailTasks : List Task :=
  [.compile (.ask "all mail" "communications"), .execute scripted]

theorem payroll_undisclosed :
    ∃ contacts results after others answers final,
      Activity.Runs (payrollOffice.performAll mailTasks) (.fresh true) contacts results after ∧
      (∀ task ∈ mailTasks, ∀ index ∈ task.indexes, longerLists.SameIndex payrollOffice index) ∧
      (∀ query, InspectsAmong payrollOffice (.fresh true) contacts mailTasks query →
        longerLists.SameKeys payrollOffice query) ∧
      Activity.Runs ((payrollOffice.relisted longerLists).performAll mailTasks) (.fresh true)
        others answers final ∧
      SameReplies contacts others ∧
      Activity.Runs ((payrollOffice.relisted longerLists).performAll mailTasks) (.fresh true)
        contacts results after ∧
      others = contacts ∧ answers = results ∧ final = after := by
  obtain ⟨contacts, results, after, runs, follow⟩ := Activity.exists_runs
    (payrollOffice.performAll mailTasks) (.fresh true) (fun _ => ⟨0, .ok "\x7b\x7d"⟩)
    fun _ => ⟨0, .error (.timeout 0)⟩
  obtain ⟨others, answers, final, also, followToo⟩ := Activity.exists_runs
    ((payrollOffice.relisted longerLists).performAll mailTasks) (.fresh true)
    (fun _ => ⟨0, .ok "\x7b\x7d"⟩) fun _ => ⟨0, .error (.timeout 0)⟩
  have replies := sameReplies_of_follows follow followToo
  have mail : longerLists.SameIndex payrollOffice "communications" :=
    ⟨by decide +kernel, by decide +kernel⟩
  have same : ∀ task ∈ mailTasks, ∀ index ∈ task.indexes,
      longerLists.SameIndex payrollOffice index := by
    refine List.forall_mem_cons.mpr ⟨?_, List.forall_mem_singleton.mpr ?_⟩
    · exact List.forall_mem_singleton.mpr mail
    · exact List.forall_mem_singleton.mpr mail
  have keys : ∀ query, InspectsAmong payrollOffice (.fresh true) contacts mailTasks query →
      longerLists.SameKeys payrollOffice query := by
    intro query inspects
    cases inspects with
    | now performs inspects =>
      cases inspects with
      | compiled asks compiles =>
        exact compiles.sameKeys (fun key => id) fun key => List.mem_cons_of_mem _
    | later performs inspects =>
      cases inspects with
      | now performs inspects =>
        cases inspects with
        | compiled asks compiles => cases asks
        | executed executes =>
          intro key member
          revert key
          decide +kernel
      | later performs inspects => cases inspects
  obtain ⟨relisted, only⟩ := lists_undisclosed runs same keys
  exact ⟨contacts, results, after, others, answers, final, runs, same, keys, also, replies,
    relisted, only others answers final also replies⟩

end AnalystQuery.Pipeline
