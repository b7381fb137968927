import AnalystQuery.Proofs.Pipeline.Quiet
import AnalystQuery.Proofs.Query.Inspection

/-! The search calls of a session. Under settings without an error, every call targets an index
that may be asked and executed, and nothing that is handed to the search engine holds a key that
runs code or changes documents. -/

namespace AnalystQuery

open Json (KeysIn)
open Query (Permitted)

theorem Settings.allows_of_executes {settings : Settings} (valid : settings.error? = none)
    {index : String} (executes : settings.pipeline.executes index = true) :
    settings.pipeline.allows index = true := by
  -- Errors are looked for in a fixed order, so no check before the one for indexes has failed.
  have pipelineValid : settings.pipeline.error? = none := by
    unfold Settings.error? at valid
    split at valid
    · cases valid
    · split at valid
      · cases valid
      · split at valid
        · cases valid
        · assumption
  have noneOutside : settings.pipeline.executableIndexes.find?
      (!settings.pipeline.allows ·) = none := by
    unfold Settings.Pipeline.error? at pipelineValid
    split at pipelineValid
    · cases pipelineValid
    · split at pipelineValid
      · cases pipelineValid
      · assumption
  have inside := List.find?_eq_none.mp noneOutside index (List.contains_iff_mem.mp executes)
  simpa using inside

namespace Search

/-- The values that a call hands to the search engine: the query, and the aggregations or the
sorting and the selection of source fields. -/
def Call.parts : Call → List Json
  | .plain _ query options => query :: (options.sort.toList ++ options.source.toList)
  | .aggregate _ query aggregations => [query, aggregations]

end Search

namespace Pipeline

/-- A call that may reach the search engine: its index may be asked and executed, and no key at
any depth of its values runs code or changes documents, whatever the case of its letters. -/
structure Admissible (settings : Settings) (call : Search.Call) : Prop where
  allowed : call.index ∈ settings.pipeline.allowedIndexes
  executable : call.index ∈ settings.pipeline.executableIndexes
  clean : ∀ part ∈ call.parts, ∀ key ∈ part.allKeys,
    ∀ word ∈ ["script", "_script", "update", "delete", "_update"],
      Text.sameIgnoringAsciiCase word key = false

theorem permitted_iff (key : String) :
    Permitted key ↔ ∀ word ∈ ["script", "_script", "update", "delete", "_update"],
      Text.sameIgnoringAsciiCase word key = false := by
  rw [Permitted, Query.isForbiddenKey, List.any_eq_false]
  exact forall₂_congr fun word _ => iff_of_eq (Bool.not_eq_true _)

theorem index_searchCall (query : GeneratedQuery) : (searchCall query).index = query.index := by
  unfold searchCall
  split <;> rfl

theorem keysIn_searchCall {allowed : String → Prop} {query : GeneratedQuery}
    (inside : KeysIn allowed query.envelope) :
    ∀ part ∈ (searchCall query).parts, KeysIn allowed part := by
  intro part member
  unfold searchCall at member
  split at member
  · rename_i aggregations found
    rcases List.mem_pair.mp member with rfl | rfl
    · exact GeneratedQuery.keysIn_query inside
    · exact GeneratedQuery.keysIn_aggregations inside found
  · rcases List.mem_cons.mp member with rfl | options
    · exact GeneratedQuery.keysIn_query inside
    · rcases List.mem_append.mp options with sorting | selection
      · exact GeneratedQuery.keysIn_sort inside (Option.mem_toList.mp sorting)
      · exact GeneratedQuery.keysIn_source inside (Option.mem_toList.mp selection)

/-- Whether a query passes both checks that precede its execution. -/
structure Executable (pipeline : Pipeline) (query : GeneratedQuery) : Prop where
  executes : pipeline.settings.pipeline.executes query.index = true
  secure : Query.violations pipeline.settings.pipeline.topLevelKeys query.envelope = []

theorem Executable.admissible {pipeline : Pipeline} {query : GeneratedQuery}
    (executable : pipeline.Executable query) (valid : pipeline.settings.error? = none) :
    Admissible pipeline.settings (searchCall query) := by
  have allows := Settings.allows_of_executes valid executable.executes
  obtain ⟨entries, -, -, inside⟩ := (Query.violations_eq_nil_iff _ _).mp executable.secure
  refine ⟨?_, ?_, ?_⟩
  · rw [index_searchCall]
    exact List.contains_iff_mem.mp allows
  · rw [index_searchCall]
    exact List.contains_iff_mem.mp executable.executes
  · intro part member key found
    exact (permitted_iff key).mp (keysIn_searchCall inside part member key found)

namespace Operation

variable {permitted : Search.Call → Prop}

theorem ensures_checkExecutable (pipeline : Pipeline) (query : GeneratedQuery) :
    Ensures permitted (pipeline.checkExecutable query) fun _ => pipeline.Executable query := by
  unfold checkExecutable
  by_cases executes : pipeline.settings.pipeline.executes query.index = true
  · rw [if_neg (by simp [executes])]
    exact (ensures_checkSecurity pipeline query).mono fun _ secure => ⟨executes, secure⟩
  · have refuses : Ensures permitted (reject (.notExecutable query.index) : Operation Unit)
        fun _ => False := ensures_reject _
    rw [if_pos (by simp [executes])]
    exact ensures_bind refuses fun _ never => never.elim

theorem ensures_startExecution (pipeline : Pipeline) (query : GeneratedQuery)
    (admits : pipeline.Executable query → permitted (searchCall query)) :
    Ensures permitted (pipeline.startExecution query) fun _ => True := by
  unfold startExecution
  refine ensures_bind (ensures_checkExecutable pipeline query) fun _ executable => ?_
  refine ensures_bind (quiet_enter _).ensures fun _ _ => ?_
  refine ensures_bind (quiet_count _).ensures fun _ _ => ?_
  exact ensures_lift (Activity.ensures_startSearch (admits executable))

variable (pipeline : Pipeline)
  (admits : ∀ query, pipeline.Executable query → permitted (searchCall query))
include admits

-- Nothing is assumed of a compiled query: it is checked again before it is executed.
theorem confined_startExecution (query : GeneratedQuery) :
    Confined permitted (pipeline.startExecution query) :=
  ensures_startExecution pipeline query (admits query)

theorem hereditary_confined : pipeline.Hereditary (Confined permitted) where
  toCompiling := compiling_confined pipeline permitted
  map change confined := ensures_map change confined fun _ _ => True.intro
  advance _ := Confined.bind (ensures_lift (Activity.ensures_modify _)) fun _ =>
    ensures_pure True.intro
  execute := (waiting_confined pipeline permitted).execute (confined_startExecution pipeline admits)
  summarize request response :=
    (quiet_lift (Activity.quiet_summarize pipeline request response)).confined

/-- Whatever a task asks for, every call that it starts is for a query that passed the checks. -/
theorem confined_perform (task : Task) : Confined permitted (pipeline.perform task) := by
  have starts := confined_startExecution pipeline admits
  exact (hereditary_confined pipeline admits).perform task fun branches _ =>
    (waiting_confined pipeline permitted).executeAll starts branches

end Operation

theorem Activity.ensures_tasks {permitted : Search.Call → Prop} {pipeline : Pipeline}
    {tasks : List Task}
    (confined : ∀ task ∈ tasks, Operation.Confined permitted (pipeline.perform task)) :
    Ensures permitted (pipeline.performAll tasks) fun _ => True := by
  induction tasks with
  | nil => exact ensures_pure True.intro
  | cons task rest ih =>
    obtain ⟨here, others⟩ := List.forall_mem_cons.mp confined
    have performed : Ensures permitted (pipeline.perform task).run fun _ => True :=
      Activity.Ensures.mono here fun _ _ => True.intro
    refine ensures_bind performed fun outcome _ => ?_
    exact ensures_bind (ih others) fun _ _ => ensures_pure True.intro

theorem Activity.ensures_performAll {permitted : Search.Call → Prop} (pipeline : Pipeline)
    (admits : ∀ query, pipeline.Executable query → permitted (searchCall query))
    (tasks : List Task) :
    Ensures permitted (pipeline.performAll tasks) fun _ => True :=
  ensures_tasks fun task _ => Operation.confined_perform pipeline admits task

/-- In a pipeline with valid settings, whatever tasks are carried out from whatever session, and
whatever the language model and the search engine answer, every call that reaches the search
engine is admissible. -/
theorem issued_calls_admissible (pipeline : Pipeline) (valid : pipeline.settings.error? = none)
    (tasks : List Task) (session : Session) (call : Search.Call)
    (issues : ((pipeline.performAll tasks).run session).Issues call) :
    Admissible pipeline.settings call := by
  have admits (query : GeneratedQuery) (executable : pipeline.Executable query) :
      Admissible pipeline.settings (searchCall query) := executable.admissible valid
  have ensures := Activity.ensures_performAll pipeline admits tasks
  exact (ensures.inSession session).permitted_of_issues issues

private def everything : GeneratedQuery :=
  { index := "communications"
    envelope := .object [("query", .object [("match_all", .object [])]),
      ("sort", .array [.string "priority", .object [("timestamp", .string "desc")]])]
    explanation := ""
    intent := .plain .search .zero }

theorem everything_issued_admissible :
    (((Pipeline.mk .default [] .origin).performAll [.execute everything]).run
        (.fresh true)).Issues (searchCall everything) ∧
      Admissible .default (searchCall everything) := by
  have issues : (((Pipeline.mk .default [] .origin).performAll [.execute everything]).run
      (.fresh true)).Issues (searchCall everything) := .now _ _
  exact ⟨issues, issued_calls_admissible _ (by decide) _ _ _ issues⟩

end Pipeline

end AnalystQuery
