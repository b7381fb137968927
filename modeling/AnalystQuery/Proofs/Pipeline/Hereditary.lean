import AnalystQuery.Pipeline.Task

/-! Properties of operations that pass from the parts of a task to the task. What tasks are made of
is gone through once: a property that the parts have, and that every way of composing them keeps,
is one of all tasks. -/

namespace AnalystQuery.Pipeline

variable {pipeline : Pipeline} {property : ∀ {α : Type}, Operation α → Prop}

/-- The property holds of what checks and records are made of, and of what is composed of
operations that have it. -/
structure Closed (pipeline : Pipeline) (property : ∀ {α : Type}, Operation α → Prop) : Prop where
  pure : ∀ {α : Type} (value : α), property (pure value)
  bind : ∀ {α β : Type} {operation : Operation α} {continuation : α → Operation β},
    property operation → (∀ value, property (continuation value)) →
      property (operation >>= continuation)
  recordingFailure : ∀ {α : Type} {operation : Operation α},
    property operation → property (recordingFailure operation)
  reject : ∀ {α : Type} (cause : ValidationError), (∀ index, cause ≠ .missingSchema index) →
    property (reject cause : Operation α)
  schemaless : ∀ {α : Type} (index : String),
    property (throw (.validation (.missingSchema index)) : Operation α)
  session : property (liftM (get : Activity Session))
  enter : ∀ stage, property (liftM (enter stage))
  time : ∀ kind millis, property (liftM (time kind millis))
  present : ∀ timezone, property (liftM (pipeline.present timezone))

namespace Closed

variable (closed : pipeline.Closed property)
include closed

theorem checkRequest (request : Request) (execute : Bool) :
    property (pipeline.checkRequest request execute) := by
  unfold Pipeline.checkRequest
  split
  · rename_i cause flaw
    refine closed.reject cause ?_
    rintro index rfl
    rw [requestError?] at flaw
    repeat' split at flaw
    all_goals cases flaw
  · exact closed.pure _

theorem requireSchema (index : String) : property (pipeline.requireSchema index) := by
  unfold Pipeline.requireSchema
  split
  · exact closed.pure _
  · exact closed.schemaless index

theorem checkSecurity (query : GeneratedQuery) : property (pipeline.checkSecurity query) := by
  refine closed.bind (closed.enter _) fun _ => ?_
  dsimp only
  split
  · exact closed.reject _ (by simp)
  · exact closed.pure _

theorem checkFields (schema : Schema) (query : GeneratedQuery) :
    property (pipeline.checkFields schema query) := by
  refine closed.bind (closed.enter _) fun _ => ?_
  dsimp only
  split
  · exact closed.reject _ (by simp)
  · exact closed.pure _

theorem checkExecutable (query : GeneratedQuery) :
    property (pipeline.checkExecutable query) := by
  unfold Pipeline.checkExecutable
  split
  · exact closed.bind (closed.reject _ (by simp)) fun _ => closed.checkSecurity query
  · exact closed.checkSecurity query

theorem compileIntent (request : Request) (schema : Schema) (intent : Intent) :
    property (pipeline.compileIntent request schema intent) := by
  refine closed.bind (closed.enter _) fun _ => ?_
  refine closed.bind (closed.checkSecurity _) fun _ => ?_
  exact closed.bind (closed.checkFields schema _) fun _ => closed.pure _

theorem forM {α : Type} {items : List α} {body : α → Operation Unit}
    (each : ∀ item, property (body item)) : property (items.forM body) := by
  induction items with
  | nil => exact closed.pure _
  | cons item rest ih => exact closed.bind (each item) fun _ => ih

theorem timeAll (limit : Nat) (settled : List (Branch × Search.Reply)) :
    property (timeAll limit settled) :=
  closed.forM fun _ => closed.time _ _

theorem startBranches {branches : List Branch}
    (starts : ∀ branch ∈ branches, property (pipeline.startExecution branch.query))
    (inOrder underWay : Bool) :
    property (pipeline.startBranches inOrder underWay branches) := by
  induction branches generalizing underWay with
  | nil => exact closed.pure _
  | cons branch rest ih =>
    obtain ⟨here, others⟩ := List.forall_mem_cons.mp starts
    refine closed.bind here fun reply => ?_
    split
    · exact closed.pure _
    · exact closed.bind (ih others _) fun _ => closed.pure _

theorem refine (request : Request) (feedback : String) (earlier : GeneratedQuery)
    (reads : ∀ schema prompt now, property do
      let answer ← pipeline.reason request prompt
      Pipeline.enter .normalizing
      let intent ← pipeline.normalize now answer
      pipeline.compileIntent request schema intent) :
    property (pipeline.refine request feedback earlier) := by
  -- The check of the feedback stands in the middle, so what follows it is reached in two ways.
  have afterwards : property (do
      let schema ← pipeline.requireSchema request.index
      let now ← pipeline.present request.timezone
      Pipeline.enter .reasoning
      let answer ← pipeline.reason request
        (Prompt.refinement request feedback earlier schema now.render)
      Pipeline.enter .normalizing
      let intent ← pipeline.normalize now answer
      pipeline.compileIntent request schema intent) := by
    refine closed.bind (closed.requireSchema _) fun schema => ?_
    refine closed.bind (closed.present _) fun now => ?_
    exact closed.bind (closed.enter _) fun _ => reads schema _ now
  refine closed.recordingFailure (closed.bind (closed.enter _) fun _ => ?_)
  refine closed.bind (closed.checkRequest request _) fun _ => ?_
  split
  · exact closed.bind (closed.reject _ (by simp)) fun _ => afterwards
  · exact afterwards

theorem run (request : Request) (query : GeneratedQuery)
    (executes : property (pipeline.execute query))
    (sums : ∀ response, property (liftM (pipeline.summarize request response))) :
    property (pipeline.run request query) := by
  refine closed.bind closed.session fun _ => ?_
  refine closed.bind executes fun response => ?_
  refine closed.bind closed.session fun _ => ?_
  exact closed.bind (sums response) fun _ => closed.pure _

end Closed

/-- The property holds of waiting for calls too, and of what is done about those that fail. -/
structure Waiting (pipeline : Pipeline) (property : ∀ {α : Type}, Operation α → Prop) : Prop
    extends Closed pipeline property where
  wait : ∀ millis, property (liftM (wait millis))
  countError : property (liftM (count .executionErrors))
  fail : ∀ {α : Type} (cause : ExecutionError), property (throw (.execution cause) : Operation α)

namespace Waiting

variable (waiting : pipeline.Waiting property)
include waiting

theorem settle (reply : Search.Reply) : property (settle reply) := by
  refine waiting.bind (waiting.wait _) fun _ => ?_
  refine waiting.bind (waiting.time _ _) fun _ => ?_
  split
  · exact waiting.pure _
  · exact waiting.bind waiting.countError fun _ => waiting.fail _

theorem settleAll (inOrder : Bool) (settled : List (Branch × Search.Reply)) :
    property (match noticedFailure? inOrder settled with
      | some (delay, cause) => do
        Pipeline.wait delay
        Pipeline.timeAll delay settled
        (List.range (failuresUntil delay settled)).forM fun _ => count .executionErrors
        throw (.execution cause)
      | none => do
        Pipeline.wait (longestDelay settled)
        Pipeline.timeAll (longestDelay settled) settled
        pure (branchFindings settled)) := by
  have closed := waiting.toClosed
  split
  · refine closed.bind (waiting.wait _) fun _ => ?_
    refine closed.bind (closed.timeAll _ settled) fun _ => ?_
    exact closed.bind (closed.forM fun _ => waiting.countError) fun _ => waiting.fail _
  · refine closed.bind (waiting.wait _) fun _ => ?_
    exact closed.bind (closed.timeAll _ settled) fun _ => closed.pure _

variable (starts : ∀ query, property (pipeline.startExecution query))
include starts

theorem execute (query : GeneratedQuery) : property (pipeline.execute query) :=
  waiting.bind (starts query) waiting.settle

theorem executeAll (branches : List Branch) : property (pipeline.executeAll branches) := by
  have closed := waiting.toClosed
  refine closed.bind (closed.forM fun _ => closed.checkExecutable _) fun _ => ?_
  have begins := closed.startBranches fun (branch : Branch) (_ : branch ∈ branches) =>
    starts branch.query
  refine closed.bind (begins _ _) fun settled => ?_
  exact waiting.settleAll _ settled

end Waiting

/-- The property holds of all that compiling is made of. A question that is asked is taken as one
part with the reading of the answer. -/
structure Compiling (pipeline : Pipeline) (property : ∀ {α : Type}, Operation α → Prop) : Prop
    extends Closed pipeline property where
  timing : ∀ {α : Type} (kind : Timing) {operation : Operation α},
    property operation → property (timing kind operation)
  compileRequest : property (liftM (count .compileRequests))
  remembered? : ∀ key, property (liftM (remembered? key))
  remember : ∀ key intent, property (liftM (pipeline.remember key intent))
  reading : ∀ {β : Type} (request : Request) (prompt : String) (now : Calendar.Instant)
    {continuation : Intent → Operation β}, (∀ intent, property (continuation intent)) →
      property do
        let answer ← pipeline.reason request prompt
        Pipeline.enter .normalizing
        let intent ← pipeline.normalize now answer
        continuation intent

namespace Compiling

variable (compiling : pipeline.Compiling property)
include compiling

theorem resolveIntent (request : Request) (schema : Schema) (now : Calendar.Instant) :
    property (pipeline.resolveIntent request schema now) := by
  refine compiling.bind (compiling.remembered? _) fun found => ?_
  cases found with
  | some intent => exact compiling.bind (compiling.enter _) fun _ => compiling.pure _
  | none =>
    refine compiling.bind (compiling.enter _) fun _ => ?_
    refine compiling.reading request _ now fun intent => ?_
    split
    · exact compiling.bind (compiling.remember _ _) fun _ => compiling.pure _
    · exact compiling.pure _

theorem compile (request : Request) : property (pipeline.compile request) := by
  refine compiling.bind compiling.compileRequest fun _ => ?_
  refine compiling.recordingFailure (compiling.timing _ ?_)
  refine compiling.bind (compiling.enter _) fun _ => ?_
  refine compiling.bind (compiling.toClosed.checkRequest _ _) fun _ => ?_
  refine compiling.bind (compiling.toClosed.requireSchema _) fun schema => ?_
  refine compiling.bind (compiling.present _) fun now => ?_
  refine compiling.bind (compiling.resolveIntent request schema now) fun intent => ?_
  exact compiling.toClosed.compileIntent request schema intent

theorem refine (request : Request) (feedback : String) (earlier : GeneratedQuery) :
    property (pipeline.refine request feedback earlier) := by
  refine compiling.toClosed.refine request feedback earlier fun schema prompt now => ?_
  exact compiling.reading request prompt now fun intent =>
    compiling.toClosed.compileIntent request schema intent

end Compiling

/-- The property holds of all that tasks are made of. Executing a query is taken as one part. -/
structure Hereditary (pipeline : Pipeline) (property : ∀ {α : Type}, Operation α → Prop) : Prop
    extends Compiling pipeline property where
  map : ∀ {α β : Type} {operation : Operation α} (change : α → β),
    property operation → property (change <$> operation)
  advance : ∀ millis : Nat, property do
    modify fun session => session.advance millis
    return Result.nothing
  execute : ∀ query, property (pipeline.execute query)
  summarize : ∀ request response, property (liftM (pipeline.summarize request response))

namespace Hereditary

variable (hereditary : pipeline.Hereditary property)
include hereditary

theorem answer (request : Request) : property (pipeline.answer request) := by
  have runs (request : Request) (query : GeneratedQuery) : property (pipeline.run request query) :=
    hereditary.toClosed.run request query (hereditary.execute query) (hereditary.summarize request)
  refine hereditary.bind hereditary.session fun _ => ?_
  refine hereditary.bind (hereditary.toCompiling.compile _) fun query => ?_
  refine hereditary.bind (hereditary.recordingFailure (runs _ query)) fun _ => ?_
  refine hereditary.bind (hereditary.enter _) fun _ => ?_
  exact hereditary.bind hereditary.session fun _ => hereditary.pure _

/-- Batches are no part of other tasks and are looked at apart. -/
theorem perform (task : Task)
    (batches : ∀ branches, task = .executeAll branches → property (pipeline.executeAll branches)) :
    property (pipeline.perform task) := by
  have compiling := hereditary.toCompiling
  cases task with
  | compile request => exact hereditary.map _ (compiling.compile request)
  | answer request => exact hereditary.map _ (hereditary.answer request)
  | refine request feedback earlier =>
    exact hereditary.map _ (compiling.refine request feedback earlier)
  | execute query => exact hereditary.map _ (hereditary.execute query)
  | executeAll branches => exact hereditary.map _ (batches branches rfl)
  | summarize request response => exact hereditary.map _ (hereditary.summarize _ _)
  | advance millis => exact hereditary.advance millis

end Hereditary

end AnalystQuery.Pipeline
