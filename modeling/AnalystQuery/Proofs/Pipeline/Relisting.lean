import AnalystQuery.Proofs.Pipeline.Pages
import AnalystQuery.Proofs.Pipeline.Replays

/-! Pipelines that differ in the lists of what may be asked for. Only checks look at the lists, and
they ask of an index or of a top-level key whether it is listed. Where the answers are the same, a
check is the same, and so is what is built of it. -/

namespace AnalystQuery

namespace Query

/-- The keys of an envelope that are looked up in the list. -/
def topKeys (envelope : Json) : List String := (envelope.asObject?.getD []).map (·.1)

theorem violations_eq_of_topKeys {allowed others : List String} {envelope : Json}
    (same : ∀ key ∈ topKeys envelope, key ∈ others ↔ key ∈ allowed) :
    violations others envelope = violations allowed envelope := by
  have inspected : inspect others envelope = inspect allowed envelope := by
    cases envelope with
    | object entries =>
      refine List.flatMap_congr fun entry member => ?_
      have listed : others.contains entry.1 = allowed.contains entry.1 := by
        rw [Bool.eq_iff_iff, List.contains_iff_mem, List.contains_iff_mem]
        exact same entry.1 (List.mem_map_of_mem member)
      simp only [topFindings, listed]
    | _ => rfl
  rw [violations, inspected, violations]

end Query

namespace Pipeline

open Operation (immediate_checkAll immediate_checkExecutable immediate_reject)

variable {pipeline : Pipeline} {request : Request} {schema : Schema} {query : GeneratedQuery}
  {branches : List Branch}

/-- What requests may ask for. -/
structure Listing where
  allowed : List String
  executable : List String
  keys : List String

def relisted (pipeline : Pipeline) (lists : Listing) : Pipeline :=
  { pipeline with
    settings := { pipeline.settings with
      pipeline := { pipeline.settings.pipeline with
        allowedIndexes := lists.allowed
        executableIndexes := lists.executable
        topLevelKeys := lists.keys } } }

variable {lists : Listing}

namespace Listing

/-- An index stands in the same lists. -/
structure SameIndex (lists : Listing) (pipeline : Pipeline) (index : String) : Prop where
  allowed : index ∈ lists.allowed ↔ index ∈ pipeline.settings.pipeline.allowedIndexes
  executable : index ∈ lists.executable ↔ index ∈ pipeline.settings.pipeline.executableIndexes

def SameKeys (lists : Listing) (pipeline : Pipeline) (query : GeneratedQuery) : Prop :=
  ∀ key ∈ Query.topKeys query.envelope,
    key ∈ lists.keys ↔ key ∈ pipeline.settings.pipeline.topLevelKeys

theorem SameIndex.allows {index : String} (same : lists.SameIndex pipeline index) :
    (pipeline.relisted lists).settings.pipeline.allows index =
      pipeline.settings.pipeline.allows index := by
  rw [Bool.eq_iff_iff, Settings.Pipeline.allows, Settings.Pipeline.allows, List.contains_iff_mem,
    List.contains_iff_mem]
  exact same.allowed

theorem SameIndex.executes {index : String} (same : lists.SameIndex pipeline index) :
    (pipeline.relisted lists).settings.pipeline.executes index =
      pipeline.settings.pipeline.executes index := by
  rw [Bool.eq_iff_iff, Settings.Pipeline.executes, Settings.Pipeline.executes,
    List.contains_iff_mem, List.contains_iff_mem]
  exact same.executable

end Listing

theorem checkRequest_relisted (same : lists.SameIndex pipeline request.index) (execute : Bool) :
    (pipeline.relisted lists).checkRequest request execute =
      pipeline.checkRequest request execute := by
  have error : (pipeline.relisted lists).requestError? request execute =
      pipeline.requestError? request execute := by
    rw [requestError?, requestError?, same.allows, same.executes]
  rw [checkRequest, checkRequest, error]

theorem checkSecurity_relisted (same : lists.SameKeys pipeline query) :
    (pipeline.relisted lists).checkSecurity query = pipeline.checkSecurity query := by
  have violations : Query.violations lists.keys query.envelope =
      Query.violations pipeline.settings.pipeline.topLevelKeys query.envelope :=
    Query.violations_eq_of_topKeys same
  rw [checkSecurity, checkSecurity]
  dsimp only [relisted]
  rw [violations]

theorem checkExecutable_relisted (same : lists.SameIndex pipeline query.index)
    (keys : pipeline.settings.pipeline.executes query.index = true →
      lists.SameKeys pipeline query) :
    (pipeline.relisted lists).checkExecutable query = pipeline.checkExecutable query := by
  rw [checkExecutable, checkExecutable, same.executes]
  cases executes : pipeline.settings.pipeline.executes query.index with
  | true => exact checkSecurity_relisted (keys executes)
  -- The keys are not looked up.
  | false => exact (immediate_reject (.notExecutable query.index)).absorbs _ _

theorem compileIntent_relisted {intent : Intent}
    (keys : lists.SameKeys pipeline
      (Query.compile pipeline.sizes request.index schema intent)) :
    (pipeline.relisted lists).compileIntent request schema intent =
      pipeline.compileIntent request schema intent := by
  have secure : (pipeline.relisted lists).checkSecurity
      (Query.compile pipeline.sizes request.index schema intent) = _ := checkSecurity_relisted keys
  unfold compileIntent
  change (liftM (enter .compiling) >>= fun _ => ((pipeline.relisted lists).checkSecurity
    (Query.compile pipeline.sizes request.index schema intent)) >>= _) = _
  rw [secure]
  rfl

theorem startExecution_relisted (same : lists.SameIndex pipeline query.index)
    (keys : pipeline.settings.pipeline.executes query.index = true →
      lists.SameKeys pipeline query) :
    (pipeline.relisted lists).startExecution query = pipeline.startExecution query := by
  rw [startExecution, startExecution, checkExecutable_relisted same keys]

theorem execute_relisted (same : lists.SameIndex pipeline query.index)
    (keys : pipeline.settings.pipeline.executes query.index = true →
      lists.SameKeys pipeline query) :
    (pipeline.relisted lists).execute query = pipeline.execute query := by
  rw [execute, execute, startExecution_relisted same keys]

theorem run_relisted (same : lists.SameIndex pipeline query.index)
    (keys : pipeline.settings.pipeline.executes query.index = true →
      lists.SameKeys pipeline query) :
    (pipeline.relisted lists).run request query = pipeline.run request query := by
  rw [run, run, execute_relisted same keys]
  rfl

/-- The queries of a batch whose keys are looked up. The first one that is refused ends it. -/
inductive Reaches (pipeline : Pipeline) : List Branch → GeneratedQuery → Prop where
  | first {branch : Branch} {rest : List Branch}
      (executes : pipeline.settings.pipeline.executes branch.query.index = true) :
      Reaches pipeline (branch :: rest) branch.query
  | later {branch : Branch} {rest : List Branch} {query : GeneratedQuery}
      (passes : pipeline.executionError? branch.query = none)
      (reaches : Reaches pipeline rest query) : Reaches pipeline (branch :: rest) query

theorem executes_of_executionError? (passes : pipeline.executionError? query = none) :
    pipeline.settings.pipeline.executes query.index = true := by
  rw [executionError?] at passes
  split at passes
  · assumption
  · cases passes

theorem reaches_of_passes {branch : Branch} (member : branch ∈ branches)
    (passes : ∀ branch ∈ branches, pipeline.executionError? branch.query = none) :
    Reaches pipeline branches branch.query := by
  induction branches with
  | nil => cases member
  | cons first rest ih =>
    obtain ⟨here, others⟩ := List.forall_mem_cons.mp passes
    rcases List.mem_cons.mp member with rfl | later
    · exact .first (executes_of_executionError? here)
    · exact .later here (ih later others)

theorem checkAll_relisted (same : ∀ branch ∈ branches, lists.SameIndex pipeline branch.query.index)
    (keys : ∀ query, Reaches pipeline branches query → lists.SameKeys pipeline query) :
    (branches.forM fun branch => (pipeline.relisted lists).checkExecutable branch.query) =
      branches.forM fun branch => pipeline.checkExecutable branch.query := by
  induction branches with
  | nil => rfl
  | cons branch rest ih =>
    obtain ⟨here, others⟩ := List.forall_mem_cons.mp same
    rw [List.forM, List.forM,
      checkExecutable_relisted here fun executes => keys _ (.first executes)]
    cases refused : pipeline.executionError? branch.query with
    | none => rw [ih others fun query reaches => keys query (.later refused reaches)]
    | some cause =>
      have check := immediate_checkExecutable pipeline branch.query
      rw [refused] at check
      exact check.absorbs _ _

theorem startBranches_relisted (inOrder underWay : Bool)
    (starts : ∀ branch ∈ branches, (pipeline.relisted lists).startExecution branch.query =
      pipeline.startExecution branch.query) :
    (pipeline.relisted lists).startBranches inOrder underWay branches =
      pipeline.startBranches inOrder underWay branches := by
  induction branches generalizing underWay with
  | nil => rfl
  | cons branch rest ih =>
    obtain ⟨here, others⟩ := List.forall_mem_cons.mp starts
    rw [startBranches, startBranches, here]
    simp only [ih _ others]

theorem executeAll_relisted
    (same : ∀ branch ∈ branches, lists.SameIndex pipeline branch.query.index)
    (keys : ∀ query, Reaches pipeline branches query → lists.SameKeys pipeline query) :
    (pipeline.relisted lists).executeAll branches = pipeline.executeAll branches := by
  rw [executeAll, executeAll, checkAll_relisted same keys]
  cases refused : pipeline.branchesError? branches with
  | some cause =>
    have checks := immediate_checkAll pipeline branches
    rw [refused] at checks
    exact checks.absorbs _ _
  | none =>
    have passes := List.findSome?_eq_none_iff.mp refused
    have starts : ∀ branch ∈ branches, (pipeline.relisted lists).startExecution branch.query =
        pipeline.startExecution branch.query := fun branch member =>
      startExecution_relisted (same branch member) fun _ =>
        keys _ (reaches_of_passes member passes)
    simp only [startBranches_relisted _ _ starts]

end Pipeline

end AnalystQuery
