import AnalystQuery.Proofs.Pipeline.Compiles
import AnalystQuery.Proofs.Request.Identity

/-! The cache changes nothing that is compiled. Where replies of the language model depend on the
words of prompts and the instructions only, requests that are compiled one after the other at one
time give the same queries and the same errors with the cache and without it. -/

namespace AnalystQuery.Pipeline

open Operation (Runs)
open Request (CollisionFree)
open Text (squash trim)

variable {pipeline : Pipeline} {first second request : Request} {schema other : Schema}
  {before after : Session} {contacts : List Contact}

/-- No two allowed indexes differ in the white space at their ends alone. -/
def IndexesApart (pipeline : Pipeline) : Prop :=
  ∀ first ∈ pipeline.settings.pipeline.allowedIndexes,
    ∀ second ∈ pipeline.settings.pipeline.allowedIndexes, trim first = trim second → first = second

theorem Accepts.allowed (accepts : pipeline.Accepts request schema) :
    request.index ∈ pipeline.settings.pipeline.allowedIndexes := by
  have flawless := accepts.flawless
  rw [requestError?] at flawless
  split at flawless
  · cases flawless
  · split at flawless
    · cases flawless
    · rename_i known
      simpa [Settings.Pipeline.allows] using known

section Identity

variable (same : first.identity pipeline.settings.pipeline.historyWindow =
  second.identity pipeline.settings.pipeline.historyWindow) (elapsed : Nat)
include same

theorem moment_eq : pipeline.moment first elapsed = pipeline.moment second elapsed := by
  have zones := congrArg (fun identity : Request.Identity =>
    identity.timezone.elim 0 Calendar.zoneOffset) same
  rw [Request.zoneOffset_identity, Request.zoneOffset_identity] at zones
  exact Calendar.Instant.inZone_congr _ zones

theorem reading_eq : pipeline.reading first elapsed = pipeline.reading second elapsed := by
  funext answer
  rw [reading, reading, moment_eq same]

theorem squash_intentCall (apart : pipeline.IndexesApart)
    (accepts : pipeline.Accepts first schema) (also : pipeline.Accepts second other) :
    squash (pipeline.intentCall first schema elapsed).prompt =
      squash (pipeline.intentCall second other elapsed).prompt := by
  have index : first.index = second.index := apart _ accepts.allowed _ also.allowed
    (congrArg Request.Identity.index same)
  have schemas : other = schema := by
    have described := also.described
    rw [← index, accepts.described] at described
    exact (Option.some.inj described).symm
  rw [intentCall, intentCall, moment_eq same, schemas]
  exact Prompt.squash_question schema _ same index

end Identity

/-- Replies that depend on the words of the prompt and the instructions only. -/
def replies (service : String → Option String → Reasoning.Reply) (call : Reasoning.Call) :
    Reasoning.Reply := service (squash call.prompt) call.instructions

/-- What compiling a request gives when nothing is remembered. -/
def uncached (pipeline : Pipeline) (ask : Reasoning.Call → Reasoning.Reply) (elapsed : Nat)
    (request : Request) : Except Error GeneratedQuery :=
  match pipeline.requestError? request request.execute, pipeline.schema? request.index with
  | some cause, _ => .error (.validation cause)
  | none, none => .error (.validation (.missingSchema request.index))
  | none, some schema =>
    match (ask (pipeline.intentCall request schema elapsed)).within
        pipeline.settings.reasoning.timeoutMillis with
    | .ok answer => pipeline.verdict request schema (pipeline.reading request elapsed answer).intent
    | .error cause => .error (.reasoning cause)

theorem uncached_of_refusal {error : Error} (ask : Reasoning.Call → Reasoning.Reply)
    (elapsed : Nat) (refusal : pipeline.refusal? request = some error) :
    pipeline.uncached ask elapsed request = .error error := by
  cases flaw : pipeline.requestError? request request.execute with
  | some cause =>
    rw [refusal?, flaw] at refusal
    rw [uncached, flaw]
    exact congrArg _ (Option.some.inj refusal)
  | none =>
    cases described : pipeline.schema? request.index with
    | some schema =>
      rw [refusal?, flaw, described] at refusal
      cases refusal
    | none =>
      rw [refusal?, flaw, described] at refusal
      rw [uncached, flaw, described]
      exact congrArg _ (Option.some.inj refusal)

/-- What is remembered for these requests is what the language model would answer now. -/
def Current (pipeline : Pipeline) (ask : Reasoning.Call → Reasoning.Reply)
    (requests : List Request) (session : Session) : Prop :=
  ∀ entry ∈ session.cache.entries, ∀ request ∈ requests, ∀ schema,
    pipeline.Accepts request schema → pipeline.key request = entry.key →
    ∃ answer, (ask (pipeline.intentCall request schema session.elapsed)).within
        pipeline.settings.reasoning.timeoutMillis = .ok answer ∧
      entry.intent = (pipeline.reading request session.elapsed answer).intent

theorem answered_performAll_cons (pipeline : Pipeline) (task : Task) (rest : List Task)
    (session : Session) (ask : Reasoning.Call → Reasoning.Reply)
    (search : Search.Call → Search.Reply) :
    let first := Plan.answered (StateT.run (pipeline.perform task).run session) ask search
    (Plan.answered ((pipeline.performAll (task :: rest)).run session) ask search).1 =
      first.1 :: (Plan.answered ((pipeline.performAll rest).run first.2) ask search).1 := by
  intro first
  have steps : (pipeline.performAll (task :: rest)).run session =
      Plan.andThen (StateT.run (pipeline.perform task).run session) fun finished =>
        Plan.andThen ((pipeline.performAll rest).run finished.2) fun others =>
          .done (finished.1 :: others.1, others.2) := rfl
  rw [steps, Plan.answered_andThen, Plan.answered_andThen]
  rfl

theorem current_fresh (pipeline : Pipeline) (ask : Reasoning.Call → Reasoning.Reply)
    (requests : List Request) (cacheEnabled : Bool) :
    pipeline.Current ask requests (.fresh cacheEnabled) := List.forall_mem_nil _

section Transparency

variable {requests : List Request} {service : String → Option String → Reasoning.Reply}
  {search : Search.Call → Search.Reply}
  (apart : pipeline.IndexesApart)
  (free : CollisionFree pipeline.settings.pipeline.historyWindow requests)
include apart free

/-- One compilation gives what it gives without the cache, and remembers what is current. -/
theorem compile_current (current : pipeline.Current (replies service) requests before)
    (listed : request ∈ requests) {outcome : Except Error GeneratedQuery}
    (runs : Runs (pipeline.compile request) before contacts outcome after)
    (follow : ∀ contact ∈ contacts, contact.Follows (replies service) search) :
    outcome = pipeline.uncached (replies service) before.elapsed request ∧
      pipeline.Current (replies service) requests after := by
  have compiles := Operation.compiles_compile runs
  have still : after.elapsed = before.elapsed :=
    (Operation.steady_compile _ _ _ _ _ runs).elapsed
  have unchanged (cache : after.cache = before.cache) :
      pipeline.Current (replies service) requests after := by
    rw [Current, cache, still]
    exact current
  cases refusal : pipeline.refusal? request with
  | some error =>
    obtain ⟨rfl, cache⟩ := compiles.of_refusal refusal
    exact ⟨(uncached_of_refusal _ _ refusal).symm, unchanged cache⟩
  | none =>
    obtain ⟨schema, accepts⟩ := accepts_of_refusal? refusal
    have expected : pipeline.uncached (replies service) before.elapsed request =
        match (replies service (pipeline.intentCall request schema before.elapsed)).within
          pipeline.settings.reasoning.timeoutMillis with
        | .ok answer =>
          pipeline.verdict request schema (pipeline.reading request before.elapsed answer).intent
        | .error cause => .error (.reasoning cause) := by
      rw [uncached, accepts.flawless, accepts.described]
    cases found : before.recalled? (pipeline.key request) with
    | some intent =>
      obtain ⟨-, rfl, cache⟩ := compiles.of_recalled accepts found
      obtain ⟨entry, member, key, -, rfl⟩ := Session.mem_of_recalled? found
      obtain ⟨answer, answers, read⟩ :=
        current entry member request listed schema accepts key.symm
      rw [expected, answers, read]
      exact ⟨rfl, unchanged cache⟩
    | none =>
      have asked := compiles.of_missed follow accepts found
      rw [expected]
      cases replied : (replies service (pipeline.intentCall request schema before.elapsed)).within
          pipeline.settings.reasoning.timeoutMillis with
      | error cause =>
        rw [replied] at asked
        exact ⟨asked.1, unchanged asked.2⟩
      | ok answer =>
        rw [replied] at asked
        refine ⟨asked.1, ?_⟩
        rw [Current, asked.2, still]
        intro entry member another alsoListed also accepted sameKey
        rcases mem_kept found member with old | ⟨-, -, rfl⟩
        · exact current entry old another alsoListed also accepted sameKey
        · -- Whoever finds the new entry would have asked in the same words.
          have same := (free.cacheKey_eq_iff alsoListed listed).mp sameKey
          refine ⟨answer, ?_, by rw [reading_eq same]⟩
          rw [← replied, replies, replies, squash_intentCall same _ apart accepted accepts]
          rfl

theorem performAll_current (current : pipeline.Current (replies service) requests before)
    {asked : List Request} (listed : ∀ request ∈ asked, request ∈ requests) :
    (Plan.answered ((pipeline.performAll (asked.map .compile)).run before) (replies service)
        search).1 =
      asked.map fun request =>
        (pipeline.uncached (replies service) before.elapsed request).map Result.query := by
  induction asked generalizing before with
  | nil => rfl
  | cons request rest ih =>
    obtain ⟨contacts, runs, follow⟩ := Plan.runs_answered
      (StateT.run (pipeline.perform (.compile request)).run before) (replies service) search
    rw [List.map_cons, answered_performAll_cons]
    generalize Plan.answered (StateT.run (pipeline.perform (.compile request)).run before)
      (replies service) search = finished at runs ⊢
    obtain ⟨outcome, after⟩ := finished
    obtain ⟨compiled, rfl, compiles⟩ := Operation.runs_map_iff.mp runs
    have still : after.elapsed = before.elapsed :=
      (Operation.steady_compile _ _ _ _ _ compiles).elapsed
    obtain ⟨gives, currentAfter⟩ := compile_current apart free current
      (listed request List.mem_cons_self) compiles follow
    have others := ih currentAfter fun other member =>
      listed other (List.mem_cons_of_mem request member)
    rw [still] at others
    rw [others, gives, List.map_cons]

end Transparency

/-- What compiling these requests one after the other gives, where replies of the language model
depend on the words of prompts and the instructions only. -/
def compileAll (pipeline : Pipeline) (cacheEnabled : Bool)
    (service : String → Option String → Reasoning.Reply) (search : Search.Call → Search.Reply)
    (requests : List Request) : List (Except Error Result) :=
  (Plan.answered ((pipeline.performAll (requests.map .compile)).run (.fresh cacheEnabled))
    (replies service) search).1

/-- With the cache, requests give the queries and the errors that they give without it. -/
theorem compileAll_cached (pipeline : Pipeline) (requests : List Request)
    (service : String → Option String → Reasoning.Reply) (search : Search.Call → Search.Reply)
    (apart : pipeline.IndexesApart)
    (free : CollisionFree pipeline.settings.pipeline.historyWindow requests) :
    pipeline.compileAll true service search requests =
      pipeline.compileAll false service search requests := by
  have uncached (cacheEnabled : Bool) : pipeline.compileAll cacheEnabled service search requests =
      requests.map fun request =>
        (pipeline.uncached (replies service) 0 request).map Result.query :=
    performAll_current apart free (current_fresh _ _ _ cacheEnabled) fun _ member => member
  rw [uncached true, uncached false]

private def cachingPipeline : Pipeline := ⟨.default, Schema.builtIn, .origin⟩

private def rewordings : List Request :=
  [.ask "open cases" "communications", .ask " open  cases" "communications",
    { Request.ask "open cases" "communications" with context := some " " }]

theorem rewordings_cached :
    cachingPipeline.IndexesApart ∧
      CollisionFree cachingPipeline.settings.pipeline.historyWindow rewordings ∧
      cachingPipeline.compileAll true (fun _ _ => ⟨0, .ok "\x7b\x7d"⟩)
          (fun _ => ⟨0, .error (.timeout 0)⟩) rewordings =
        cachingPipeline.compileAll false (fun _ _ => ⟨0, .ok "\x7b\x7d"⟩)
          (fun _ => ⟨0, .error (.timeout 0)⟩) rewordings := by
  have apart : cachingPipeline.IndexesApart := by
    unfold IndexesApart
    decide +kernel
  have one : ∀ request ∈ rewordings,
      request.identity cachingPipeline.settings.pipeline.historyWindow =
        ⟨"open cases", none, "communications", none, []⟩ := by decide +kernel
  have free := Request.collisionFree_of_identity one
  exact ⟨apart, free, compileAll_cached _ _ _ _ apart free⟩

end AnalystQuery.Pipeline
