import AnalystQuery.Proofs.Pipeline.Immediate
import AnalystQuery.Proofs.Pipeline.Keeping

/-! Everything that compiling a question can do: it refuses the request, goes on with a remembered
intent, gets no answer, or reads an answer and remembers what it read. -/

namespace AnalystQuery.Pipeline

open Prompt (intentInstructions)

variable {β : Type} {pipeline : Pipeline} {request : Request} {schema : Schema}
  {before after : Session} {contacts : List Contact}

/-- Why a request is refused before its intent is looked for. -/
def refusal? (pipeline : Pipeline) (request : Request) : Option Error :=
  match pipeline.requestError? request request.execute, pipeline.schema? request.index with
  | some cause, _ => some (.validation cause)
  | none, none => some (.validation (.missingSchema request.index))
  | none, some _ => none

/-- A request passes the checks, and its index has this schema. -/
structure Accepts (pipeline : Pipeline) (request : Request) (schema : Schema) : Prop where
  flawless : pipeline.requestError? request request.execute = none
  described : pipeline.schema? request.index = some schema

theorem Accepts.refusal?_eq (accepts : pipeline.Accepts request schema) :
    pipeline.refusal? request = none := by
  rw [refusal?, accepts.flawless, accepts.described]

theorem accepts_of_refusal? (pass : pipeline.refusal? request = none) :
    ∃ schema, pipeline.Accepts request schema := by
  cases flaw : pipeline.requestError? request request.execute with
  | some cause =>
    rw [refusal?, flaw] at pass
    cases pass
  | none =>
    cases described : pipeline.schema? request.index with
    | some schema => exact ⟨schema, flaw, described⟩
    | none =>
      rw [refusal?, flaw, described] at pass
      cases pass

theorem Accepts.schema_eq {other : Schema} (accepts : pipeline.Accepts request schema)
    (also : pipeline.Accepts request other) : other = schema :=
  Option.some.inj (also.described.symm.trans accepts.described)

/-- The present of a request, so long after the beginning. -/
def moment (pipeline : Pipeline) (request : Request) (elapsed : Nat) : Calendar.Instant :=
  (pipeline.start.advance elapsed).inZone request.timezone

def key (pipeline : Pipeline) (request : Request) : String :=
  request.cacheKey pipeline.settings.pipeline.historyWindow

def Session.recalled? (session : Session) (key : String) : Option Intent :=
  if session.cache.enabled then session.cache.get? session.elapsed key else none

def intentCall (pipeline : Pipeline) (request : Request) (schema : Schema) (elapsed : Nat) :
    Reasoning.Call :=
  ⟨Prompt.question request schema pipeline.settings.pipeline.historyWindow
    (pipeline.moment request elapsed).render, some intentInstructions, request.rateLimitKey⟩

def reading (pipeline : Pipeline) (request : Request) (elapsed : Nat) (answer : String) :
    Intent.Outcome :=
  Intent.normalize ⟨pipeline.settings.pipeline.defaultConfidence,
    pipeline.settings.pipeline.degradedConfidence⟩ (pipeline.moment request elapsed) answer

def kept (pipeline : Pipeline) (session : Session) (key : String) (intent : Intent) :
    IntentCache :=
  if intent.parseFailed then session.cache
  else session.cache.set session.elapsed key intent (1000 * pipeline.settings.cache.ttlSeconds)

/-- What becomes of an intent: its query, unless a check refuses it. -/
def verdict (pipeline : Pipeline) (request : Request) (schema : Schema) (intent : Intent) :
    Except Error GeneratedQuery :=
  let rules := pipeline.settings.pipeline
  let query := Query.compile ⟨rules.defaultSize, rules.maxSize⟩ request.index schema intent
  let violations := Query.violations rules.topLevelKeys query.envelope
  let unknown := Query.unknownFields query.envelope schema
  if violations.isEmpty then
    if !unknown.isEmpty && rules.strictSchema then .error (.validation (.unknownFields unknown))
    else .ok query
  else .error (.validation (.unsafeQuery violations))

theorem verdict_eq (pipeline : Pipeline) (request : Request) (schema : Schema) (intent : Intent) :
    pipeline.verdict request schema intent =
      let rules := pipeline.settings.pipeline
      let query := Query.compile ⟨rules.defaultSize, rules.maxSize⟩ request.index schema intent
      (Operation.judgement (pipeline.securityError? query)).bind fun _ =>
        (Operation.judgement (pipeline.fieldsError? schema query)).bind fun _ => .ok query := by
  rw [verdict]
  dsimp only [securityError?, fieldsError?]
  split
  · split <;> rfl
  · rfl

/-- What is compiled where this is heard of the language model. -/
def response (pipeline : Pipeline) (request : Request) (schema : Schema) (elapsed : Nat) :
    Except ReasoningError String → Except Error GeneratedQuery
  | .ok answer => pipeline.verdict request schema (pipeline.reading request elapsed answer).intent
  | .error cause => .error (.reasoning cause)

/-- The cache when this was heard about a request. -/
def keptReply (pipeline : Pipeline) (session : Session) (request : Request) :
    Except ReasoningError String → IntentCache
  | .ok answer =>
    pipeline.kept session (pipeline.key request)
      (pipeline.reading request session.elapsed answer).intent
  | .error _ => session.cache

/-- The ways in which a compilation runs: its contacts, its outcome and the cache afterwards. -/
inductive Compiles (pipeline : Pipeline) (request : Request) (before : Session) :
    List Contact → Except Error GeneratedQuery → IntentCache → Prop where
  | refused (error : Error) (refusal : pipeline.refusal? request = some error) :
      Compiles pipeline request before [] (.error error) before.cache
  | remembered (schema : Schema) (intent : Intent) (accepts : pipeline.Accepts request schema)
      (found : before.recalled? (pipeline.key request) = some intent) :
      Compiles pipeline request before [] (pipeline.verdict request schema intent) before.cache
  /-- there is no time to wait for an answer -/
  | hopeless (schema : Schema) (accepts : pipeline.Accepts request schema)
      (missed : before.recalled? (pipeline.key request) = none)
      (timeless : pipeline.settings.reasoning.timeoutMillis = 0) :
      Compiles pipeline request before [] (.error (.reasoning (.timeout 0))) before.cache
  | unanswered (schema : Schema) (accepts : pipeline.Accepts request schema)
      (missed : before.recalled? (pipeline.key request) = none)
      (begun : List Contact) (reply : Reasoning.Reply) (cause : ReasoningError)
      (hopeful : 0 < pipeline.settings.reasoning.timeoutMillis)
      (postponed : ∀ contact ∈ begun, ∃ call ∈ before.postponed, ∃ reply,
        contact = .asked call reply)
      (failed : reply.within pipeline.settings.reasoning.timeoutMillis = .error cause) :
      Compiles pipeline request before
        (begun ++ [.asked (pipeline.intentCall request schema before.elapsed) reply])
        (.error (.reasoning cause)) before.cache
  | read (schema : Schema) (accepts : pipeline.Accepts request schema)
      (missed : before.recalled? (pipeline.key request) = none)
      (begun : List Contact) (reply : Reasoning.Reply) (answer : String)
      (hopeful : 0 < pipeline.settings.reasoning.timeoutMillis)
      (postponed : ∀ contact ∈ begun, ∃ call ∈ before.postponed, ∃ reply,
        contact = .asked call reply)
      (answered : reply.within pipeline.settings.reasoning.timeoutMillis = .ok answer) :
      Compiles pipeline request before
        (begun ++ [.asked (pipeline.intentCall request schema before.elapsed) reply])
        (pipeline.verdict request schema (pipeline.reading request before.elapsed answer).intent)
        (pipeline.kept before (pipeline.key request)
          (pipeline.reading request before.elapsed answer).intent)

/-- The sessions differ in their records at most. -/
structure Alike (first second : Session) : Prop where
  cache : second.cache = first.cache
  elapsed : second.elapsed = first.elapsed
  postponed : second.postponed = first.postponed

theorem Alike.recalled? {first second : Session} (alike : Alike first second) (key : String) :
    second.recalled? key = first.recalled? key := by
  rw [Session.recalled?, alike.cache, alike.elapsed]
  rfl

theorem Alike.trans {first second third : Session} (early : Alike first second)
    (late : Alike second third) : Alike first third :=
  ⟨late.cache.trans early.cache, late.elapsed.trans early.elapsed,
    late.postponed.trans early.postponed⟩

def Session.noting (session : Session) (event : Event) : Session :=
  { session with journal := session.journal ++ [event] }

theorem alike_noting (session : Session) (event : Event) : Alike session (session.noting event) :=
  ⟨rfl, rfl, rfl⟩

theorem alike_noted (session : Session) (events : List Event) :
    Alike session (session.noted events) := ⟨rfl, rfl, rfl⟩

namespace Activity

theorem runs_remembered? {key : String} {found : Option Intent}
    (runs : Runs (remembered? key) before contacts found after) :
    contacts = [] ∧ found = before.recalled? key ∧ Alike before after := by
  obtain ⟨_, _, _, _, rfl, reads, looking⟩ := runs_bind_iff.mp runs
  obtain ⟨rfl, rfl, rfl⟩ := runs_get_iff.mp reads
  rw [Session.recalled?]
  split at looking
  · rename_i enabled
    rw [if_pos enabled]
    obtain ⟨rfl, same⟩ := Plan.runs_done_iff.mp looking
    obtain ⟨rfl, rfl⟩ := Prod.mk.inj same
    exact ⟨rfl, rfl, alike_noting _ _⟩
  · rename_i disabled
    rw [if_neg disabled]
    obtain ⟨rfl, rfl, rfl⟩ := runs_pure_iff.mp looking
    exact ⟨rfl, rfl, rfl, rfl, rfl⟩

theorem runs_normalize {answer : String} {intent : Intent} {elapsed : Nat}
    (runs : Runs (pipeline.normalize (pipeline.moment request elapsed) answer) before contacts
      intent after) :
    contacts = [] ∧ intent = (pipeline.reading request elapsed answer).intent ∧
      Alike before after := by
  unfold normalize at runs
  dsimp only at runs
  split at runs
  · obtain ⟨rfl, same⟩ := Plan.runs_done_iff.mp runs
    obtain ⟨rfl, rfl⟩ := Prod.mk.inj same
    exact ⟨rfl, rfl, alike_noting _ _⟩
  · obtain ⟨rfl, rfl, rfl⟩ := runs_pure_iff.mp runs
    exact ⟨rfl, rfl, rfl, rfl, rfl⟩

end Activity

namespace Operation

theorem runs_lift_bind_iff {α : Type} {activity : Activity α} {continuation : α → Operation β}
    {outcome : Except Error β} :
    Runs ((activity : Operation α) >>= continuation) before contacts outcome after ↔
      ∃ first second value between, contacts = first ++ second ∧
        activity.Runs before first value between ∧
        (continuation value).Runs between second outcome after := by
  rw [runs_bind_iff]
  constructor
  · rintro (⟨error, -, failed⟩ | ⟨first, second, value, between, rfl, early, late⟩)
    · obtain ⟨value, same, -⟩ := runs_lift_iff.mp failed
      cases same
    · obtain ⟨_, same, runs⟩ := runs_lift_iff.mp early
      cases same
      exact ⟨first, second, value, between, rfl, runs, late⟩
  · rintro ⟨first, second, value, between, rfl, early, late⟩
    exact Or.inr ⟨first, second, value, between, rfl, runs_lift_iff.mpr ⟨value, rfl, early⟩, late⟩

theorem runs_enter_bind_iff {stage : Stage} {continuation : Unit → Operation β}
    {outcome : Except Error β} :
    Runs (liftM (enter stage) >>= continuation) before contacts outcome after ↔
      (continuation ()).Runs (before.noting (.entered stage)) contacts outcome after := Iff.rfl

theorem runs_count_bind_iff {counter : Counter} {continuation : Unit → Operation β}
    {outcome : Except Error β} :
    Runs (liftM (count counter) >>= continuation) before contacts outcome after ↔
      (continuation ()).Runs (before.noting (.counted counter)) contacts outcome after := Iff.rfl

theorem runs_present_bind_iff {continuation : Calendar.Instant → Operation β}
    {outcome : Except Error β} :
    Runs (liftM (pipeline.present request.timezone) >>= continuation) before contacts outcome
        after ↔
      (continuation (pipeline.moment request before.elapsed)).Runs before contacts outcome after :=
  Iff.rfl

theorem runs_get_bind_iff {continuation : Session → Operation β}
    {outcome : Except Error β} :
    Runs (get >>= continuation) before contacts outcome after ↔
      (continuation before).Runs before contacts outcome after := Iff.rfl

theorem runs_recordingFailure {operation : Operation β} {outcome : Except Error β}
    (runs : Runs (recordingFailure operation) before contacts outcome after) :
    ∃ between, operation.Runs before contacts outcome between ∧ Alike between after := by
  rcases runs_tryCatch_iff.mp runs with ⟨value, rfl, passed⟩ |
      ⟨first, second, error, between, rfl, failed, rest⟩
  · exact ⟨after, passed, rfl, rfl, rfl⟩
  · obtain ⟨rfl, rfl, rfl⟩ := runs_throw_iff.mp (runs_enter_bind_iff.mp rest)
    exact ⟨between, (List.append_nil first).symm ▸ failed, alike_noting _ _⟩

theorem runs_timing {kind : Timing} {operation : Operation β} {outcome : Except Error β}
    (runs : Runs (timing kind operation) before contacts outcome after) :
    ∃ between millis, operation.Runs before contacts outcome between ∧
      after = between.noting (.timed kind millis) := by
  obtain ⟨_, _, _, _, rfl, reads, timed⟩ := Activity.runs_bind_iff.mp runs
  obtain ⟨rfl, rfl, rfl⟩ := Activity.runs_get_iff.mp reads
  obtain ⟨own, _, _, between, rfl, operates, recording⟩ := Activity.runs_bind_iff.mp timed
  obtain ⟨rfl, same⟩ := Plan.runs_done_iff.mp recording
  obtain ⟨rfl, rfl⟩ := Prod.mk.inj same
  rw [List.nil_append, List.append_nil]
  exact ⟨between, _, operates, rfl⟩

theorem Immediate.runs {operation : Operation β} {outcome result : Except Error β}
    (immediate : Immediate operation outcome)
    (runs : operation.Runs before contacts result after) :
    contacts = [] ∧ result = outcome ∧ Alike before after := by
  obtain ⟨events, runs_iff⟩ := immediate.runs_iff
  obtain ⟨rfl, rfl, rfl⟩ := runs_iff.mp runs
  exact ⟨rfl, rfl, alike_noted before events⟩

theorem Immediate.runs_next {α : Type} {operation : Operation α} {continuation : α → Operation β}
    {value : α} {outcome : Except Error β} (immediate : Immediate operation (.ok value))
    (runs : Runs (operation >>= continuation) before contacts outcome after) :
    ∃ between, Alike before between ∧ (continuation value).Runs between contacts outcome after := by
  rcases Operation.runs_bind_iff.mp runs with ⟨error, rfl, fails⟩ |
      ⟨_, _, other, between, rfl, passes, rest⟩
  · cases (immediate.runs fails).2.1
  · obtain ⟨rfl, same, alike⟩ := immediate.runs passes
    obtain rfl := Except.ok.inj same
    exact ⟨between, alike, rest⟩

theorem immediate_compileIntent (pipeline : Pipeline) (request : Request) (schema : Schema)
    (intent : Intent) :
    Immediate (pipeline.compileIntent request schema intent)
      (pipeline.verdict request schema intent) := by
  rw [verdict_eq]
  refine Immediate.recording (.entered .compiling) ?_
  refine (immediate_checkSecurity pipeline _).bind fun _ => ?_
  exact (immediate_checkFields pipeline schema _).bind fun _ => immediate_pure _

theorem runs_reason {prompt : String} {outcome : Except Error String}
    (runs : Runs (pipeline.reason request prompt) before contacts outcome after) :
    ∃ heard, Asks pipeline.settings.reasoning.timeoutMillis
        ⟨prompt, some intentInstructions, request.rateLimitKey⟩ before.postponed contacts heard
        after.postponed ∧
      outcome = heard.mapError .reasoning ∧
      after.cache = before.cache ∧ after.elapsed = before.elapsed := by
  have permits : ∀ call : Reasoning.Call,
      call.instructions = some intentInstructions → (fun _ => True) call := fun _ _ => True.intro
  obtain ⟨cache, elapsed, -, -⟩ := keeps_reason permits request _ _ _ _ _ runs
  obtain ⟨first, second, heard, between, rfl, asks, ends⟩ := runs_lift_bind_iff.mp runs
  have finished : second = [] ∧ outcome = heard.mapError .reasoning ∧ after = between := by
    cases heard with
    | ok text => exact runs_pure_iff.mp ends
    | error cause => exact runs_throw_iff.mp ends
  obtain ⟨rfl, rfl, rfl⟩ := finished
  rw [List.append_nil]
  exact ⟨heard, Activity.asks_askWithin asks, rfl, cache, elapsed⟩

theorem runs_reading {prompt : String} {elapsed : Nat} {continuation : Intent → Operation β}
    {outcome : Except Error β}
    (runs : Runs (do
      let answer ← pipeline.reason request prompt
      enter .normalizing
      let intent ← pipeline.normalize (pipeline.moment request elapsed) answer
      continuation intent) before contacts outcome after) :
    ∃ first second heard between, contacts = first ++ second ∧
      Asks pipeline.settings.reasoning.timeoutMillis
        ⟨prompt, some intentInstructions, request.rateLimitKey⟩ before.postponed first heard
        between.postponed ∧
      between.cache = before.cache ∧ between.elapsed = before.elapsed ∧
      match heard with
      | .ok answer =>
        Runs (continuation (pipeline.reading request elapsed answer).intent) between second
          outcome after
      | .error cause =>
        second = [] ∧ outcome = .error (.reasoning cause) ∧ Alike between after := by
  rcases runs_bind_iff.mp runs with ⟨error, rfl, fails⟩ |
      ⟨first, _, answer, answered, rfl, answers, normalizing⟩
  · obtain ⟨heard, asks, same, cache, elapsed⟩ := runs_reason fails
    cases heard with
    | ok answer => cases same
    | error cause =>
      obtain rfl := Except.error.inj same
      exact ⟨contacts, [], _, after, (List.append_nil _).symm, asks, cache, elapsed, rfl, rfl,
        rfl, rfl, rfl⟩
  · obtain ⟨heard, asks, same, cache, elapsed⟩ := runs_reason answers
    cases heard with
    | error cause => cases same
    | ok text =>
      obtain rfl := Except.ok.inj same
      have entered := runs_enter_bind_iff.mp normalizing
      obtain ⟨_, rest, _, normalized, rfl, normalizes, continues⟩ := runs_lift_bind_iff.mp entered
      obtain ⟨rfl, rfl, alike⟩ := Activity.runs_normalize normalizes
      exact ⟨first, rest, _, normalized, rfl, alike.postponed ▸ asks, alike.cache.trans cache,
        alike.elapsed.trans elapsed, continues⟩

theorem runs_storing {key : String} {intent : Intent} {outcome : Except Error Intent}
    (runs : Runs (do
      if !intent.parseFailed then pipeline.remember key intent
      pure intent) before contacts outcome after) :
    contacts = [] ∧ outcome = .ok intent ∧ after.cache = pipeline.kept before key intent ∧
      after.elapsed = before.elapsed ∧ after.postponed = before.postponed := by
  rw [kept]
  by_cases failed : intent.parseFailed = true
  · rw [if_neg (by simp [failed])] at runs
    obtain ⟨rfl, rfl, rfl⟩ := runs_pure_iff.mp runs
    exact ⟨rfl, rfl, (if_pos failed).symm, rfl, rfl⟩
  · rw [if_pos (by simp [failed])] at runs
    obtain ⟨rfl, same⟩ := Plan.runs_done_iff.mp runs
    obtain ⟨rfl, rfl⟩ := Prod.mk.inj same
    exact ⟨rfl, rfl, (if_neg failed).symm, rfl, rfl⟩

/-- An intent is remembered, or the language model is asked and what is heard is kept. -/
theorem runs_resolveIntent {outcome : Except Error Intent}
    (runs : Runs (pipeline.resolveIntent request schema (pipeline.moment request before.elapsed))
      before contacts outcome after) :
    (∃ intent, before.recalled? (pipeline.key request) = some intent ∧ contacts = [] ∧
        outcome = .ok intent ∧ Alike before after) ∨
      (before.recalled? (pipeline.key request) = none ∧ ∃ heard,
        Asks pipeline.settings.reasoning.timeoutMillis
          (pipeline.intentCall request schema before.elapsed) before.postponed contacts heard
          after.postponed ∧
        outcome.bind (pipeline.verdict request schema) =
          pipeline.response request schema before.elapsed heard ∧
        after.elapsed = before.elapsed ∧ after.cache = pipeline.keptReply before request heard) := by
  obtain ⟨_, _, found, looked, rfl, looks, rest⟩ := runs_lift_bind_iff.mp runs
  obtain ⟨rfl, recalled, alike⟩ := Activity.runs_remembered? looks
  cases found with
  | some intent =>
    dsimp only at rest
    have done := runs_enter_bind_iff.mp rest
    obtain ⟨rfl, rfl, rfl⟩ := runs_pure_iff.mp done
    exact Or.inl ⟨intent, recalled.symm, rfl, rfl, alike.trans (alike_noting looked _)⟩
  | none =>
    have entered := alike.trans (alike_noting looked (.entered .reasoning))
    dsimp only at rest
    have asking := runs_enter_bind_iff.mp rest
    obtain ⟨first, _, heard, between, rfl, asks, cache, elapsed, ends⟩ := runs_reading asking
    rw [entered.postponed] at asks
    refine Or.inr ⟨recalled.symm, heard, ?_⟩
    cases heard with
    | error cause =>
      obtain ⟨rfl, rfl, last⟩ := ends
      rw [List.nil_append, List.append_nil, last.postponed, last.elapsed, last.cache]
      exact ⟨asks, rfl, elapsed.trans entered.elapsed, cache.trans entered.cache⟩
    | ok answer =>
      dsimp only at ends
      rw [response, keptReply]
      generalize (pipeline.reading request before.elapsed answer).intent = intent at ends ⊢
      obtain ⟨rfl, rfl, stored, later, postponed⟩ := runs_storing ends
      rw [List.nil_append, List.append_nil, postponed, later]
      refine ⟨asks, rfl, elapsed.trans entered.elapsed, ?_⟩
      rw [stored, kept, kept, cache, elapsed, entered.cache, entered.elapsed]
      rfl

theorem immediate_compile {error : Error} (refusal : pipeline.refusal? request = some error) :
    Immediate (pipeline.compile request) (.error error) := by
  refine Immediate.recording (.counted .compileRequests) (Immediate.recordingFailure ?_)
  refine (Immediate.recording (.entered .validating) ?_).timing .compile
  have checks := immediate_checkRequest pipeline request request.execute
  have describes := immediate_requireSchema pipeline request.index
  rw [refusal?] at refusal
  split at refusal
  · rename_i flaw
    obtain rfl := Option.some.inj refusal
    rw [flaw] at checks
    exact checks.fail
  · rename_i flaw described
    obtain rfl := Option.some.inj refusal
    rw [flaw] at checks
    rw [described] at describes
    exact checks.next describes.fail
  · cases refusal

theorem runs_compile {outcome : Except Error GeneratedQuery}
    (accepts : pipeline.Accepts request schema)
    (runs : Runs (pipeline.compile request) before contacts outcome after) :
    ∃ start found resolved, Alike before start ∧
      Runs (pipeline.resolveIntent request schema (pipeline.moment request start.elapsed)) start
        contacts found resolved ∧
      outcome = found.bind (pipeline.verdict request schema) ∧ Alike resolved after := by
  obtain ⟨recorded, records, last⟩ := runs_recordingFailure (runs_count_bind_iff.mp runs)
  obtain ⟨timed, millis, checks, rfl⟩ := runs_timing records
  have later := alike_noting timed (.timed .compile millis)
  have passes := immediate_checkRequest pipeline request request.execute
  rw [accepts.flawless] at passes
  have describes := immediate_requireSchema pipeline request.index
  rw [accepts.described] at describes
  obtain ⟨checked, early, describing⟩ := passes.runs_next (runs_enter_bind_iff.mp checks)
  obtain ⟨start, next, presenting⟩ := describes.runs_next describing
  have entered := (alike_noting before (.counted .compileRequests)).trans
    (alike_noting _ (.entered .validating))
  have begun := (entered.trans early).trans next
  have ended := later.trans last
  have intending := runs_present_bind_iff.mp presenting
  rcases runs_bind_iff.mp intending with ⟨error, rfl, fails⟩ |
      ⟨first, _, intent, resolved, rfl, resolves, compiling⟩
  · exact ⟨start, _, timed, begun, fails, rfl, ended⟩
  · obtain ⟨rfl, rfl, alike⟩ := (immediate_compileIntent pipeline request _ intent).runs compiling
    rw [List.append_nil]
    exact ⟨start, _, resolved, begun, resolves, rfl, alike.trans ended⟩

theorem compile_cases {outcome : Except Error GeneratedQuery}
    (runs : Runs (pipeline.compile request) before contacts outcome after) :
    (∃ error, pipeline.refusal? request = some error ∧ contacts = [] ∧ outcome = .error error ∧
        Alike before after) ∨
      ∃ schema, pipeline.Accepts request schema ∧
        ((∃ intent, before.recalled? (pipeline.key request) = some intent ∧ contacts = [] ∧
            outcome = pipeline.verdict request schema intent ∧ Alike before after) ∨
          (before.recalled? (pipeline.key request) = none ∧ ∃ heard,
            Asks pipeline.settings.reasoning.timeoutMillis
              (pipeline.intentCall request schema before.elapsed) before.postponed contacts heard
              after.postponed ∧
            outcome = pipeline.response request schema before.elapsed heard ∧
            after.elapsed = before.elapsed ∧
            after.cache = pipeline.keptReply before request heard)) := by
  cases refusal : pipeline.refusal? request with
  | some error =>
    obtain ⟨rfl, rfl, alike⟩ := (immediate_compile refusal).runs runs
    exact Or.inl ⟨error, rfl, rfl, rfl, alike⟩
  | none =>
    obtain ⟨schema, accepts⟩ := accepts_of_refusal? refusal
    obtain ⟨start, found, resolved, early, resolves, rfl, late⟩ := runs_compile accepts runs
    refine Or.inr ⟨schema, accepts, ?_⟩
    rcases runs_resolveIntent resolves with ⟨intent, recalled, rfl, rfl, alike⟩ |
        ⟨missed, heard, asks, given, elapsed, cache⟩
    · rw [early.recalled?] at recalled
      exact Or.inl ⟨intent, recalled, rfl, rfl, (early.trans alike).trans late⟩
    · rw [early.recalled?] at missed
      rw [early.elapsed, early.postponed, ← late.postponed] at asks
      rw [early.elapsed] at given
      refine Or.inr ⟨missed, heard, asks, given, ?_, ?_⟩
      · exact (late.elapsed.trans elapsed).trans early.elapsed
      · rw [late.cache, cache]
        cases heard with
        | error cause => exact early.cache
        | ok answer => rw [keptReply, keptReply, kept, kept, early.cache, early.elapsed]

/-- Compiling a question runs in one of the ways of `Compiles`. -/
theorem compiles_compile {outcome : Except Error GeneratedQuery}
    (runs : Runs (pipeline.compile request) before contacts outcome after) :
    Compiles pipeline request before contacts outcome after.cache := by
  rcases compile_cases runs with ⟨error, refusal, rfl, rfl, alike⟩ | ⟨schema, accepts,
      ⟨intent, found, rfl, rfl, alike⟩ | ⟨missed, heard, asks, rfl, -, cache⟩⟩
  · rw [alike.cache]
    exact .refused error refusal
  · rw [alike.cache]
    exact .remembered schema intent accepts found
  · rw [cache]
    generalize after.postponed = left at asks
    cases asks with
    | givenUp timeless => exact .hopeless schema accepts missed timeless
    | made reply hopeful begun =>
      have postponed := begun.exists_call
      cases given : reply.within pipeline.settings.reasoning.timeoutMillis with
      | error cause => exact .unanswered schema accepts missed _ reply cause hopeful postponed given
      | ok answer => exact .read schema accepts missed _ reply answer hopeful postponed given

end Operation

theorem Session.mem_of_recalled? {session : Session} {key : String} {intent : Intent}
    (found : session.recalled? key = some intent) :
    ∃ entry ∈ session.cache.entries,
      entry.key = key ∧ session.elapsed < entry.expiry ∧ entry.intent = intent := by
  rw [recalled?] at found
  split at found
  · obtain ⟨entry, living, same⟩ := Option.map_eq_some_iff.mp found
    have alive := List.find?_some living
    rw [Bool.and_eq_true, beq_iff_eq, decide_eq_true_eq] at alive
    exact ⟨entry, List.mem_of_find?_eq_some living, alive.1, alive.2, same⟩
  · cases found

theorem Session.expired_of_recalled? {session : Session} {key : String}
    (missed : session.recalled? key = none) (enabled : session.cache.enabled = true) :
    ∀ entry ∈ session.cache.entries, entry.key = key → entry.expiry ≤ session.elapsed := by
  intro entry member same
  rw [recalled?, if_pos enabled, IntentCache.get?, Option.map_eq_none_iff,
    IntentCache.living?, List.find?_eq_none] at missed
  have dead := missed entry member
  rw [Bool.and_eq_true, beq_iff_eq, decide_eq_true_eq] at dead
  exact Nat.le_of_not_lt fun alive => dead ⟨same, alive⟩

theorem enabled_kept (pipeline : Pipeline) (session : Session) (key : String) (intent : Intent) :
    (pipeline.kept session key intent).enabled = session.cache.enabled := by
  rw [kept, IntentCache.set]
  split
  · rfl
  · split <;> rfl

theorem mem_kept {key : String} {intent : Intent} {entry : IntentCache.Entry}
    (missed : before.recalled? key = none)
    (member : entry ∈ (pipeline.kept before key intent).entries) :
    entry ∈ before.cache.entries ∨ before.cache.enabled = true ∧ intent.parseFailed = false ∧
      entry = ⟨key, intent, before.elapsed + 1000 * pipeline.settings.cache.ttlSeconds⟩ := by
  rw [kept] at member
  split at member
  · exact Or.inl member
  · rename_i sound
    rw [IntentCache.set] at member
    split at member
    · rename_i stores
      have enabled : before.cache.enabled = true := (Bool.and_eq_true_iff.mp stores).1
      rw [Session.recalled?, if_pos enabled, IntentCache.get?, Option.map_eq_none_iff] at missed
      rw [missed] at member
      rcases List.mem_cons.mp member with rfl | other
      · exact Or.inr ⟨enabled, Bool.eq_false_iff.mpr sound, rfl⟩
      · exact Or.inl (List.mem_filter.mp other).1
    · exact Or.inl member

theorem eq_compile_of_verdict {intent : Intent} {generated : GeneratedQuery}
    (given : pipeline.verdict request schema intent = .ok generated) :
    generated = Query.compile
      ⟨pipeline.settings.pipeline.defaultSize, pipeline.settings.pipeline.maxSize⟩ request.index
      schema intent := by
  simp only [verdict] at given
  split at given
  · split at given
    · cases given
    · exact (Except.ok.inj given).symm
  · cases given

theorem verdict_intent {intent : Intent} {generated : GeneratedQuery}
    (given : pipeline.verdict request schema intent = .ok generated) :
    generated.intent = intent := by
  rw [eq_compile_of_verdict given]
  rfl

section Ways

variable {outcome : Except Error GeneratedQuery} {cache : IntentCache}
  (compiles : Compiles pipeline request before contacts outcome cache)
include compiles

theorem Compiles.of_refusal {error : Error} (refusal : pipeline.refusal? request = some error) :
    outcome = .error error ∧ cache = before.cache := by
  cases compiles with
  | refused other reason =>
    rw [Option.some.inj (refusal.symm.trans reason)]
    exact ⟨rfl, rfl⟩
  | remembered schema intent accepts | hopeless schema accepts | unanswered schema accepts
  | read schema accepts =>
    cases refusal.symm.trans accepts.refusal?_eq

theorem Compiles.of_recalled {intent : Intent} (accepts : pipeline.Accepts request schema)
    (found : before.recalled? (pipeline.key request) = some intent) :
    contacts = [] ∧ outcome = pipeline.verdict request schema intent ∧ cache = before.cache := by
  cases compiles with
  | refused other reason => cases reason.symm.trans accepts.refusal?_eq
  | remembered other remembered also known =>
    rw [accepts.schema_eq also, Option.some.inj (known.symm.trans found)]
    exact ⟨rfl, rfl, rfl⟩
  | hopeless _ _ missed | unanswered _ _ missed | read _ _ missed =>
    cases missed.symm.trans found

/-- What is not remembered is asked, and what becomes of it is up to the reply. -/
theorem Compiles.of_missed {ask : Reasoning.Call → Reasoning.Reply}
    {search : Search.Call → Search.Reply}
    (follow : ∀ contact ∈ contacts, contact.Follows ask search)
    (accepts : pipeline.Accepts request schema)
    (missed : before.recalled? (pipeline.key request) = none) :
    match (ask (pipeline.intentCall request schema before.elapsed)).within
        pipeline.settings.reasoning.timeoutMillis with
    | .ok answer =>
      outcome = pipeline.verdict request schema
          (pipeline.reading request before.elapsed answer).intent ∧
        cache = pipeline.kept before (pipeline.key request)
          (pipeline.reading request before.elapsed answer).intent
    | .error cause => outcome = .error (.reasoning cause) ∧ cache = before.cache := by
  cases compiles with
  | refused other reason => cases reason.symm.trans accepts.refusal?_eq
  | remembered other intent also known => cases missed.symm.trans known
  | hopeless other also _ timeless =>
    rw [timeless]
    exact ⟨rfl, rfl⟩
  | unanswered other also _ begun reply cause hopeful postponed failed =>
    obtain rfl := accepts.schema_eq also
    have given := follow _ (List.mem_append_right begun List.mem_cons_self)
    rw [Contact.Follows] at given
    rw [← given, failed]
    exact ⟨rfl, rfl⟩
  | read other also _ begun reply answer hopeful postponed answered =>
    obtain rfl := accepts.schema_eq also
    have given := follow _ (List.mem_append_right begun List.mem_cons_self)
    rw [Contact.Follows] at given
    rw [← given, answered]
    exact ⟨rfl, rfl⟩

end Ways

/-- The time stands still, and only calls for which there was no time are postponed. -/
structure Steady (pipeline : Pipeline) (before : Session) (_ : List Contact) (after : Session) :
    Prop where
  elapsed : after.elapsed = before.elapsed
  givenUp : pipeline.GivenUp before → pipeline.GivenUp after

theorem Alike.steady (alike : Alike before after) : pipeline.Steady before contacts after := by
  refine ⟨alike.elapsed, fun givenUp => ?_⟩
  rw [GivenUp, alike.postponed]
  exact givenUp

theorem Asks.impatient {call : Reasoning.Call} {postponed left : List Reasoning.Call}
    {heard : Except ReasoningError String}
    (asks : Asks (pipeline.patience call) call postponed contacts heard left)
    (givenUp : ∀ other ∈ postponed, pipeline.patience other = 0) :
    ∀ other ∈ left, pipeline.patience other = 0 := by
  cases asks with
  | givenUp timeless =>
    exact List.forall_mem_append.mpr ⟨givenUp, List.forall_mem_singleton.mpr timeless⟩
  | made => exact List.forall_mem_nil _

theorem Operation.steady_compile (request : Request) :
    Obeys pipeline.Steady (pipeline.compile request) := by
  intro before contacts outcome after runs
  rcases compile_cases runs with ⟨error, -, -, -, alike⟩ |
      ⟨schema, -, ⟨intent, -, -, -, alike⟩ | ⟨-, heard, asks, -, elapsed, -⟩⟩
  · exact alike.steady
  · exact alike.steady
  · have patient : pipeline.patience (pipeline.intentCall request schema before.elapsed) =
        pipeline.settings.reasoning.timeoutMillis := patience_of_intent rfl
    rw [← patient] at asks
    exact ⟨elapsed, asks.impatient⟩

end AnalystQuery.Pipeline
