import AnalystQuery.Proofs.Pipeline.Asking
import AnalystQuery.Proofs.Pipeline.Hereditary

/-! What stays as it is while a session is used. Only compiling puts intents into the cache and
only `advance` moves the time. Calls that were given up begin later, but nobody waits for them. -/

namespace AnalystQuery.Pipeline

open Prompt (intentInstructions summaryInstructions)

variable {α : Type} (pipeline : Pipeline) {permitted : Reasoning.Call → Prop}

def patience (call : Reasoning.Call) : Nat :=
  if call.instructions = some intentInstructions then
    pipeline.settings.reasoning.timeoutMillis
  else pipeline.settings.reasoning.summaryTimeoutMillis

variable {pipeline} in
theorem patience_of_intent {call : Reasoning.Call}
    (reading : call.instructions = some intentInstructions) :
    pipeline.patience call = pipeline.settings.reasoning.timeoutMillis := if_pos reading

theorem summaryInstructions_ne : summaryInstructions ≠ intentInstructions := by decide +kernel

variable {pipeline} in
theorem patience_of_summary {call : Reasoning.Call}
    (summary : call.instructions = some summaryInstructions) :
    pipeline.patience call = pipeline.settings.reasoning.summaryTimeoutMillis := by
  refine if_neg fun reading => summaryInstructions_ne ?_
  exact Option.some.inj (summary.symm.trans reading)

/-- The postponed calls are those for which there was no time. -/
def GivenUp (session : Session) : Prop := ∀ call ∈ session.postponed, pipeline.patience call = 0

/-- The cache and the time are the same before and after, and the language model is asked nothing
but permitted calls and calls that were given up. -/
structure Keeps (permitted : Reasoning.Call → Prop) (before : Session)
    (contacts : List Contact) (after : Session) : Prop where
  cache : after.cache = before.cache
  elapsed : after.elapsed = before.elapsed
  givenUp : pipeline.GivenUp before → pipeline.GivenUp after
  asked : pipeline.GivenUp before → ∀ call reply, .asked call reply ∈ contacts →
    permitted call ∨ pipeline.patience call = 0

variable {pipeline}

theorem keeps_composes : Passage.Composes (pipeline.Keeps permitted) := by
  constructor
  · intro session
    exact ⟨rfl, rfl, id, fun _ _ _ none => nomatch none⟩
  · intro before between after first second early late
    refine ⟨late.cache.trans early.cache, late.elapsed.trans early.elapsed,
      fun givenUp => late.givenUp (early.givenUp givenUp), ?_⟩
    intro givenUp call reply member
    rcases List.mem_append.mp member with inFirst | inSecond
    · exact early.asked givenUp call reply inFirst
    · exact late.asked (early.givenUp givenUp) call reply inSecond

namespace Activity

theorem keeps_modify {change : Session → Session}
    (kept : ∀ session, pipeline.Keeps permitted session [] (change session)) :
    Obeys (pipeline.Keeps permitted) (modify change) := by
  intro before contacts value after runs
  obtain ⟨rfl, rfl⟩ := runs_modify_iff.mp runs
  exact kept before

theorem keeps_record (event : Event) : Obeys (pipeline.Keeps permitted) (record event) :=
  keeps_modify fun _ => ⟨rfl, rfl, id, fun _ _ _ none => nomatch none⟩

theorem keeps_enter (stage : Stage) : Obeys (pipeline.Keeps permitted) (enter stage) :=
  keeps_record _

theorem keeps_count (counter : Counter) : Obeys (pipeline.Keeps permitted) (count counter) :=
  keeps_record _

theorem keeps_time (timing : Timing) (millis : Nat) :
    Obeys (pipeline.Keeps permitted) (time timing millis) := keeps_record _

theorem keeps_beginPostponed : Obeys (pipeline.Keeps permitted) beginPostponed := by
  intro before contacts value after runs
  obtain ⟨rfl, begun⟩ := runs_beginPostponed runs
  refine ⟨rfl, rfl, fun _ => List.forall_mem_nil _, ?_⟩
  intro givenUp call reply member
  obtain ⟨other, postponed, given, same⟩ := begun.exists_call _ member
  cases same
  exact Or.inr (givenUp call postponed)

theorem keeps_wait (millis : Nat) : Obeys (pipeline.Keeps permitted) (wait millis) := by
  have waits : Obeys (pipeline.Keeps permitted)
      (modify fun session => { session with waited := session.waited + millis }) :=
    keeps_modify fun _ => ⟨rfl, rfl, id, fun _ _ _ none => nomatch none⟩
  unfold wait
  by_cases positive : 0 < millis
  · rw [if_pos positive]
    exact obeys_bind keeps_composes keeps_beginPostponed fun _ => waits
  · rw [if_neg positive]
    exact waits

theorem keeps_ask {call : Reasoning.Call} (permits : permitted call) :
    Obeys (pipeline.Keeps permitted) (ask call) := by
  intro before contacts reply after runs
  obtain ⟨rfl, rfl⟩ := runs_ask_iff.mp runs
  refine ⟨rfl, rfl, id, ?_⟩
  intro _ other given member
  cases List.mem_singleton.mp member
  exact Or.inl permits

theorem keeps_askWithin {call : Reasoning.Call} (permits : permitted call) {deadline : Nat}
    (patient : pipeline.patience call = deadline) :
    Obeys (pipeline.Keeps permitted) (askWithin deadline call) := by
  unfold askWithin
  refine obeys_bind keeps_composes (keeps_count _) fun _ => ?_
  split
  · rename_i hopeless
    have postpones : Obeys (pipeline.Keeps permitted)
        (modify fun session => { session with postponed := session.postponed ++ [call] }) := by
      refine keeps_modify fun session => ⟨rfl, rfl, ?_, fun _ _ _ none => nomatch none⟩
      intro givenUp other member
      rcases List.mem_append.mp member with earlier | last
      · exact givenUp other earlier
      · exact List.mem_singleton.mp last ▸ patient.trans hopeless
    refine obeys_bind keeps_composes postpones fun _ => ?_
    refine obeys_bind keeps_composes (keeps_time _ _) fun _ => ?_
    exact obeys_bind keeps_composes (keeps_count _) fun _ => obeys_pure keeps_composes _
  · refine obeys_bind keeps_composes keeps_beginPostponed fun _ => ?_
    refine obeys_bind keeps_composes (keeps_ask permits) fun reply => ?_
    refine obeys_bind keeps_composes (keeps_wait _) fun _ => ?_
    refine obeys_bind keeps_composes (keeps_time _ _) fun _ => ?_
    split
    · exact obeys_bind keeps_composes (keeps_count _) fun _ => obeys_pure keeps_composes _
    · exact obeys_pure keeps_composes _

theorem keeps_startSearch (call : Search.Call) :
    Obeys (pipeline.Keeps permitted) (startSearch call) := by
  intro before contacts reply after runs
  obtain ⟨rfl, rfl⟩ := runs_startSearch_iff.mp runs
  refine ⟨rfl, rfl, id, ?_⟩
  intro _ other given member
  cases List.mem_singleton.mp member

theorem keeps_present (timezone : Option String) :
    Obeys (pipeline.Keeps permitted) (pipeline.present timezone) :=
  obeys_bind keeps_composes (obeys_get keeps_composes) fun _ => obeys_pure keeps_composes _

theorem keeps_normalize (now : Calendar.Instant) (answer : String) :
    Obeys (pipeline.Keeps permitted) (pipeline.normalize now answer) := by
  unfold normalize
  dsimp only
  split
  · exact obeys_bind keeps_composes (keeps_count _) fun _ => obeys_pure keeps_composes _
  · exact obeys_pure keeps_composes _

theorem keeps_summarize
    (permits : ∀ call, call.instructions = some summaryInstructions → permitted call)
    (request : Request) (response : Search.Response) :
    Obeys (pipeline.Keeps permitted) (pipeline.summarize request response) := by
  unfold summarize
  split
  · exact obeys_pure keeps_composes _
  · refine obeys_bind keeps_composes (keeps_enter _) fun _ => ?_
    refine obeys_bind keeps_composes
      (keeps_askWithin (permits _ rfl) (patience_of_summary rfl)) fun outcome => ?_
    split
    · exact obeys_pure keeps_composes _
    · exact obeys_bind keeps_composes (keeps_count _) fun _ => obeys_pure keeps_composes _

end Activity

namespace Operation

open Activity (keeps_time keeps_wait keeps_present keeps_normalize keeps_summarize)

theorem keeps_enter (stage : Stage) : Obeys (pipeline.Keeps permitted) (liftM (enter stage)) :=
  obeys_lift keeps_composes (Activity.keeps_enter stage)

theorem keeps_count (counter : Counter) :
    Obeys (pipeline.Keeps permitted) (liftM (count counter)) :=
  obeys_lift keeps_composes (Activity.keeps_count counter)

theorem keeps_reject (cause : ValidationError) :
    Obeys (pipeline.Keeps permitted) (reject cause : Operation α) :=
  obeys_bind keeps_composes (keeps_count _) fun _ => obeys_throw keeps_composes _

theorem keeps_recordingFailure {operation : Operation α}
    (keeps : Obeys (pipeline.Keeps permitted) operation) :
    Obeys (pipeline.Keeps permitted) (recordingFailure operation) := by
  refine obeys_tryCatch keeps_composes keeps fun error => ?_
  exact obeys_bind keeps_composes (keeps_enter _) fun _ => obeys_throw keeps_composes _

theorem closed_keeps : pipeline.Closed (Obeys (pipeline.Keeps permitted)) where
  pure := obeys_pure keeps_composes
  bind := obeys_bind keeps_composes
  recordingFailure := keeps_recordingFailure
  reject cause _ := keeps_reject cause
  schemaless _ := obeys_throw keeps_composes _
  session := obeys_lift keeps_composes (Activity.obeys_get keeps_composes)
  enter := keeps_enter
  time kind millis := obeys_lift keeps_composes (keeps_time kind millis)
  present timezone := obeys_lift keeps_composes (keeps_present timezone)

theorem waiting_keeps : pipeline.Waiting (Obeys (pipeline.Keeps permitted)) where
  toClosed := closed_keeps
  wait millis := obeys_lift keeps_composes (keeps_wait millis)
  countError := keeps_count _
  fail _ := obeys_throw keeps_composes _

theorem keeps_reason
    (permits : ∀ call, call.instructions = some intentInstructions → permitted call)
    (request : Request) (prompt : String) :
    Obeys (pipeline.Keeps permitted) (pipeline.reason request prompt) := by
  have asks : Activity.Obeys (pipeline.Keeps permitted)
      (askWithin pipeline.settings.reasoning.timeoutMillis
        ⟨prompt, some intentInstructions, request.rateLimitKey⟩) :=
    Activity.keeps_askWithin (permits _ rfl) (patience_of_intent rfl)
  refine obeys_bind keeps_composes (obeys_lift keeps_composes asks) fun outcome => ?_
  split
  · exact obeys_pure keeps_composes _
  · exact obeys_throw keeps_composes _

theorem keeps_refine
    (permits : ∀ call, call.instructions = some intentInstructions → permitted call)
    (request : Request) (feedback : String) (earlier : GeneratedQuery) :
    Obeys (pipeline.Keeps permitted) (pipeline.refine request feedback earlier) := by
  refine closed_keeps.refine request feedback earlier fun schema prompt now => ?_
  refine obeys_bind keeps_composes (keeps_reason permits request _) fun answer => ?_
  refine obeys_bind keeps_composes (keeps_enter _) fun _ => ?_
  refine obeys_bind keeps_composes
    (obeys_lift keeps_composes (keeps_normalize now answer)) fun intent => ?_
  exact closed_keeps.compileIntent request schema intent

theorem keeps_startExecution (query : GeneratedQuery) :
    Obeys (pipeline.Keeps permitted) (pipeline.startExecution query) := by
  refine obeys_bind keeps_composes (closed_keeps.checkExecutable query) fun _ => ?_
  refine obeys_bind keeps_composes (keeps_enter _) fun _ => ?_
  refine obeys_bind keeps_composes (keeps_count _) fun _ => ?_
  exact obeys_lift keeps_composes (Activity.keeps_startSearch _)

theorem keeps_run
    (permits : ∀ call, call.instructions = some summaryInstructions → permitted call)
    (request : Request) (query : GeneratedQuery) :
    Obeys (pipeline.Keeps permitted) (pipeline.run request query) := by
  refine closed_keeps.run request query (waiting_keeps.execute keeps_startExecution query) ?_
  exact fun response => obeys_lift keeps_composes (keeps_summarize permits request response)

/-- The tasks that do not compile a question, and do not move the time, keep the cache. -/
theorem keeps_perform (permits : ∀ call, permitted call) {task : Task}
    (others : ∀ request, task ≠ .compile request ∧ task ≠ .answer request)
    (still : ∀ millis, task ≠ .advance millis) :
    Obeys (pipeline.Keeps permitted) (pipeline.perform task) := by
  cases task with
  | compile request => exact absurd rfl (others request).1
  | answer request => exact absurd rfl (others request).2
  | refine request feedback earlier =>
    exact obeys_map _ (keeps_refine (fun call _ => permits call) request feedback earlier)
  | execute query => exact obeys_map _ (waiting_keeps.execute keeps_startExecution query)
  | executeAll branches =>
    exact obeys_map _ (waiting_keeps.executeAll keeps_startExecution branches)
  | summarize request response =>
    exact obeys_map _ (obeys_lift keeps_composes
      (keeps_summarize (fun call _ => permits call) request response))
  | advance millis => exact absurd rfl (still millis)

end Operation

end AnalystQuery.Pipeline
