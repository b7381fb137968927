import AnalystQuery.Pipeline.Report
import AnalystQuery.Proofs.Pipeline.Branches
import AnalystQuery.Proofs.Pipeline.Hereditary

/-! What is counted, and for which event. A call of the language model is counted for itself and for
what is heard of it, a call of the search engine for itself and for its failure, and an operation
for its refusal. Calls that are given up are counted before they begin, so those that are still
postponed are part of the sum. -/

namespace AnalystQuery.Pipeline

open Operation (Runs Immediate)
open Prompt (intentInstructions summaryInstructions)

variable {α β : Type} {pipeline : Pipeline} {counter : Counter} {found : Search.Reply → Bool}
  {before between after : Session} {contacts : List Contact}

theorem countOf_append (first second : List Event) (counter : Counter) :
    countOf (first ++ second) counter = countOf first counter + countOf second counter :=
  List.countP_append

theorem countOf_counted (event counter : Counter) :
    countOf [.counted event] counter = if counter = event then 1 else 0 := by
  rw [countOf, List.countP_singleton]
  by_cases same : counter = event
  · subst same
    simp
  · simp [same, Ne.symm same]

def unreadable (answer : String) : Bool :=
  match Intent.readObject answer with
  | .ok _ => false
  | .error _ => true

def silent (heard : Except ReasoningError String) : Bool :=
  ((heard.toOption.map Text.trim).filter (· != "")).isNone

/-- Whether a call of the language model is counted, where this is heard of it. -/
def heardCounts : Counter → Reasoning.Call → Except ReasoningError String → Bool
  | .reasoningCalls, _, _ => true
  | .parseDegradations, call, .ok answer =>
    call.instructions = some intentInstructions && unreadable answer
  | .summaryFallbacks, call, heard =>
    call.instructions = some summaryInstructions && silent heard
  | _, _, _ => false

/-- Whether a call of the search engine is counted, where this is replied. -/
def replyCounts : Counter → Search.Reply → Bool
  | .executions, _ => true
  | .executionErrors, reply => fails reply
  | _, _ => false

def counts (pipeline : Pipeline) (counter : Counter) (found : Search.Reply → Bool) :
    Contact → Bool
  | .asked call reply => heardCounts counter call (reply.within (pipeline.patience call))
  | .searched _ reply => found reply

/-- Whether a call is counted when it is given up. -/
def pending (counter : Counter) (call : Reasoning.Call) : Bool :=
  heardCounts counter call (.error (.timeout 0))

/-- An operation that fails so is counted as refused. A request for an index without a schema is
refused, and not counted. -/
def isCounted : Error → Bool
  | .validation (.missingSchema _) => false
  | .validation _ => true
  | _ => false

/-- How often an operation that ends so is counted for that. -/
def refusals (counter : Counter) : Except Error α → Nat
  | .ok _ => 0
  | .error error => if counter = .validationFailures ∧ isCounted error then 1 else 0

theorem refusals_map (counter : Counter) (change : α → β) (outcome : Except Error α) :
    refusals counter (outcome.map change) = refusals counter outcome := by
  cases outcome <;> rfl

/-- The counter grows by the contacts that are counted and by so much more. -/
structure Tallies (pipeline : Pipeline) (counter : Counter) (found : Search.Reply → Bool)
    (before : Session) (contacts : List Contact) (after : Session) (more : Nat) : Prop where
  givenUp : pipeline.GivenUp after
  balance : countOf after.journal counter + before.postponed.countP (pending counter) =
    countOf before.journal counter + contacts.countP (pipeline.counts counter found) +
      after.postponed.countP (pending counter) + more

theorem Tallies.join {others : List Contact} {more rest : Nat}
    (early : pipeline.Tallies counter found before contacts between more)
    (late : pipeline.Tallies counter found between others after rest) :
    pipeline.Tallies counter found before (contacts ++ others) after (more + rest) := by
  refine ⟨late.givenUp, ?_⟩
  have first := early.balance
  have second := late.balance
  rw [List.countP_append]
  omega

theorem Tallies.next {others : List Contact} {more : Nat}
    (early : pipeline.Tallies counter found before contacts between 0)
    (late : pipeline.Tallies counter found between others after more) :
    pipeline.Tallies counter found before (contacts ++ others) after more := by
  have whole := early.join late
  rwa [Nat.zero_add] at whole

theorem tallies_noted (givenUp : pipeline.GivenUp before) (events : List Event) :
    pipeline.Tallies counter found before [] (before.noted events) (countOf events counter) := by
  refine ⟨givenUp, ?_⟩
  rw [Session.noted, countOf_append, List.countP_nil]
  dsimp only
  omega

theorem tallies_entered (givenUp : pipeline.GivenUp before) (stage : Stage) :
    pipeline.Tallies counter found before [] (before.noting (.entered stage)) 0 :=
  tallies_noted givenUp [.entered stage]

theorem tallies_counted (givenUp : pipeline.GivenUp before) (event : Counter) :
    pipeline.Tallies counter found before [] (before.noting (.counted event))
      (countOf [.counted event] counter) :=
  tallies_noted givenUp [.counted event]

theorem Begun.balance {calls : List Reasoning.Call} (begun : Begun calls contacts)
    (givenUp : ∀ call ∈ calls, pipeline.patience call = 0) (counter : Counter)
    (found : Search.Reply → Bool) :
    contacts.countP (pipeline.counts counter found) = calls.countP (pending counter) := by
  induction begun with
  | nil => rfl
  | @cons call contact calls contacts first rest ih =>
    obtain ⟨reply, rfl⟩ := first
    obtain ⟨impatient, others⟩ := List.forall_mem_cons.mp givenUp
    -- Nobody waits for the answer, so the reply makes no difference.
    have unheard : pipeline.counts counter found (.asked call reply) = pending counter call := by
      rw [counts, impatient]
      rfl
    rw [List.countP_cons, List.countP_cons, ih others, unheard]

theorem Catches.balance {postponed left : List Reasoning.Call}
    (catches : Catches postponed contacts left)
    (givenUp : ∀ call ∈ postponed, pipeline.patience call = 0) (counter : Counter)
    (found : Search.Reply → Bool) :
    (∀ call ∈ left, pipeline.patience call = 0) ∧
      contacts.countP (pipeline.counts counter found) + left.countP (pending counter) =
        postponed.countP (pending counter) := by
  cases catches with
  | none => exact ⟨givenUp, Nat.zero_add _⟩
  | all begun => exact ⟨List.forall_mem_nil _, by rw [begun.balance givenUp]; rfl⟩

theorem Asks.balance {call : Reasoning.Call} {postponed left : List Reasoning.Call}
    {heard : Except ReasoningError String}
    (asks : Asks (pipeline.patience call) call postponed contacts heard left)
    (givenUp : ∀ other ∈ postponed, pipeline.patience other = 0) (counter : Counter)
    (found : Search.Reply → Bool) :
    contacts.countP (pipeline.counts counter found) + left.countP (pending counter) =
      postponed.countP (pending counter) + (heardCounts counter call heard).toNat := by
  cases asks with
  | givenUp timeless =>
    rw [List.countP_append, List.countP_singleton, List.countP_nil, Nat.zero_add, pending]
    cases heardCounts counter call (.error (.timeout 0)) <;> rfl
  | made reply hopeful begun =>
    rw [List.countP_append, begun.balance givenUp, List.countP_singleton, List.countP_nil,
      Nat.add_zero, counts]
    cases heardCounts counter call (reply.within (pipeline.patience call)) <;> rfl

namespace Operation

open Activity (runs_modify_iff)

/-- In every run the counter grows by what the contacts and the outcome account for. -/
def Tallied (pipeline : Pipeline) (counter : Counter) (found : Search.Reply → Bool)
    (operation : Operation α) : Prop :=
  ∀ before contacts outcome after, operation.Runs before contacts outcome after →
    pipeline.GivenUp before →
      pipeline.Tallies counter found before contacts after (refusals counter outcome)

theorem tallied_pure (value : α) : Tallied pipeline counter found (pure value) := by
  intro before contacts outcome after runs givenUp
  obtain ⟨rfl, rfl, rfl⟩ := runs_pure_iff.mp runs
  exact ⟨givenUp, rfl⟩

theorem Tallied.bind {operation : Operation α} {continuation : α → Operation β}
    (tallied : Tallied pipeline counter found operation)
    (later : ∀ value, Tallied pipeline counter found (continuation value)) :
    Tallied pipeline counter found (operation >>= continuation) := by
  intro before contacts outcome after runs givenUp
  rcases runs_bind_iff.mp runs with ⟨error, rfl, fails⟩ |
      ⟨first, second, value, between, rfl, early, late⟩
  · exact tallied _ _ _ _ fails givenUp
  · have first := tallied _ _ _ _ early givenUp
    exact first.next (later value _ _ _ _ late first.givenUp)

theorem Tallied.map {operation : Operation α} (change : α → β)
    (tallied : Tallied pipeline counter found operation) :
    Tallied pipeline counter found (change <$> operation) := by
  intro before contacts outcome after runs givenUp
  obtain ⟨inner, rfl, within⟩ := runs_map_iff.mp runs
  rw [refusals_map]
  exact tallied _ _ _ _ within givenUp

theorem tallied_throw {error : Error} (uncounted : isCounted error = false) :
    Tallied pipeline counter found (throw error : Operation α) := by
  intro before contacts outcome after runs givenUp
  obtain ⟨rfl, rfl, rfl⟩ := runs_throw_iff.mp runs
  refine ⟨givenUp, ?_⟩
  rw [refusals, if_neg (by simp [uncounted])]
  rfl

theorem tallied_quiet {activity : Activity α}
    (quiet : ∀ before contacts value after, activity.Runs before contacts value after →
      contacts = [] ∧ after.postponed = before.postponed ∧
        countOf after.journal counter = countOf before.journal counter) :
    Tallied pipeline counter found (liftM activity) := by
  intro before contacts outcome after runs givenUp
  obtain ⟨value, rfl, within⟩ := runs_lift_iff.mp runs
  obtain ⟨rfl, postponed, same⟩ := quiet _ _ _ _ within
  refine ⟨fun call member => givenUp call (postponed ▸ member), ?_⟩
  rw [postponed, same]
  rfl

theorem tallied_record {event : Event} (uncounted : countOf [event] counter = 0) :
    Tallied pipeline counter found (liftM (record event)) := by
  refine tallied_quiet fun before contacts value after runs => ?_
  obtain ⟨rfl, rfl⟩ := runs_modify_iff.mp runs
  refine ⟨rfl, rfl, ?_⟩
  rw [countOf_append, uncounted, Nat.add_zero]

theorem tallied_modify {change : Session → Session}
    (postponed : ∀ session, (change session).postponed = session.postponed)
    (journal : ∀ session, (change session).journal = session.journal) :
    Tallied pipeline counter found (liftM (modify change : Activity Unit)) := by
  refine tallied_quiet fun before contacts value after runs => ?_
  obtain ⟨rfl, rfl⟩ := runs_modify_iff.mp runs
  exact ⟨rfl, postponed before, by rw [journal]⟩

theorem tallied_count {other : Counter} (different : counter ≠ other) :
    Tallied pipeline counter found (liftM (count other)) :=
  tallied_record (by rw [countOf_counted, if_neg different])

theorem tallied_reject {cause : ValidationError}
    (described : ∀ index, cause ≠ .missingSchema index) :
    Tallied pipeline counter found (reject cause : Operation α) := by
  intro before contacts outcome after runs givenUp
  obtain ⟨rfl, rfl, rfl⟩ := runs_throw_iff.mp (runs_count_bind_iff.mp runs)
  have counted : isCounted (.validation cause) = true := by
    cases cause with
    | missingSchema index => exact absurd rfl (described index)
    | unknownIndex | notExecutable | emptyQuery | unsafeQuery | unknownFields => rfl
  have more : countOf [.counted .validationFailures] counter =
      refusals counter (.error (.validation cause) : Except Error α) := by
    simp [countOf_counted, refusals, counted]
  rw [← more]
  exact tallies_noted givenUp _

theorem tallied_recordingFailure {operation : Operation α}
    (tallied : Tallied pipeline counter found operation) :
    Tallied pipeline counter found (recordingFailure operation) := by
  intro before contacts outcome after runs givenUp
  rcases runs_tryCatch_iff.mp runs with ⟨value, rfl, passed⟩ |
      ⟨first, second, error, between, rfl, failed, rest⟩
  · exact tallied _ _ _ _ passed givenUp
  · obtain ⟨rfl, rfl, rfl⟩ := runs_throw_iff.mp (runs_enter_bind_iff.mp rest)
    have first := tallied _ _ _ _ failed givenUp
    exact first.join (tallies_noted first.givenUp [.entered .error])

theorem tallied_timing (kind : Timing) {operation : Operation α}
    (tallied : Tallied pipeline counter found operation) :
    Tallied pipeline counter found (timing kind operation) := by
  intro before contacts outcome after runs givenUp
  obtain ⟨between, millis, operates, rfl⟩ := runs_timing runs
  have first := tallied _ _ _ _ operates givenUp
  have whole := first.join (tallies_noted first.givenUp [.timed kind millis])
  rwa [List.append_nil] at whole

theorem closed_tallied : pipeline.Closed (Tallied pipeline counter found) where
  pure := tallied_pure
  bind := Tallied.bind
  recordingFailure := tallied_recordingFailure
  reject _ := tallied_reject
  schemaless _ := tallied_throw rfl
  session := tallied_quiet fun before contacts value after runs => by
    obtain ⟨rfl, rfl, rfl⟩ := Activity.runs_get_iff.mp runs
    exact ⟨rfl, rfl, rfl⟩
  enter _ := tallied_record rfl
  time _ _ := tallied_record rfl
  present timezone := tallied_quiet fun before contacts value after runs => by
    obtain ⟨rfl, same⟩ := Plan.runs_done_iff.mp runs
    obtain ⟨rfl, rfl⟩ := Prod.mk.inj same
    exact ⟨rfl, rfl, rfl⟩

theorem tallied_remembered? (hits : counter ≠ .cacheHits) (misses : counter ≠ .cacheMisses)
    (key : String) : Tallied pipeline counter found (liftM (remembered? key)) := by
  refine tallied_quiet fun before contacts value after runs => ?_
  obtain ⟨_, _, _, _, rfl, reads, looking⟩ := Activity.runs_bind_iff.mp runs
  obtain ⟨rfl, rfl, rfl⟩ := Activity.runs_get_iff.mp reads
  split at looking
  · obtain ⟨rfl, same⟩ := Plan.runs_done_iff.mp looking
    obtain ⟨rfl, rfl⟩ := Prod.mk.inj same
    refine ⟨rfl, rfl, ?_⟩
    rw [countOf_append, countOf_counted, if_neg]
    · rfl
    · split
      · exact hits
      · exact misses
  · obtain ⟨rfl, rfl, rfl⟩ := Activity.runs_pure_iff.mp looking
    exact ⟨rfl, rfl, rfl⟩

end Operation

namespace Activity

theorem journal_wait {millis : Nat} {nothing : Unit}
    (runs : Runs (wait millis) before contacts nothing after) :
    after.journal = before.journal := by
  unfold wait at runs
  split at runs
  · obtain ⟨_, _, _, _, rfl, begins, waits⟩ := runs_bind_iff.mp runs
    obtain ⟨rfl, rfl⟩ := runs_modify_iff.mp waits
    obtain ⟨rfl, -⟩ := runs_beginPostponed begins
    rfl
  · obtain ⟨rfl, rfl⟩ := runs_modify_iff.mp runs
    rfl

theorem countOf_askWithin {call : Reasoning.Call} {deadline : Nat}
    {heard : Except ReasoningError String} (timely : counter ≠ .reasoningTimeouts)
    (runs : Runs (askWithin deadline call) before contacts heard after) :
    countOf after.journal counter =
      countOf before.journal counter + countOf [.counted .reasoningCalls] counter := by
  have late : countOf [.counted .reasoningTimeouts] counter = 0 := by
    rw [countOf_counted, if_neg timely]
  have timed (millis : Nat) : countOf [.timed .reasoning millis] counter = 0 := rfl
  unfold askWithin at runs
  obtain ⟨_, _, _, _, rfl, counts, body⟩ := runs_bind_iff.mp runs
  obtain ⟨rfl, rfl⟩ := runs_modify_iff.mp counts
  split at body
  · obtain ⟨rfl, same⟩ := Plan.runs_done_iff.mp body
    obtain ⟨rfl, rfl⟩ := Prod.mk.inj same
    simp only [countOf_append, late, timed, Nat.add_zero]
  · obtain ⟨_, _, _, _, rfl, begins, asking⟩ := runs_bind_iff.mp body
    obtain ⟨rfl, -⟩ := runs_beginPostponed begins
    obtain ⟨_, _, reply, _, rfl, asks, waiting⟩ := runs_bind_iff.mp asking
    obtain ⟨rfl, rfl⟩ := runs_ask_iff.mp asks
    obtain ⟨_, _, _, waited, rfl, waits, settling⟩ := runs_bind_iff.mp waiting
    have same := journal_wait waits
    dsimp only at same
    split at settling
    · obtain ⟨rfl, done⟩ := Plan.runs_done_iff.mp settling
      obtain ⟨rfl, rfl⟩ := Prod.mk.inj done
      simp only [countOf_append, same, late, timed, Nat.add_zero]
    · obtain ⟨rfl, done⟩ := Plan.runs_done_iff.mp settling
      obtain ⟨rfl, rfl⟩ := Prod.mk.inj done
      simp only [countOf_append, same, timed, Nat.add_zero]

theorem balance_askWithin {call : Reasoning.Call} {deadline : Nat}
    {heard : Except ReasoningError String} (timely : counter ≠ .reasoningTimeouts)
    (patient : pipeline.patience call = deadline)
    (runs : Runs (askWithin deadline call) before contacts heard after)
    (givenUp : pipeline.GivenUp before) (found : Search.Reply → Bool) :
    pipeline.GivenUp after ∧
      countOf after.journal counter + before.postponed.countP (pending counter) +
          (heardCounts counter call heard).toNat =
        countOf before.journal counter + contacts.countP (pipeline.counts counter found) +
          after.postponed.countP (pending counter) +
            countOf [.counted .reasoningCalls] counter := by
  have asks := asks_askWithin runs
  rw [← patient] at asks
  refine ⟨asks.impatient givenUp, ?_⟩
  -- What is heard belongs to the balance at once, and is counted by what follows the call.
  have balance := asks.balance givenUp counter found
  have grows := countOf_askWithin timely runs
  omega

theorem balance_wait {millis : Nat} {nothing : Unit}
    (runs : Runs (wait millis) before contacts nothing after) (givenUp : pipeline.GivenUp before) :
    pipeline.Tallies counter found before contacts after 0 := by
  obtain ⟨abandoned, balance⟩ := (catches_wait runs).balance givenUp counter found
  refine ⟨abandoned, ?_⟩
  rw [journal_wait runs, ← balance]
  omega

end Activity

theorem toNat_eq_ite (holds : Bool) : holds.toNat = if holds then 1 else 0 := by
  cases holds <;> rfl

/-- How often what is heard of a question is counted: an answer that cannot be read is. -/
def degradations (counter : Counter) : Except ReasoningError String → Nat
  | .ok answer => if counter = .parseDegradations ∧ unreadable answer then 1 else 0
  | .error _ => 0

theorem heardCounts_of_intent {call : Reasoning.Call}
    (intent : call.instructions = some intentInstructions) (counter : Counter)
    (heard : Except ReasoningError String) :
    (heardCounts counter call heard).toNat =
      countOf [.counted .reasoningCalls] counter + degradations counter heard := by
  have apart := summaryInstructions_ne.symm
  rw [countOf_counted]
  cases counter <;> cases heard <;> simp [heardCounts, degradations, intent, apart, toNat_eq_ite]

theorem isDegraded_normalize (confidences : Intent.Confidences) (now : Calendar.Instant)
    (answer : String) :
    (Intent.normalize confidences now answer).isDegraded = unreadable answer := by
  rw [Intent.normalize, unreadable]
  cases Intent.readObject answer <;> rfl

theorem tallies_normalize {now : Calendar.Instant} {answer : String} {intent : Intent}
    (runs : (pipeline.normalize now answer).Runs before contacts intent after)
    (givenUp : pipeline.GivenUp before) (counter : Counter) (found : Search.Reply → Bool) :
    contacts = [] ∧
      pipeline.Tallies counter found before [] after (degradations counter (.ok answer)) := by
  unfold normalize at runs
  dsimp only at runs
  rw [isDegraded_normalize] at runs
  split at runs
  · rename_i degraded
    obtain ⟨rfl, same⟩ := Plan.runs_done_iff.mp runs
    obtain ⟨-, rfl⟩ := Prod.mk.inj same
    have more : degradations counter (.ok answer) =
        countOf [.counted .parseDegradations] counter := by
      simp only [degradations, countOf_counted, degraded, and_true]
    rw [more]
    exact ⟨rfl, tallies_noted givenUp _⟩
  · rename_i readable
    obtain ⟨rfl, -, rfl⟩ := Activity.runs_pure_iff.mp runs
    have none : degradations counter (.ok answer) = 0 := if_neg fun both => readable both.2
    rw [none]
    exact ⟨rfl, givenUp, rfl⟩

namespace Operation

theorem balance_reason (timely : counter ≠ .reasoningTimeouts) {request : Request} {prompt : String}
    {outcome : Except Error String}
    (runs : Runs (pipeline.reason request prompt) before contacts outcome after)
    (givenUp : pipeline.GivenUp before) (found : Search.Reply → Bool) :
    ∃ heard : Except ReasoningError String, outcome = heard.mapError .reasoning ∧
      pipeline.GivenUp after ∧
      countOf after.journal counter + before.postponed.countP (pending counter) +
          degradations counter heard =
        countOf before.journal counter + contacts.countP (pipeline.counts counter found) +
          after.postponed.countP (pending counter) := by
  obtain ⟨first, second, heard, asked, rfl, asks, ends⟩ := runs_lift_bind_iff.mp runs
  have finished : second = [] ∧ outcome = heard.mapError .reasoning ∧ after = asked := by
    cases heard with
    | ok text => exact runs_pure_iff.mp ends
    | error cause => exact runs_throw_iff.mp ends
  obtain ⟨rfl, rfl, rfl⟩ := finished
  obtain ⟨abandoned, balance⟩ :=
    Activity.balance_askWithin timely (patience_of_intent rfl) asks givenUp found
  rw [heardCounts_of_intent rfl] at balance
  rw [List.append_nil]
  exact ⟨heard, rfl, abandoned, by omega⟩

theorem tallied_reading (timely : counter ≠ .reasoningTimeouts) (request : Request)
    (prompt : String) (now : Calendar.Instant) {continuation : Intent → Operation β}
    (later : ∀ intent, Tallied pipeline counter found (continuation intent)) :
    Tallied pipeline counter found (do
      let answer ← pipeline.reason request prompt
      enter .normalizing
      let intent ← pipeline.normalize now answer
      continuation intent) := by
  intro before contacts outcome after runs givenUp
  rcases runs_bind_iff.mp runs with ⟨error, rfl, fails⟩ |
      ⟨first, second, answer, answered, rfl, answers, normalizing⟩
  · obtain ⟨heard, same, abandoned, balance⟩ := balance_reason timely fails givenUp found
    obtain ⟨cause, rfl, rfl⟩ := eq_error_of_mapError same.symm
    rw [refusals, if_neg (by simp [isCounted])]
    exact ⟨abandoned, balance⟩
  · obtain ⟨heard, same, abandoned, balance⟩ := balance_reason timely answers givenUp found
    obtain rfl := eq_ok_of_mapError same.symm
    obtain ⟨_, rest, intent, normalized, rfl, normalizes, continues⟩ :=
      runs_lift_bind_iff.mp (runs_enter_bind_iff.mp normalizing)
    have entered : pipeline.Tallies counter found answered [] _ 0 :=
      tallies_entered abandoned .normalizing
    obtain ⟨rfl, reads⟩ := tallies_normalize normalizes entered.givenUp counter found
    -- The degradation is owed since the answer came, and is counted now.
    have early : pipeline.Tallies counter found before first normalized 0 := by
      refine ⟨reads.givenUp, ?_⟩
      have settles := (entered.join reads).balance
      rw [List.append_nil, List.countP_nil] at settles
      omega
    exact early.next (later intent _ _ _ _ continues reads.givenUp)

end Operation

theorem heardCounts_of_summary {call : Reasoning.Call}
    (summary : call.instructions = some summaryInstructions) (counter : Counter)
    (heard : Except ReasoningError String) :
    (heardCounts counter call heard).toNat = countOf [.counted .reasoningCalls] counter +
      if silent heard then countOf [.counted .summaryFallbacks] counter else 0 := by
  have apart := summaryInstructions_ne
  simp only [countOf_counted]
  cases counter <;> cases heard <;> simp [heardCounts, summary, apart, toNat_eq_ite]

theorem tallies_summarize (timely : counter ≠ .reasoningTimeouts) {request : Request}
    {response : Search.Response} {summary : String}
    (runs : (pipeline.summarize request response).Runs before contacts summary after)
    (givenUp : pipeline.GivenUp before) :
    pipeline.Tallies counter found before contacts after 0 := by
  unfold summarize at runs
  split at runs
  · obtain ⟨rfl, -, rfl⟩ := Activity.runs_pure_iff.mp runs
    exact ⟨givenUp, rfl⟩
  · obtain ⟨_, _, _, _, rfl, enters, asking⟩ := Activity.runs_bind_iff.mp runs
    obtain ⟨rfl, rfl⟩ := Activity.runs_modify_iff.mp enters
    obtain ⟨first, second, heard, asked, rfl, asks, settling⟩ := Activity.runs_bind_iff.mp asking
    have entered : pipeline.Tallies counter found before [] (before.noting _) 0 :=
      tallies_entered givenUp .summarizing
    have posed : (askWithin _ _).Runs (before.noting _) first heard asked := asks
    obtain ⟨abandoned, balance⟩ := Activity.balance_askWithin timely
      (patience_of_summary rfl) posed entered.givenUp found
    rw [heardCounts_of_summary rfl] at balance
    have falls : pipeline.Tallies counter found asked second after
        (if silent heard then countOf [.counted .summaryFallbacks] counter else 0) := by
      split at settling
      · rename_i text said
        obtain ⟨rfl, -, rfl⟩ := Activity.runs_pure_iff.mp settling
        rw [if_neg (by simp [silent, said])]
        exact ⟨abandoned, rfl⟩
      · rename_i none
        obtain ⟨rfl, same⟩ := Plan.runs_done_iff.mp settling
        obtain ⟨-, rfl⟩ := Prod.mk.inj same
        rw [if_pos (by simp [silent, none])]
        exact tallies_noted abandoned _
    refine ⟨falls.givenUp, ?_⟩
    have early := entered.balance
    have late := falls.balance
    rw [List.countP_nil] at early
    rw [List.nil_append, List.countP_append]
    omega

namespace Operation

theorem tallies_startExecution {query : GeneratedQuery}
    {outcome : Except Error Search.Reply}
    (runs : Runs (pipeline.startExecution query) before contacts outcome after)
    (givenUp : pipeline.GivenUp before) (counter : Counter) (found : Search.Reply → Bool) :
    (∃ error, outcome = .error error ∧ contacts = [] ∧
        pipeline.Tallies counter found before [] after (refusals counter outcome)) ∨
      ∃ reply, outcome = .ok reply ∧ contacts = [.searched (searchCall query) reply] ∧
        pipeline.Tallies counter found before [] after
          (countOf [.counted .executions] counter) := by
  obtain ⟨events, immediate⟩ := (immediate_checkExecutable pipeline query).runs_iff
  rcases runs_bind_iff.mp runs with ⟨error, rfl, fails⟩ |
      ⟨first, second, _, checked, rfl, passes, starting⟩
  · obtain ⟨rfl, -, -⟩ := immediate.mp fails
    exact Or.inl ⟨error, rfl, rfl, closed_tallied.checkExecutable query _ _ _ _ fails givenUp⟩
  · obtain ⟨rfl, -, -⟩ := immediate.mp passes
    have early : pipeline.Tallies counter found before [] checked 0 :=
      closed_tallied.checkExecutable query _ _ _ _ passes givenUp
    obtain ⟨reply, rfl, searches⟩ :=
      runs_lift_iff.mp (runs_count_bind_iff.mp (runs_enter_bind_iff.mp starting))
    obtain ⟨rfl, rfl⟩ := Activity.runs_startSearch_iff.mp searches
    have entered := early.next (tallies_entered early.givenUp .executing)
    exact Or.inr ⟨reply, rfl, rfl, entered.next (tallies_counted entered.givenUp .executions)⟩

theorem tallies_settle {reply : Search.Reply} {outcome : Except Error Search.Response}
    (runs : Runs (settle reply) before contacts outcome after)
    (givenUp : pipeline.GivenUp before) (found : Search.Reply → Bool) :
    pipeline.Tallies counter found before contacts after (refusals counter outcome +
      if fails reply then countOf [.counted .executionErrors] counter else 0) := by
  obtain ⟨begun, _, _, waited, rfl, waits, timing⟩ := runs_lift_bind_iff.mp runs
  obtain ⟨_, last, _, _, rfl, times, settling⟩ := runs_lift_bind_iff.mp timing
  obtain ⟨rfl, rfl⟩ := Activity.runs_modify_iff.mp times
  have early : pipeline.Tallies counter found before begun waited 0 :=
    Activity.balance_wait waits givenUp
  have timed : pipeline.Tallies counter found waited [] _ 0 :=
    tallies_noted early.givenUp [.timed .execution reply.delay]
  refine early.next (timed.next ?_)
  cases given : reply.outcome with
  | ok response =>
    rw [given] at settling
    obtain ⟨rfl, rfl, rfl⟩ := runs_pure_iff.mp settling
    rw [if_neg (by simp [fails, given])]
    exact ⟨timed.givenUp, rfl⟩
  | error cause =>
    rw [given] at settling
    obtain ⟨rfl, rfl, rfl⟩ := runs_throw_iff.mp (runs_count_bind_iff.mp settling)
    rw [if_pos (by simp [fails, given]), refusals, if_neg (by simp [isCounted]), Nat.zero_add]
    exact tallies_counted timed.givenUp .executionErrors

theorem tallied_execute (query : GeneratedQuery) :
    Tallied pipeline counter (replyCounts counter) (pipeline.execute query) := by
  intro before contacts outcome after runs givenUp
  rcases runs_bind_iff.mp runs with ⟨error, rfl, refused⟩ |
      ⟨first, begun, reply, started, rfl, starts, settles⟩
  · rcases tallies_startExecution refused givenUp counter (replyCounts counter) with
      ⟨error, same, rfl, tallies⟩ | ⟨reply, same, -⟩
    · cases same
      exact tallies
    · cases same
  · rcases tallies_startExecution starts givenUp counter (replyCounts counter) with
      ⟨error, same, -⟩ | ⟨_, same, rfl, early⟩
    · cases same
    obtain rfl := Except.ok.inj same
    have whole := early.join (tallies_settle settles early.givenUp _)
    refine ⟨whole.givenUp, ?_⟩
    have balance := whole.balance
    have searched : [Contact.searched (searchCall query) reply].countP
        (pipeline.counts counter (replyCounts counter)) = countOf [.counted .executions] counter +
          if fails reply then countOf [.counted .executionErrors] counter else 0 := by
      simp only [countOf_counted, List.countP_singleton, counts]
      cases counter <;> cases failed : fails reply <;> simp [replyCounts, failed]
    rw [List.countP_append, searched]
    rw [List.nil_append] at balance
    omega

/-- The counter is none of those of requests, of lookups in the cache and of late answers. -/
structure Kept (counter : Counter) : Prop where
  compiles : counter ≠ .compileRequests
  hits : counter ≠ .cacheHits
  misses : counter ≠ .cacheMisses
  timeouts : counter ≠ .reasoningTimeouts

theorem hereditary_tallied (kept : Kept counter) :
    pipeline.Hereditary (Tallied pipeline counter (replyCounts counter)) where
  toClosed := closed_tallied
  map := Tallied.map
  timing := tallied_timing
  compileRequest := tallied_count kept.compiles
  remembered? := tallied_remembered? kept.hits kept.misses
  remember _ _ := tallied_modify (fun _ => rfl) fun _ => rfl
  advance millis := by
    have advances : Tallied pipeline counter (replyCounts counter)
        (liftM (modify fun session => session.advance millis : Activity Unit)) :=
      tallied_modify (fun _ => rfl) fun _ => rfl
    exact advances.bind fun _ => tallied_pure _
  reading request prompt now _ := tallied_reading kept.timeouts request prompt now
  execute := tallied_execute
  summarize request response := by
    intro before contacts outcome after runs givenUp
    obtain ⟨summary, rfl, sums⟩ := runs_lift_iff.mp runs
    exact tallies_summarize kept.timeouts sums givenUp

end Operation

end AnalystQuery.Pipeline
