import AnalystQuery.Proofs.Pipeline.Batches
import AnalystQuery.Proofs.Pipeline.CacheHits

/-! What the metrics of a session stand for. Whatever was done in a session, every counter of calls
is the number of calls of its kind. The counter of refusals misses those for want of a schema, and
no others. -/

namespace AnalystQuery.Pipeline

open Operation (Runs Tallied Kept)
open Prompt (intentInstructions summaryInstructions)

variable {pipeline : Pipeline} {counter : Counter} {before after session : Session}
  {contacts : List Contact} {steps : List Step}

theorem count_metricsOf (journal : List Event) (counter : Counter) :
    (metricsOf journal).count counter = countOf journal counter % Metrics.countLimit := by
  induction journal using List.reverseRecOn with
  | nil => rfl
  | append_singleton journal event ih =>
    rw [metricsOf, List.foldl_append, List.foldl_cons, List.foldl_nil, ← metricsOf, countOf_append]
    cases event with
    | entered stage => exact ih
    | timed timing millis => exact ih
    | counted other =>
      rw [countOf_counted, addEvent, Metrics.increase]
      dsimp only
      split
      · rw [ih, Nat.mod_add_mod]
      · exact ih

/-- How many calls of the search engine return a failure in a task. -/
def errorsOf (task : Task) (contacts : List Contact) : Nat :=
  match task with
  | .executeAll branches =>
    errorsReturned (decide (promptBranches < branches.length)) (repliesOf contacts)
  | _ => (repliesOf contacts).countP fails

def Step.adds (pipeline : Pipeline) (counter : Counter) (step : Step) : Nat :=
  if counter = .executionErrors then errorsOf step.task step.contacts
  else step.contacts.countP (pipeline.counts counter (replyCounts counter)) +
    refusals counter step.outcome

theorem errorsOf_of_ne {task : Task} (single : ∀ branches, task ≠ .executeAll branches)
    (contacts : List Contact) : errorsOf task contacts = (repliesOf contacts).countP fails := by
  cases task with
  | executeAll branches => exact absurd rfl (single branches)
  | compile | answer | refine | execute | summarize | advance => rfl

theorem heardCounts_executionErrors (call : Reasoning.Call)
    (heard : Except ReasoningError String) : heardCounts .executionErrors call heard = false := by
  cases heard <;> rfl

theorem countP_errors (found : Search.Reply → Bool) (contacts : List Contact) :
    contacts.countP (pipeline.counts .executionErrors found) =
      (repliesOf contacts).countP found := by
  induction contacts with
  | nil => rfl
  | cons contact rest ih =>
    cases contact with
    | asked call reply =>
      rw [List.countP_cons, ih, counts, heardCounts_executionErrors]
      rfl
    | searched call reply =>
      have replies : repliesOf (.searched call reply :: rest) = reply :: repliesOf rest := rfl
      rw [List.countP_cons, ih, replies, List.countP_cons]
      rfl

theorem refusals_of_ne {α : Type} (other : counter ≠ .validationFailures)
    (outcome : Except Error α) : refusals counter outcome = 0 := by
  cases outcome with
  | ok value => rfl
  | error error => exact if_neg fun both => other both.1

theorem perform_adds (kept : Kept counter) {task : Task} {outcome : Except Error Result}
    (runs : Runs (pipeline.perform task) before contacts outcome after)
    (givenUp : pipeline.GivenUp before) (time : Nat) :
    pipeline.GivenUp after ∧
      countOf after.journal counter + before.postponed.countP (pending counter) =
        countOf before.journal counter +
          Step.adds pipeline counter ⟨task, time, contacts, outcome⟩ +
            after.postponed.countP (pending counter) := by
  -- Only the failures of a batch do not follow from the replies one by one.
  by_cases failures : counter = .executionErrors
  · subst failures
    rw [Step.adds, if_pos rfl]
    by_cases batch : ∃ branches, task = .executeAll branches
    · obtain ⟨branches, rfl⟩ := batch
      obtain ⟨findings, -, executes⟩ := Operation.runs_map_iff.mp runs
      have tallies := Operation.tallies_executeAll executes givenUp
      have balance := tallies.balance
      have none : (repliesOf contacts).countP (fun _ => false) = 0 :=
        List.countP_eq_zero.mpr fun _ _ => Bool.false_ne_true
      rw [countP_errors, none] at balance
      refine ⟨tallies.givenUp, ?_⟩
      dsimp only [errorsOf]
      omega
    · have single (branches : List Branch) : task ≠ .executeAll branches :=
        fun same => batch ⟨branches, same⟩
      have tallies := (Operation.hereditary_tallied kept).perform task
        (fun branches same => absurd same (single branches)) _ _ _ _ runs givenUp
      have balance := tallies.balance
      rw [countP_errors, refusals_of_ne (by decide)] at balance
      refine ⟨tallies.givenUp, ?_⟩
      dsimp only
      rw [errorsOf_of_ne single]
      exact balance
  · have tallies := (Operation.hereditary_tallied kept).perform task
      (fun branches _ => Operation.tallied_executeAll failures branches) _ _ _ _ runs givenUp
    have balance := tallies.balance
    refine ⟨tallies.givenUp, ?_⟩
    rw [Step.adds, if_neg failures]
    dsimp only
    omega

theorem History.balance (kept : Kept counter) (history : pipeline.History steps session) :
    pipeline.GivenUp session ∧ countOf session.journal counter =
      (steps.map (Step.adds pipeline counter)).sum +
        session.postponed.countP (pending counter) := by
  induction history with
  | fresh cacheEnabled => exact ⟨List.forall_mem_nil _, rfl⟩
  | @step steps before after task contacts outcome earlier performs ih =>
    obtain ⟨givenUp, balance⟩ := ih
    obtain ⟨abandoned, adds⟩ := perform_adds kept performs givenUp before.elapsed
    refine ⟨abandoned, ?_⟩
    rw [List.map_append, List.sum_append, List.map_singleton, List.sum_singleton]
    omega

def contactsOf (steps : List Step) : List Contact := steps.flatMap (·.contacts)

/-- A call for a summary of which no words were heard. -/
def isWordless (pipeline : Pipeline) : Contact → Bool
  | .asked call reply => call.instructions = some summaryInstructions &&
    silent (reply.within pipeline.settings.reasoning.summaryTimeoutMillis)
  | .searched _ _ => false

def Step.isRefused (step : Step) : Bool :=
  match step.outcome with
  | .error (.validation _) => true
  | _ => false

/-- A step that is refused because its index has no schema. -/
def Step.lacksSchema (step : Step) : Bool :=
  match step.outcome with
  | .error (.validation (.missingSchema _)) => true
  | _ => false

theorem refusals_add_lacksSchema (step : Step) :
    refusals .validationFailures step.outcome + (if step.lacksSchema then 1 else 0) =
      if step.isRefused then 1 else 0 := by
  rw [Step.lacksSchema, Step.isRefused]
  cases step.outcome with
  | ok result => rfl
  | error error =>
    cases error with
    | validation cause => cases cause <;> rfl
    | _ => rfl

theorem sum_adds (others : counter ≠ .executionErrors) (calls : counter ≠ .validationFailures)
    (steps : List Step) :
    (steps.map (Step.adds pipeline counter)).sum =
      (contactsOf steps).countP (pipeline.counts counter (replyCounts counter)) := by
  rw [contactsOf, List.countP_flatMap]
  refine congrArg List.sum (List.map_congr_left fun step _ => ?_)
  rw [Step.adds, if_neg others, refusals_of_ne calls]
  rfl

/-- The counters of calls, after these steps. Calls that were given up before they began are
counted, and still postponed in the session. -/
structure CallsAccounted (pipeline : Pipeline) (steps : List Step) (session : Session) : Prop where
  exported : ∀ counter,
    (metricsOf session.journal).count counter = countOf session.journal counter % Metrics.countLimit
  reasoningCalls : countOf session.journal .reasoningCalls =
    ((contactsOf steps).filterMap Contact.call? ++ session.postponed).length
  executions : countOf session.journal .executions =
    ((contactsOf steps).filterMap Contact.search?).length
  executionErrors : countOf session.journal .executionErrors =
    (steps.map fun step => errorsOf step.task step.contacts).sum
  parseDegradations : countOf session.journal .parseDegradations =
    ((contactsOf steps).filterMap pipeline.heard?).countP unreadable
  summaryFallbacks : countOf session.journal .summaryFallbacks =
    (contactsOf steps).countP pipeline.isWordless +
      session.postponed.countP (·.instructions = some summaryInstructions)

theorem counts_reasoningCalls (contact : Contact) :
    pipeline.counts .reasoningCalls (replyCounts .reasoningCalls) contact =
      contact.call?.isSome := by
  cases contact <;> rfl

theorem counts_executions (contact : Contact) :
    pipeline.counts .executions (replyCounts .executions) contact = contact.search?.isSome := by
  cases contact with
  | asked call reply => rw [counts]; cases reply.within _ <;> rfl
  | searched call reply => rfl

theorem counts_parseDegradations (contact : Contact) :
    pipeline.counts .parseDegradations (replyCounts .parseDegradations) contact =
      ((pipeline.heard? contact).map unreadable).getD false := by
  cases contact with
  | searched call reply => rfl
  | asked call reply =>
    rw [counts, heard?]
    by_cases intent : call.instructions = some intentInstructions
    · rw [patience_of_intent intent, if_pos intent]
      cases reply.within _ <;> simp [heardCounts, intent, Except.toOption]
    · rw [if_neg intent]
      cases reply.within _ <;> simp [heardCounts, intent]

theorem counts_summaryFallbacks (contact : Contact) :
    pipeline.counts .summaryFallbacks (replyCounts .summaryFallbacks) contact =
      pipeline.isWordless contact := by
  cases contact with
  | searched call reply => rfl
  | asked call reply =>
    rw [counts, isWordless]
    by_cases summary : call.instructions = some summaryInstructions
    · rw [patience_of_summary summary]
      cases reply.within _ <;> simp [heardCounts]
    · cases reply.within _ <;> simp [heardCounts, summary]

-- Nothing of the kind can happen to a call that is given up.
theorem countP_pending_eq_zero (never : ∀ call, pending counter call = false)
    (calls : List Reasoning.Call) : calls.countP (pending counter) = 0 := by
  rw [List.countP_eq_zero]
  intro call member
  simp [never call]

theorem History.callsAccounted (history : pipeline.History steps session) :
    pipeline.CallsAccounted steps session := by
  have balance {counter : Counter} (kept : Kept counter) := (history.balance kept).2
  refine ⟨count_metricsOf _, ?_, ?_, ?_, ?_, ?_⟩
  · rw [balance (by constructor <;> decide), sum_adds (by decide) (by decide), List.length_append,
      List.length_filterMap_eq_countP, funext counts_reasoningCalls, ← List.countP_true]
    rfl
  · rw [balance (by constructor <;> decide), sum_adds (by decide) (by decide),
      List.length_filterMap_eq_countP, funext counts_executions,
      countP_pending_eq_zero fun _ => rfl, Nat.add_zero]
  · rw [balance (by constructor <;> decide), countP_pending_eq_zero fun _ => rfl, Nat.add_zero]
    rfl
  · rw [balance (by constructor <;> decide), sum_adds (by decide) (by decide),
      List.countP_filterMap, funext counts_parseDegradations,
      countP_pending_eq_zero fun _ => rfl, Nat.add_zero]
  · have given : pending .summaryFallbacks =
        fun call => decide (call.instructions = some summaryInstructions) :=
      funext fun call => Bool.and_true _
    rw [balance (by constructor <;> decide), sum_adds (by decide) (by decide),
      funext counts_summaryFallbacks, given]

theorem adds_validationFailures (step : Step) :
    Step.adds pipeline .validationFailures step + (if step.lacksSchema then 1 else 0) =
      if step.isRefused then 1 else 0 := by
  have none : step.contacts.countP
      (pipeline.counts .validationFailures (replyCounts .validationFailures)) = 0 := by
    rw [List.countP_eq_zero]
    intro contact member
    cases contact with
    | asked call reply => rw [counts]; cases reply.within _ <;> simp [heardCounts]
    | searched call reply => simp [counts, replyCounts]
  rw [Step.adds, if_neg (by decide), none, Nat.zero_add]
  exact refusals_add_lacksSchema step

theorem sum_adds_validationFailures (steps : List Step) :
    (steps.map (Step.adds pipeline .validationFailures)).sum + steps.countP Step.lacksSchema =
      steps.countP Step.isRefused := by
  induction steps with
  | nil => rfl
  | cons step rest ih =>
    have first : Step.adds pipeline .validationFailures step + _ = _ := adds_validationFailures step
    rw [List.map_cons, List.sum_cons, List.countP_cons, List.countP_cons, ← ih, ← first]
    omega

theorem History.refusals_balance (history : pipeline.History steps session) :
    countOf session.journal .validationFailures + steps.countP Step.lacksSchema =
      steps.countP Step.isRefused := by
  have kept : Kept .validationFailures := by constructor <;> decide
  rw [(history.balance kept).2, countP_pending_eq_zero fun _ => rfl, Nat.add_zero]
  exact sum_adds_validationFailures steps

/-- In every session the counters of calls are the numbers of calls. The counter of refusals is the
number of steps that were refused exactly if no step was refused for want of a schema. -/
theorem events_accounted_iff (history : pipeline.History steps session) :
    pipeline.CallsAccounted steps session ∧
      (countOf session.journal .validationFailures = steps.countP Step.isRefused ↔
        ∀ step ∈ steps, step.lacksSchema = false) := by
  refine ⟨history.callsAccounted, ?_⟩
  have balance := history.refusals_balance
  have schemas : steps.countP Step.lacksSchema = 0 ↔ ∀ step ∈ steps, step.lacksSchema = false := by
    simp only [List.countP_eq_zero, Bool.not_eq_true]
  rw [← schemas]
  omega

private def helpDesk : Pipeline :=
  ⟨{ Settings.default with
    pipeline := { Settings.default.pipeline with
      allowedIndexes := ["communications", "tickets"] } }, Schema.builtIn, .origin⟩

private def allTickets : Request := .ask "all tickets" "tickets"

private def openMail : GeneratedQuery :=
  ⟨"communications", .object [("query", .object [("match_all", .object [])])], "",
    .plain .search .zero⟩

theorem failed_search_accounted :
    ∃ contacts outcome after,
      helpDesk.History [⟨.execute openMail, 0, contacts, outcome⟩] after ∧
      (∀ contact ∈ contacts, contact.Follows (fun _ => ⟨0, .error .emptyResponse⟩)
        fun _ => ⟨70, .error (.timeout 0)⟩) ∧
      helpDesk.CallsAccounted [⟨.execute openMail, 0, contacts, outcome⟩] after ∧
      countOf after.journal .executions = 1 ∧ countOf after.journal .executionErrors = 1 ∧
      countOf after.journal .validationFailures = 0 := by
  obtain ⟨contacts, outcome, after, runs, follow⟩ :=
    Operation.exists_runs (helpDesk.perform (.execute openMail)) (.fresh true)
      (fun _ => ⟨0, .error .emptyResponse⟩) fun _ => ⟨70, .error (.timeout 0)⟩
  have history : helpDesk.History [⟨.execute openMail, 0, contacts, outcome⟩] after :=
    (History.fresh true).step runs
  obtain ⟨calls, refusals⟩ := events_accounted_iff history
  obtain ⟨executed, rfl, executes⟩ := Operation.runs_map_iff.mp runs
  obtain ⟨reply, begun, rfl, catches, rfl⟩ :=
    Operation.runs_execute (by decide +kernel) executes
  obtain ⟨rfl, -⟩ := catches.of_nil
  obtain rfl : reply = ⟨70, .error (.timeout 0)⟩ := follow _ List.mem_cons_self
  refine ⟨_, _, after, history, follow, calls, calls.executions, calls.executionErrors, ?_⟩
  exact refusals.mpr (List.forall_mem_singleton.mpr rfl)

/-- A request for an index that is allowed and has no schema is refused, and not counted. -/
theorem missing_schema_uncounted :
    ∃ step after, step.task = .compile allTickets ∧ helpDesk.History [step] after ∧
      [step].countP Step.isRefused = 1 ∧ countOf after.journal .validationFailures = 0 := by
  have refusal : helpDesk.refusal? allTickets =
      some (.validation (.missingSchema "tickets")) := by decide +kernel
  obtain ⟨contacts, outcome, after, runs, -⟩ :=
    Operation.exists_runs (helpDesk.perform (.compile allTickets)) (.fresh true)
      (fun _ => ⟨0, .error .emptyResponse⟩) fun _ => ⟨0, .error (.timeout 0)⟩
  obtain ⟨compiled, rfl, compiles⟩ := Operation.runs_map_iff.mp runs
  obtain ⟨-, rfl, -⟩ := (Operation.immediate_compile refusal).runs compiles
  have history : helpDesk.History [⟨.compile allTickets, 0, contacts,
      .error (.validation (.missingSchema "tickets"))⟩] after := (History.fresh true).step runs
  have balance : _ + 1 = 1 := history.refusals_balance
  exact ⟨_, after, rfl, history, rfl, Nat.succ.inj balance⟩

end AnalystQuery.Pipeline
