import AnalystQuery.Proofs.Pipeline.CallBudget
import AnalystQuery.Proofs.Pipeline.Hereditary

/-! Plans that do not look at late replies. Whatever a reply says that comes after the deadline of
its call, what is done next is the same, so late replies can be exchanged for others. All tasks are
of this kind. -/

namespace AnalystQuery.Pipeline

open Reasoning (Reply)

variable {α β : Type} {patience : Reasoning.Call → Nat} {pipeline : Pipeline}

/-- Wherever the language model is asked, every reply that is late for its call has the same
consequences. -/
def Plan.Blind (patience : Reasoning.Call → Nat) : Plan α → Prop
  | .done _ => True
  | .ask call next =>
    (∀ reply other : Reply, reply.isLate (patience call) → other.isLate (patience call) →
      next reply = next other) ∧ ∀ reply, (next reply).Blind patience
  | .search _ next => ∀ reply, (next reply).Blind patience

theorem Plan.Blind.andThen {plan : Plan α} {continuation : α → Plan β}
    (blind : plan.Blind patience) (later : ∀ value, (continuation value).Blind patience) :
    (plan.andThen continuation).Blind patience := by
  induction plan with
  | done value => exact later value
  | ask call next ih =>
    refine ⟨fun reply other late lateToo => ?_, fun reply => ih reply (blind.2 reply)⟩
    exact congrArg (Plan.andThen · continuation) (blind.1 reply other late lateToo)
  | search call next ih => exact fun reply => ih reply (blind reply)

/-- The calls of a run, without the replies. -/
def Contact.issued : Contact → Reasoning.Call ⊕ Search.Call
  | .asked call _ => .inl call
  | .searched call _ => .inr call

def Contact.asked? : Contact → Option (Reasoning.Call × Reply)
  | .asked call reply => some (call, reply)
  | .searched _ _ => none

/-- The language model replies the same, but to calls for which both replies are late. The search
engine replies the same. -/
structure AlikeButLate (patience : Reasoning.Call → Nat) (contacts others : List Contact) :
    Prop where
  asked : ∀ pair ∈ (contacts.filterMap Contact.asked?).zip (others.filterMap Contact.asked?),
    pair.2.2 = pair.1.2 ∨
      pair.1.2.isLate (patience pair.1.1) ∧ pair.2.2.isLate (patience pair.2.1)
  searched : ∀ pair ∈ (contacts.filterMap Contact.search?).zip (others.filterMap Contact.search?),
    pair.2.2 = pair.1.2

theorem Plan.Blind.runs_eq {plan : Plan α} {contacts others : List Contact} {value other : α}
    (blind : plan.Blind patience) (runs : plan.Runs contacts value)
    (also : plan.Runs others other) (alike : AlikeButLate patience contacts others) :
    other = value ∧ others.map Contact.issued = contacts.map Contact.issued := by
  induction plan generalizing contacts others with
  | done result =>
    obtain ⟨rfl, rfl⟩ := Plan.runs_done_iff.mp runs
    obtain ⟨rfl, rfl⟩ := Plan.runs_done_iff.mp also
    exact ⟨rfl, rfl⟩
  | ask call next ih =>
    cases runs with
    | ask _ _ reply later =>
      cases also with
      | ask _ _ answer laterToo =>
        obtain ⟨asked, searched⟩ := alike
        obtain ⟨first, rest⟩ := List.forall_mem_cons.mp asked
        have same : next answer = next reply := by
          rcases first with same | ⟨late, lateToo⟩
          · exact congrArg next same
          · exact blind.1 answer reply lateToo late
        obtain ⟨equal, issued⟩ := ih reply (blind.2 reply) later (same ▸ laterToo) ⟨rest, searched⟩
        exact ⟨equal, congrArg (_ :: ·) issued⟩
  | search call next ih =>
    cases runs with
    | search _ _ reply later =>
      cases also with
      | search _ _ answer laterToo =>
        obtain ⟨asked, searched⟩ := alike
        obtain ⟨same, rest⟩ := List.forall_mem_cons.mp searched
        obtain rfl : answer = reply := same
        obtain ⟨equal, issued⟩ := ih answer (blind answer) later laterToo ⟨asked, rest⟩
        exact ⟨equal, congrArg (_ :: ·) issued⟩

/-- Replies are exchanged, those that are late for others that are late too. -/
structure Exchanges (patience : Reasoning.Call → Nat)
    (exchange : Reasoning.Call → Reply → Reply) : Prop where
  early : ∀ call reply, reply.isLate (patience call) = false → exchange call reply = reply
  late : ∀ call reply, reply.isLate (patience call) →
    (exchange call reply).isLate (patience call)

def Contact.exchanged (exchange : Reasoning.Call → Reply → Reply) : Contact → Contact
  | .asked call reply => .asked call (exchange call reply)
  | .searched call reply => .searched call reply

section Exchanged

variable {exchange : Reasoning.Call → Reply → Reply} (exchanges : Exchanges patience exchange)
include exchanges

/-- Late replies might have been any others. -/
theorem Plan.Blind.runs_exchanged {plan : Plan α} {contacts : List Contact} {value : α}
    (blind : plan.Blind patience) (runs : plan.Runs contacts value) :
    plan.Runs (contacts.map (Contact.exchanged exchange)) value := by
  induction runs with
  | done value => exact .done value
  | ask call next reply later ih =>
    refine .ask call next (exchange call reply) ?_
    cases late : reply.isLate (patience call) with
    | false =>
      rw [exchanges.early call reply late]
      exact ih (blind.2 reply)
    | true =>
      rw [blind.1 _ reply (exchanges.late call reply late) late]
      exact ih (blind.2 reply)
  | search call next reply later ih => exact .search call next reply (ih (blind reply))

theorem alikeButLate_exchanged (contacts : List Contact) :
    AlikeButLate patience contacts (contacts.map (Contact.exchanged exchange)) := by
  induction contacts with
  | nil => exact ⟨List.forall_mem_nil _, List.forall_mem_nil _⟩
  | cons contact rest ih =>
    cases contact with
    | asked call reply =>
      refine ⟨List.forall_mem_cons.mpr ⟨?_, ih.asked⟩, ih.searched⟩
      cases late : reply.isLate (patience call) with
      | false => exact Or.inl (exchanges.early call reply late)
      | true => exact Or.inr ⟨rfl, exchanges.late call reply late⟩
    | searched call reply => exact ⟨ih.asked, List.forall_mem_cons.mpr ⟨rfl, ih.searched⟩⟩

end Exchanged

namespace Activity

/-- In every session the plan does not look at late replies. -/
def Blind (patience : Reasoning.Call → Nat) (activity : Activity α) : Prop :=
  ∀ session, Plan.Blind patience (activity.run session)

theorem blind_pure (value : α) : Blind patience (pure value) := fun _ => trivial

theorem Blind.bind {activity : Activity α} {continuation : α → Activity β}
    (blind : activity.Blind patience) (later : ∀ value, (continuation value).Blind patience) :
    (activity >>= continuation).Blind patience :=
  fun session => (blind session).andThen fun outcome => later outcome.1 outcome.2

theorem blind_modify (change : Session → Session) : Blind patience (modify change) :=
  fun _ => trivial

/-- What is done with a reply may depend on it unless it is late. -/
theorem blind_ask_bind {call : Reasoning.Call} {continuation : Reply → Activity β}
    (late : ∀ reply other : Reply, reply.isLate (patience call) → other.isLate (patience call) →
      continuation reply = continuation other)
    (later : ∀ reply, (continuation reply).Blind patience) :
    (ask call >>= continuation).Blind patience := by
  refine fun session => ⟨fun reply other isLate isLateToo => ?_, fun reply => later reply session⟩
  exact congrArg (fun activity : Activity β => activity.run session)
    (late reply other isLate isLateToo)

theorem blind_beginPostponed : Blind patience beginPostponed := by
  refine Blind.bind (fun _ => trivial) fun session => ?_
  refine (blind_modify _).bind fun _ => ?_
  induction session.postponed with
  | nil => exact blind_pure _
  | cons call rest ih =>
    exact Blind.bind (blind_ask_bind (fun _ _ _ _ => rfl) fun _ => blind_pure _) fun _ => ih

theorem blind_wait (millis : Nat) : Blind patience (wait millis) := by
  unfold wait
  split
  · exact blind_beginPostponed.bind fun _ => blind_modify _
  · exact blind_modify _

theorem blind_askWithin {call : Reasoning.Call} {deadline : Nat}
    (patient : patience call = deadline) : Blind patience (askWithin deadline call) := by
  refine (blind_modify _).bind fun _ => ?_
  split
  · refine (blind_modify _).bind fun _ => ?_
    refine (blind_modify _).bind fun _ => ?_
    exact (blind_modify _).bind fun _ => blind_pure _
  · refine blind_beginPostponed.bind fun _ => ?_
    refine blind_ask_bind (fun reply other late lateToo => ?_) fun reply => ?_
    · -- Both are waited for until the deadline, and then neither is there.
      rw [patient, Reply.isLate, decide_eq_true_eq] at late lateToo
      simp only [Reply.isLate, Reply.within, Nat.min_eq_right late, Nat.min_eq_right lateToo,
        if_neg (Nat.not_lt.mpr late), if_neg (Nat.not_lt.mpr lateToo), late, lateToo]
    · refine (blind_wait _).bind fun _ => ?_
      refine (blind_modify _).bind fun _ => ?_
      dsimp only
      split
      · exact (blind_modify _).bind fun _ => blind_pure _
      · exact blind_pure _

theorem blind_startSearch (call : Search.Call) : Blind patience (startSearch call) :=
  fun _ _ => trivial

theorem blind_normalize (now : Calendar.Instant) (answer : String) :
    Blind patience (pipeline.normalize now answer) := by
  unfold normalize
  dsimp only
  split
  · exact (blind_modify _).bind fun _ => blind_pure _
  · exact blind_pure _

theorem blind_remembered? (key : String) : Blind patience (remembered? key) := by
  refine Blind.bind (fun _ => trivial) fun session => ?_
  split
  · exact (blind_modify _).bind fun _ => blind_pure _
  · exact blind_pure _

theorem blind_summarize (request : Request) (response : Search.Response) :
    Blind pipeline.patience (pipeline.summarize request response) := by
  unfold summarize
  split
  · exact blind_pure _
  · refine (blind_modify _).bind fun _ => ?_
    refine (blind_askWithin (patience_of_summary rfl)).bind fun heard => ?_
    split
    · exact blind_pure _
    · exact (blind_modify _).bind fun _ => blind_pure _

end Activity

namespace Operation

open Activity (blind_modify blind_wait blind_askWithin)

def Blind (patience : Reasoning.Call → Nat) (operation : Operation α) : Prop :=
  Activity.Blind patience operation.run

theorem blind_pure (value : α) : Blind patience (pure value : Operation α) :=
  Activity.blind_pure _

theorem blind_throw (error : Error) : Blind patience (throw error : Operation α) :=
  Activity.blind_pure _

theorem blind_lift {activity : Activity α} (blind : activity.Blind patience) :
    Blind patience (activity : Operation α) :=
  blind.bind fun _ => Activity.blind_pure _

theorem Blind.bind {operation : Operation α} {continuation : α → Operation β}
    (blind : operation.Blind patience) (later : ∀ value, (continuation value).Blind patience) :
    (operation >>= continuation).Blind patience := by
  refine Activity.Blind.bind blind fun outcome => ?_
  cases outcome with
  | ok value => exact later value
  | error error => exact Activity.blind_pure _

theorem Blind.map {operation : Operation α} (change : α → β) (blind : operation.Blind patience) :
    (change <$> operation).Blind patience := by
  refine fun session => (blind session).andThen fun outcome => ?_
  obtain ⟨outcome, after⟩ := outcome
  cases outcome <;> exact trivial

theorem Blind.tryCatch {operation : Operation α} {handler : Error → Operation α}
    (blind : operation.Blind patience) (handled : ∀ error, (handler error).Blind patience) :
    Blind patience (tryCatch operation handler) := by
  refine fun session => (blind session).andThen fun outcome => ?_
  obtain ⟨outcome, after⟩ := outcome
  cases outcome with
  | ok value => exact trivial
  | error error => exact handled error after

theorem blind_count (counter : Counter) : Blind patience (liftM (count counter)) :=
  blind_lift (blind_modify _)

theorem blind_reject (cause : ValidationError) : Blind patience (reject cause : Operation α) :=
  (blind_count _).bind fun _ => blind_throw _

theorem blind_timing (kind : Timing) {operation : Operation α}
    (blind : operation.Blind patience) : (timing kind operation).Blind patience := by
  refine Activity.Blind.bind (fun _ => trivial) fun _ => ?_
  refine Activity.Blind.bind blind fun _ => ?_
  refine Activity.Blind.bind (fun _ => trivial) fun _ => ?_
  exact (blind_modify _).bind fun _ => Activity.blind_pure _

theorem blind_reason (request : Request) (prompt : String) :
    Blind pipeline.patience (pipeline.reason request prompt) := by
  refine Blind.bind (blind_lift (blind_askWithin (patience_of_intent rfl))) fun heard => ?_
  split
  · exact blind_pure _
  · exact blind_throw _

theorem waiting_blind (pipeline : Pipeline) (patience : Reasoning.Call → Nat) :
    pipeline.Waiting (Blind patience) where
  pure := blind_pure
  bind := Blind.bind
  recordingFailure blind :=
    blind.tryCatch fun _ => (blind_lift (blind_modify _)).bind fun _ => blind_throw _
  reject cause _ := blind_reject cause
  schemaless _ := blind_throw _
  session := blind_lift fun _ => trivial
  enter _ := blind_lift (blind_modify _)
  time _ _ := blind_lift (blind_modify _)
  present _ := blind_lift fun _ => trivial
  wait _ := blind_lift (blind_wait _)
  countError := blind_count _
  fail _ := blind_throw _

theorem blind_startExecution (query : GeneratedQuery) :
    Blind patience (pipeline.startExecution query) := by
  refine ((waiting_blind pipeline patience).toClosed.checkExecutable query).bind fun _ => ?_
  refine (blind_lift (blind_modify _)).bind fun _ => ?_
  refine (blind_count _).bind fun _ => ?_
  exact blind_lift (Activity.blind_startSearch _)

theorem hereditary_blind (pipeline : Pipeline) :
    pipeline.Hereditary (Blind pipeline.patience) where
  toClosed := (waiting_blind pipeline pipeline.patience).toClosed
  map := Blind.map
  timing := blind_timing
  compileRequest := blind_count _
  remembered? key := blind_lift (Activity.blind_remembered? key)
  remember _ _ := blind_lift (blind_modify _)
  advance _ := blind_lift (blind_modify _) |>.bind fun _ => blind_pure _
  reading request prompt now _ later := by
    refine (blind_reason request prompt).bind fun answer => ?_
    refine (blind_lift (blind_modify _)).bind fun _ => ?_
    exact (blind_lift (Activity.blind_normalize now answer)).bind later
  execute := (waiting_blind pipeline _).execute blind_startExecution
  summarize request response := blind_lift (Activity.blind_summarize request response)

/-- No task looks at a late reply. -/
theorem blind_perform (task : Task) : Blind pipeline.patience (pipeline.perform task) :=
  (hereditary_blind pipeline).perform task fun branches _ =>
    (waiting_blind pipeline _).executeAll blind_startExecution branches

end Operation

theorem Activity.blind_performAll (tasks : List Task) :
    Blind pipeline.patience (pipeline.performAll tasks) := by
  induction tasks with
  | nil => exact blind_pure _
  | cons task rest ih =>
    exact Blind.bind (Operation.blind_perform task) fun _ => ih.bind fun _ => blind_pure _

end AnalystQuery.Pipeline
