import AnalystQuery.Pipeline.Task
import AnalystQuery.Proofs.Pipeline.Runs

/-! Operations that are over at once. In every session they give the same outcome and put the same
events on record: they make no call, and what a session remembers is neither read nor written.
Checks are of this kind, and so is every operation that a check refuses. -/

namespace AnalystQuery.Pipeline

variable {α β : Type}

def Session.noted (session : Session) (events : List Event) : Session :=
  { session with journal := session.journal ++ events }

theorem Session.noted_nil (session : Session) : session.noted [] = session := by
  rw [noted, List.append_nil]

theorem Session.noted_noted (session : Session) (events more : List Event) :
    (session.noted events).noted more = session.noted (events ++ more) := by
  simp only [noted, List.append_assoc]

def securityError? (pipeline : Pipeline) (query : GeneratedQuery) : Option ValidationError :=
  let violations := Query.violations pipeline.settings.pipeline.topLevelKeys query.envelope
  if violations.isEmpty then none else some (.unsafeQuery violations)

def fieldsError? (pipeline : Pipeline) (schema : Schema) (query : GeneratedQuery) :
    Option ValidationError :=
  let unknown := Query.unknownFields query.envelope schema
  if !unknown.isEmpty && pipeline.settings.pipeline.strictSchema then some (.unknownFields unknown)
  else none

/-- Why a query may not be executed. -/
def executionError? (pipeline : Pipeline) (query : GeneratedQuery) : Option ValidationError :=
  if pipeline.settings.pipeline.executes query.index then pipeline.securityError? query
  else some (.notExecutable query.index)

namespace Operation

/-- The operation gives this outcome in every session, and does nothing but put the same events on
record. -/
def Immediate (operation : Operation α) (outcome : Except Error α) : Prop :=
  ∃ events, ∀ session : Session,
    operation.run.run session = .done (outcome, session.noted events)

variable {operation : Operation α} {outcome : Except Error α}

theorem Immediate.runs_iff (immediate : Immediate operation outcome) :
    ∃ events, ∀ {before after : Session} {contacts : List Contact} {result : Except Error α},
      operation.Runs before contacts result after ↔
        contacts = [] ∧ result = outcome ∧ after = before.noted events := by
  obtain ⟨events, done⟩ := immediate
  refine ⟨events, fun {before after contacts result} => ?_⟩
  rw [Runs, Activity.Runs, done, Plan.runs_done_iff, Prod.mk.injEq]

theorem immediate_pure (value : α) : Immediate (pure value) (.ok value) :=
  ⟨[], fun session => by rw [session.noted_nil]; rfl⟩

theorem immediate_throw (error : Error) : Immediate (throw error : Operation α) (.error error) :=
  ⟨[], fun session => by rw [session.noted_nil]; rfl⟩

theorem Immediate.fail {continuation : α → Operation β} {error : Error}
    (first : Immediate operation (.error error)) :
    Immediate (operation >>= continuation) (.error error) := by
  obtain ⟨events, done⟩ := first
  refine ⟨events, fun session => ?_⟩
  change Plan.andThen (operation.run.run session) _ = _
  rw [done]
  rfl

theorem Immediate.fail_reading {continuation : Session → α → Operation β} {error : Error}
    (first : Immediate operation (.error error)) :
    Immediate (do
      let session ← get
      let value ← operation
      continuation session value) (.error error) := by
  obtain ⟨events, done⟩ := first
  refine ⟨events, fun session => ?_⟩
  change Plan.andThen (operation.run.run session) _ = _
  rw [done]
  rfl

theorem Immediate.next {continuation : α → Operation β} {value : α} {result : Except Error β}
    (first : Immediate operation (.ok value)) (later : Immediate (continuation value) result) :
    Immediate (operation >>= continuation) result := by
  obtain ⟨events, done⟩ := first
  obtain ⟨more, finished⟩ := later
  refine ⟨events ++ more, fun session => ?_⟩
  change Plan.andThen (operation.run.run session) _ = _
  rw [done]
  refine (finished _).trans ?_
  rw [Session.noted_noted]

theorem Immediate.bind {continuation : α → Operation β} {result : α → Except Error β}
    (first : Immediate operation outcome)
    (later : ∀ value, Immediate (continuation value) (result value)) :
    Immediate (operation >>= continuation) (outcome.bind result) := by
  cases outcome with
  | error error => exact first.fail
  | ok value => exact first.next (later value)

theorem Immediate.map (change : α → β) (immediate : Immediate operation outcome) :
    Immediate (change <$> operation) (outcome.map change) := by
  obtain ⟨events, done⟩ := immediate
  refine ⟨events, fun session => ?_⟩
  change Plan.andThen (operation.run.run session) _ = _
  rw [done]
  cases outcome <;> rfl

theorem Immediate.recording (event : Event) {continuation : Unit → Operation α}
    (later : Immediate (continuation ()) outcome) :
    Immediate (liftM (record event) >>= continuation) outcome := by
  obtain ⟨events, done⟩ := later
  refine ⟨event :: events, fun session => ?_⟩
  refine (done (session.noted [event])).trans ?_
  rw [Session.noted_noted]
  rfl

theorem Immediate.recordingFailure (immediate : Immediate operation outcome) :
    Immediate (recordingFailure operation) outcome := by
  obtain ⟨events, done⟩ := immediate
  cases outcome with
  | ok value =>
    refine ⟨events, fun session => ?_⟩
    change Plan.andThen (operation.run.run session) _ = _
    rw [done]
    rfl
  | error error =>
    refine ⟨events ++ [.entered .error], fun session => ?_⟩
    change Plan.andThen (operation.run.run session) _ = _
    rw [done, ← Session.noted_noted]
    rfl

theorem Immediate.timing (kind : Timing) (immediate : Immediate operation outcome) :
    Immediate (timing kind operation) outcome := by
  obtain ⟨events, done⟩ := immediate
  refine ⟨events ++ [.timed kind 0], fun session => ?_⟩
  change Plan.andThen (operation.run.run session) _ = _
  rw [done, ← Session.noted_noted, ← Nat.sub_self session.waited]
  rfl

/-- What a check gives, which fails for this reason if there is one. -/
def judgement (refusal? : Option ValidationError) : Except Error Unit :=
  match refusal? with
  | some cause => .error (.validation cause)
  | none => .ok ()

theorem eq_none_of_judgement {refusal? : Option ValidationError}
    (passed : judgement refusal? = .ok ()) : refusal? = none := by
  cases refusal? with
  | none => rfl
  | some cause => cases passed

theorem immediate_forM {items : List α} {body : α → Operation Unit}
    {refusal? : α → Option ValidationError}
    (each : ∀ item, Immediate (body item) (judgement (refusal? item))) :
    Immediate (items.forM body) (judgement (items.findSome? refusal?)) := by
  induction items with
  | nil => exact immediate_pure ()
  | cons item rest ih =>
    have whole := (each item).bind fun _ => ih
    rw [List.findSome?_cons]
    cases refused : refusal? item with
    | none => rwa [refused] at whole
    | some cause => rwa [refused] at whole

theorem immediate_forM_ok {items : List α} {body : α → Operation Unit}
    (each : ∀ item, Immediate (body item) (.ok ())) : Immediate (items.forM body) (.ok ()) := by
  have whole : Immediate (items.forM body) (judgement (items.findSome? fun _ => none)) :=
    immediate_forM each
  rwa [List.findSome?_eq_none_iff.mpr fun _ _ => rfl] at whole

theorem immediate_reject (cause : ValidationError) :
    Immediate (reject cause : Operation α) (.error (.validation cause)) :=
  (immediate_throw _).recording _

theorem immediate_checkRequest (pipeline : Pipeline) (request : Request) (execute : Bool) :
    Immediate (pipeline.checkRequest request execute)
      (judgement (pipeline.requestError? request execute)) := by
  unfold checkRequest
  cases pipeline.requestError? request execute with
  | some cause => exact immediate_reject cause
  | none => exact immediate_pure ()

theorem immediate_requireSchema (pipeline : Pipeline) (index : String) :
    Immediate (pipeline.requireSchema index)
      (match pipeline.schema? index with
        | some schema => .ok schema
        | none => .error (.validation (.missingSchema index))) := by
  unfold requireSchema
  cases pipeline.schema? index with
  | some schema => exact immediate_pure schema
  | none => exact immediate_throw _

theorem immediate_checkSecurity (pipeline : Pipeline) (query : GeneratedQuery) :
    Immediate (pipeline.checkSecurity query) (judgement (pipeline.securityError? query)) := by
  unfold checkSecurity securityError?
  refine Immediate.recording _ ?_
  cases Query.violations pipeline.settings.pipeline.topLevelKeys query.envelope with
  | nil => exact immediate_pure ()
  | cons first others => exact immediate_reject _

theorem immediate_checkFields (pipeline : Pipeline) (schema : Schema) (query : GeneratedQuery) :
    Immediate (pipeline.checkFields schema query)
      (judgement (pipeline.fieldsError? schema query)) := by
  unfold checkFields fieldsError?
  refine Immediate.recording _ ?_
  dsimp only
  split
  · exact immediate_reject _
  · exact immediate_pure ()

theorem immediate_checkExecutable (pipeline : Pipeline) (query : GeneratedQuery) :
    Immediate (pipeline.checkExecutable query) (judgement (pipeline.executionError? query)) := by
  unfold checkExecutable executionError?
  cases pipeline.settings.pipeline.executes query.index with
  | true => exact immediate_checkSecurity pipeline query
  | false =>
    have refuses : Immediate (reject (.notExecutable query.index) : Operation Unit) _ :=
      immediate_reject _
    exact refuses.fail

end Operation

end AnalystQuery.Pipeline
