import AnalystQuery.Proofs.Pipeline.Calls
import AnalystQuery.Proofs.Pipeline.Hereditary

/-! Which parts of a pipeline make no search call: keeping records, asking the language model,
checking and summarizing. -/

namespace AnalystQuery.Pipeline

variable {α : Type}

namespace Activity

theorem quiet_record (event : Event) : Quiet (record event) := ensures_modify _

theorem quiet_enter (stage : Stage) : Quiet (enter stage) := quiet_record _

theorem quiet_count (counter : Counter) : Quiet (count counter) := quiet_record _

theorem quiet_time (timing : Timing) (millis : Nat) : Quiet (time timing millis) := quiet_record _

theorem quiet_beginPostponed : Quiet beginPostponed := by
  unfold beginPostponed
  refine quiet_bind ensures_get fun session => quiet_bind (ensures_modify _) fun _ => ?_
  exact ensures_forM fun call _ => quiet_bind (ensures_ask call) fun _ => quiet_pure _

theorem quiet_wait (millis : Nat) : Quiet (wait millis) := by
  unfold wait
  refine quiet_ite ?_ (ensures_modify _)
  exact quiet_bind quiet_beginPostponed fun _ => ensures_modify _

theorem quiet_askWithin (deadline : Nat) (call : Reasoning.Call) :
    Quiet (askWithin deadline call) := by
  unfold askWithin
  refine quiet_bind (quiet_count _) fun _ => quiet_ite ?_ ?_
  · refine quiet_bind (ensures_modify _) fun _ => quiet_bind (quiet_time _ _) fun _ => ?_
    exact quiet_bind (quiet_count _) fun _ => quiet_pure _
  · refine quiet_bind quiet_beginPostponed fun _ => quiet_bind (ensures_ask call) fun reply => ?_
    refine quiet_bind (quiet_wait _) fun _ => quiet_bind (quiet_time _ _) fun _ => ?_
    refine quiet_ite ?_ (quiet_pure _)
    exact quiet_bind (quiet_count _) fun _ => quiet_pure _

theorem quiet_present (pipeline : Pipeline) (timezone : Option String) :
    Quiet (pipeline.present timezone) :=
  quiet_bind ensures_get fun _ => quiet_pure _

theorem quiet_remembered? (key : String) : Quiet (remembered? key) := by
  unfold remembered?
  refine quiet_bind ensures_get fun session => quiet_ite ?_ (quiet_pure _)
  exact quiet_bind (quiet_count _) fun _ => quiet_pure _

theorem quiet_remember (pipeline : Pipeline) (key : String) (intent : Intent) :
    Quiet (pipeline.remember key intent) := ensures_modify _

theorem quiet_normalize (pipeline : Pipeline) (now : Calendar.Instant) (answer : String) :
    Quiet (pipeline.normalize now answer) := by
  unfold normalize
  refine quiet_ite ?_ (quiet_pure _)
  exact quiet_bind (quiet_count _) fun _ => quiet_pure _

theorem quiet_summarize (pipeline : Pipeline) (request : Request) (response : Search.Response) :
    Quiet (pipeline.summarize request response) := by
  unfold summarize
  refine quiet_ite (quiet_pure _) ?_
  refine quiet_bind (quiet_enter _) fun _ => quiet_bind (quiet_askWithin _ _) fun outcome => ?_
  split
  · exact quiet_pure _
  · exact quiet_bind (quiet_count _) fun _ => quiet_pure _

end Activity

namespace Operation

open Activity

variable {permitted : Search.Call → Prop} {operation : Operation α} {post : α → Prop}

theorem quiet_enter (stage : Stage) : Quiet (liftM (enter stage)) :=
  quiet_lift (Activity.quiet_enter stage)

theorem quiet_count (counter : Counter) : Quiet (liftM (count counter)) :=
  quiet_lift (Activity.quiet_count counter)

theorem ensures_reject (cause : ValidationError) :
    Ensures permitted (reject cause : Operation α) post := by
  unfold reject
  refine ensures_bind (quiet_count _).ensures fun _ _ => ?_
  exact ensures_throw _

theorem ensures_recordingFailure (ensures : Ensures permitted operation post) :
    Ensures permitted (recordingFailure operation) post := by
  unfold recordingFailure
  refine ensures_tryCatch ensures fun error => ?_
  exact ensures_bind (quiet_enter _).ensures fun _ _ => ensures_throw error

theorem ensures_timing (timed : Timing) (ensures : Ensures permitted operation post) :
    Ensures permitted (timing timed operation) post := by
  refine Activity.ensures_bind ensures_get fun before _ => ?_
  refine Activity.ensures_bind ensures fun outcome holds => ?_
  refine Activity.ensures_bind ensures_get fun after _ => ?_
  refine Activity.ensures_bind (quiet_time _ _).ensures fun _ _ => ?_
  exact Activity.ensures_pure holds

theorem quiet_reason (pipeline : Pipeline) (request : Request) (prompt : String) :
    Quiet (pipeline.reason request prompt) := by
  unfold reason
  refine quiet_bind (quiet_lift (quiet_askWithin _ _)) fun outcome => ?_
  split
  · exact quiet_pure _
  · exact quiet_throw _

theorem ensures_checkSecurity (pipeline : Pipeline) (query : GeneratedQuery) :
    Ensures permitted (pipeline.checkSecurity query) fun _ =>
      Query.violations pipeline.settings.pipeline.topLevelKeys query.envelope = [] := by
  unfold checkSecurity
  refine ensures_bind (quiet_enter _).ensures fun _ _ => ?_
  dsimp only
  split
  · exact ensures_reject _
  · rename_i passed
    exact ensures_pure (by simpa using passed)

def Confined (permitted : Search.Call → Prop) (operation : Operation α) : Prop :=
  Ensures permitted operation fun _ => True

theorem Quiet.confined (quiet : Quiet operation) : Confined permitted operation := quiet.ensures

theorem Confined.bind {β : Type} {continuation : α → Operation β}
    (confined : Confined permitted operation)
    (later : ∀ value, Confined permitted (continuation value)) :
    Confined permitted (operation >>= continuation) :=
  ensures_bind confined fun value _ => later value

theorem waiting_confined (pipeline : Pipeline) (permitted : Search.Call → Prop) :
    pipeline.Waiting (Confined permitted) where
  pure _ := ensures_pure True.intro
  bind := Confined.bind
  recordingFailure := ensures_recordingFailure
  reject cause _ := ensures_reject cause
  schemaless _ := ensures_throw _
  session := ensures_lift ensures_get
  enter stage := (quiet_enter stage).confined
  time kind millis := (quiet_lift (quiet_time kind millis)).confined
  present timezone := (quiet_lift (quiet_present pipeline timezone)).confined
  wait millis := (quiet_lift (quiet_wait millis)).confined
  countError := (quiet_count _).confined
  fail _ := ensures_throw _

theorem compiling_confined (pipeline : Pipeline) (permitted : Search.Call → Prop) :
    pipeline.Compiling (Confined permitted) where
  toClosed := (waiting_confined pipeline permitted).toClosed
  timing kind _ confined := ensures_timing kind confined
  compileRequest := (quiet_count _).confined
  remembered? key := (quiet_lift (Activity.quiet_remembered? key)).confined
  remember key intent := (quiet_lift (Activity.quiet_remember pipeline key intent)).confined
  reading request prompt now _ later := by
    refine (quiet_reason pipeline request prompt).confined.bind fun answer => ?_
    refine (quiet_enter _).confined.bind fun _ => ?_
    exact (quiet_lift (Activity.quiet_normalize pipeline now answer)).confined.bind later

end Operation

end AnalystQuery.Pipeline
