import AnalystQuery.Calendar.Timestamp
import AnalystQuery.Calendar.Zone
import AnalystQuery.IntentCache
import AnalystQuery.Metrics.Basic
import AnalystQuery.Pipeline.Plan
import AnalystQuery.Pipeline.Stage
import AnalystQuery.Schema
import AnalystQuery.Settings.Basic

/-! Sessions: what outlives a request, and the steps of which operations are made. -/

namespace AnalystQuery

structure Pipeline where
  settings : Settings
  schemas : List (String × Schema)
  start : Calendar.Instant
  deriving Repr

namespace Pipeline

inductive Event where
  | entered (stage : Stage)
  | counted (counter : Counter)
  | timed (timing : Timing) (millis : Nat)
  deriving DecidableEq, Repr

/-- The state between requests. -/
structure Session where
  cache : IntentCache
  elapsed : Nat
  /-- the milliseconds spent waiting for calls -/
  waited : Nat
  /-- the calls that were given up before they began -/
  postponed : List Reasoning.Call
  journal : List Event
  deriving Repr

def Session.fresh (cacheEnabled : Bool) : Session := ⟨.empty cacheEnabled, 0, 0, [], []⟩

def Session.advance (session : Session) (millis : Nat) : Session :=
  { session with elapsed := session.elapsed + millis }

abbrev Activity := StateT Session Plan

abbrev Operation := ExceptT Error Activity

def record (event : Event) : Activity Unit :=
  modify fun session => { session with journal := session.journal ++ [event] }

def enter (stage : Stage) : Activity Unit := record (.entered stage)

def count (counter : Counter) : Activity Unit := record (.counted counter)

def time (timing : Timing) (millis : Nat) : Activity Unit := record (.timed timing millis)

def ask (call : Reasoning.Call) : Activity Reasoning.Reply :=
  (Plan.ask call .done : Plan Reasoning.Reply)

/-- Begins the calls that were postponed. Nobody waits for their answers. -/
def beginPostponed : Activity Unit := do
  let calls := (← get).postponed
  modify fun session => { session with postponed := [] }
  calls.forM fun call => do let _ ← ask call

def wait (millis : Nat) : Activity Unit := do
  if 0 < millis then beginPostponed
  modify fun session => { session with waited := session.waited + millis }

/-- Asks the language model and waits until the deadline. Without any time to wait the call is
given up at once; it begins as soon as something else is waited for. -/
def askWithin (deadline : Nat) (call : Reasoning.Call) :
    Activity (Except ReasoningError String) := do
  count .reasoningCalls
  if deadline = 0 then
    modify fun session => { session with postponed := session.postponed ++ [call] }
    time .reasoning 0
    count .reasoningTimeouts
    pure (.error (.timeout 0))
  else
    beginPostponed
    let reply ← ask call
    let waited := min reply.delay deadline
    wait waited
    time .reasoning waited
    if reply.isLate deadline then count .reasoningTimeouts
    pure (reply.within deadline)

def startSearch (call : Search.Call) : Activity Search.Reply :=
  (Plan.search call .done : Plan Search.Reply)

/-- Fails for a reason that lies in the request. -/
def reject {α : Type} (cause : ValidationError) : Operation α := do
  count .validationFailures
  throw (.validation cause)

def recordingFailure {α : Type} (operation : Operation α) : Operation α :=
  tryCatch operation fun error => do
    enter .error
    throw error

/-- Puts the time that an operation waits on record, whether it fails or not. -/
def timing {α : Type} (timing : Timing) (operation : Operation α) : Operation α :=
  ExceptT.mk do
    let before := (← get).waited
    let outcome ← operation.run
    time timing ((← get).waited - before)
    pure outcome

def present (pipeline : Pipeline) (timezone : Option String) : Activity Calendar.Instant := do
  let session ← get
  pure ((pipeline.start.advance session.elapsed).inZone timezone)

def remembered? (key : String) : Activity (Option Intent) := do
  let session ← get
  if session.cache.enabled then
    let found := session.cache.get? session.elapsed key
    count (if found.isSome then .cacheHits else .cacheMisses)
    pure found
  else pure none

def remember (pipeline : Pipeline) (key : String) (intent : Intent) : Activity Unit :=
  modify fun session =>
    { session with
      cache := session.cache.set session.elapsed key intent
        (1000 * pipeline.settings.cache.ttlSeconds) }

def schema? (pipeline : Pipeline) (index : String) : Option Schema :=
  (pipeline.schemas.find? (·.1 == index)).map (·.2)

end Pipeline

end AnalystQuery
