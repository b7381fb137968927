import AnalystQuery.Number.Decimal

/-! What is counted and timed while requests are handled. -/

namespace AnalystQuery

open Number (Double)

inductive Counter where
  | compileRequests
  | cacheHits
  | cacheMisses
  | reasoningCalls
  | reasoningTimeouts
  | parseDegradations
  | validationFailures
  | executions
  | executionErrors
  | summaryFallbacks
  deriving DecidableEq, Repr

namespace Counter

def all : List Counter :=
  [compileRequests, cacheHits, cacheMisses, reasoningCalls, reasoningTimeouts,
   parseDegradations, validationFailures, executions, executionErrors, summaryFallbacks]

def name : Counter → String
  | compileRequests => "compile_requests_total"
  | cacheHits => "cache_hits_total"
  | cacheMisses => "cache_misses_total"
  | reasoningCalls => "reasoning_calls_total"
  | reasoningTimeouts => "reasoning_timeouts_total"
  | parseDegradations => "parse_degradations_total"
  | validationFailures => "validation_failures_total"
  | executions => "executions_total"
  | executionErrors => "execution_errors_total"
  | summaryFallbacks => "summary_fallbacks_total"

def description : Counter → String
  | compileRequests => "Total number of compile requests"
  | cacheHits => "Total number of intent cache hits"
  | cacheMisses => "Total number of intent cache misses"
  | reasoningCalls => "Total number of reasoning service calls"
  | reasoningTimeouts => "Total number of reasoning calls that exceeded their deadline"
  | parseDegradations =>
    "Total number of degraded intents from unparseable reasoning output"
  | validationFailures => "Total number of requests rejected by validation"
  | executions => "Total number of executed queries"
  | executionErrors => "Total number of search backend errors"
  | summaryFallbacks =>
    "Total number of templated summaries used after a summarization failure"

def ofName? (name : String) : Option Counter := all.find? (·.name == name)

end Counter

inductive Timing where
  | compile
  | reasoning
  | execution
  deriving DecidableEq, Repr

namespace Timing

def all : List Timing := [compile, reasoning, execution]

def name : Timing → String
  | compile => "compile_duration_seconds"
  | reasoning => "reasoning_duration_seconds"
  | execution => "execution_duration_seconds"

def description : Timing → String
  | compile => "End-to-end compile duration in seconds"
  | reasoning => "Reasoning call duration in seconds"
  | execution => "Search execution duration in seconds"

def ofName? (name : String) : Option Timing := all.find? (·.name == name)

end Timing

/-- All counts and the durations observed, the oldest first. -/
structure Metrics where
  count : Counter → Nat
  durations : Timing → List Double

namespace Metrics

def empty : Metrics := ⟨fun _ => 0, fun _ => []⟩

def countLimit : Nat := Nat.pow 2 64

def increase (metrics : Metrics) (counter : Counter) (amount : Nat) : Metrics :=
  { metrics with
    count := fun other =>
      if other = counter then (metrics.count other + amount) % countLimit
      else metrics.count other }

def observe (metrics : Metrics) (timing : Timing) (seconds : Double) : Metrics :=
  { metrics with
    durations := fun other =>
      if other = timing then metrics.durations other ++ [seconds] else metrics.durations other }

def total (durations : List Double) : Double := durations.foldl Number.Binary.add .zero

/-- The mean of durations; none of no durations. -/
def mean? (durations : List Double) : Option Double :=
  if durations.isEmpty then none
  else some ((total durations).divide (Number.Binary.ofNat durations.length))

end Metrics

end AnalystQuery
