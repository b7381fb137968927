import AnalystQuery.Answer
import AnalystQuery.Pipeline.Compiling
import AnalystQuery.Prompt.Summary

/-! From a query to an answer: queries are inspected again before they are executed, since they
may come from elsewhere, and findings are summarized in words whatever becomes of the language
model. -/

namespace AnalystQuery.Pipeline

def searchCall (query : GeneratedQuery) : Search.Call :=
  match query.aggregations? with
  | some aggregations => .aggregate query.index query.query aggregations
  | none => .plain query.index query.query ⟨query.size?, query.offset?, query.sort?, query.source?⟩

def checkExecutable (pipeline : Pipeline) (query : GeneratedQuery) : Operation Unit := do
  if !pipeline.settings.pipeline.executes query.index then reject (.notExecutable query.index)
  pipeline.checkSecurity query

def startExecution (pipeline : Pipeline) (query : GeneratedQuery) : Operation Search.Reply := do
  pipeline.checkExecutable query
  enter .executing
  count .executions
  startSearch (searchCall query)

def settle (reply : Search.Reply) : Operation Search.Response := do
  wait reply.delay
  time .execution reply.delay
  match reply.outcome with
  | .ok response => pure response
  | .error cause => do
    count .executionErrors
    throw (.execution cause)

def execute (pipeline : Pipeline) (query : GeneratedQuery) : Operation Search.Response := do
  settle (← pipeline.startExecution query)

/-- The largest number of branches whose failures are noticed as soon as they come. The results
of more branches are looked at one after the other. -/
def promptBranches : Nat := 30

def fails (reply : Search.Reply) : Bool :=
  match reply.outcome with
  | .error _ => true
  | .ok _ => false

/-- Starts the calls of all branches in order. A call that fails at once ends the others if its
failure is noticed: where results are looked at `inOrder`, not while an earlier call is
`underWay`. -/
def startBranches (pipeline : Pipeline) (inOrder underWay : Bool) :
    List Branch → Operation (List (Branch × Search.Reply))
  | [] => pure []
  | branch :: rest => do
    let reply ← pipeline.startExecution branch.query
    if fails reply && reply.delay = 0 && !(inOrder && underWay) then pure [(branch, reply)]
    else
      let others ← pipeline.startBranches inOrder (underWay || 0 < reply.delay) rest
      pure ((branch, reply) :: others)

def firstFailure? : List (Branch × Search.Reply) → Option (Nat × ExecutionError)
  | [] => none
  | (_, reply) :: rest =>
    match reply.outcome, firstFailure? rest with
    | .error cause, some (delay, later) =>
      if reply.delay ≤ delay then some (reply.delay, cause) else some (delay, later)
    | .error cause, none => some (reply.delay, cause)
    | .ok _, later => later

/-- The failure that is listed first, with the delay after which it and all before it have
settled; those in front have settled after `latest`. -/
def leadingFailure? (latest : Nat) : List (Branch × Search.Reply) → Option (Nat × ExecutionError)
  | [] => none
  | (_, reply) :: rest =>
    match reply.outcome with
    | .error cause => some (max latest reply.delay, cause)
    | .ok _ => leadingFailure? (max latest reply.delay) rest

def noticedFailure? (inOrder : Bool) (settled : List (Branch × Search.Reply)) :
    Option (Nat × ExecutionError) :=
  if inOrder then leadingFailure? 0 settled else firstFailure? settled

/-- How many calls have failed when a failure is noticed: those that failed before, and it itself
if it failed at that very time. -/
def failuresUntil (limit : Nat) (settled : List (Branch × Search.Reply)) : Nat :=
  let failures := settled.filter fun (_, reply) => fails reply
  let earlier := failures.countP fun (_, reply) => reply.delay < limit
  match failures with
  | (_, first) :: _ => if first.delay < limit then earlier else earlier + 1
  | [] => earlier

def branchFindings : List (Branch × Search.Reply) → List BranchFindings
  | [] => []
  | (branch, reply) :: rest =>
    match reply.outcome with
    | .ok response =>
      ⟨branch.label, branch.query.index, response.total, response.aggregations⟩
        :: branchFindings rest
    | .error _ => branchFindings rest

def timeAll (limit : Nat) (settled : List (Branch × Search.Reply)) : Operation Unit :=
  settled.forM fun (_, reply) => time .execution (min reply.delay limit)

def longestDelay (settled : List (Branch × Search.Reply)) : Nat :=
  settled.foldl (fun longest (_, reply) => max longest reply.delay) 0

/-- Executes several queries side by side. All are checked before any call is made, and one
failure fails the whole. -/
def executeAll (pipeline : Pipeline) (branches : List Branch) :
    Operation (List BranchFindings) := do
  branches.forM fun branch => pipeline.checkExecutable branch.query
  let inOrder : Bool := promptBranches < branches.length
  let settled ← pipeline.startBranches inOrder false branches
  match noticedFailure? inOrder settled with
  | some (delay, cause) =>
    wait delay
    timeAll delay settled
    (List.range (failuresUntil delay settled)).forM fun _ => count .executionErrors
    throw (.execution cause)
  | none =>
    wait (longestDelay settled)
    timeAll (longestDelay settled) settled
    pure (branchFindings settled)

def summarize (pipeline : Pipeline) (request : Request) (response : Search.Response) :
    Activity String := do
  if response.total = 0 then pure Prompt.nothingFound
  else
    enter .summarizing
    let rules := pipeline.settings.pipeline
    let prompt := Prompt.summary request.question response.total response.hits
      response.aggregations rules.sampleSize rules.snippetLength
    let outcome ← askWithin pipeline.settings.reasoning.summaryTimeoutMillis
      ⟨prompt, some Prompt.summaryInstructions, request.rateLimitKey⟩
    match (outcome.toOption.map Text.trim).filter (· != "") with
    | some summary => pure summary
    | none =>
      count .summaryFallbacks
      pure (Prompt.plainSummary request.index response.total)

def run (pipeline : Pipeline) (request : Request) (query : GeneratedQuery) :
    Operation Findings := do
  let before := (← get).waited
  let response ← pipeline.execute query
  let elapsed := (← get).waited - before
  let summary ← pipeline.summarize request response
  pure ⟨response.total, response.hits, response.aggregations, elapsed, summary⟩

def answer (pipeline : Pipeline) (request : Request) : Operation Answer := do
  let before := (← get).waited
  let request := { request with execute := true }
  let query ← pipeline.compile request
  let findings ← recordingFailure (pipeline.run request query)
  enter .done
  pure ⟨query, findings, (← get).waited - before, findings.summary⟩

end AnalystQuery.Pipeline
