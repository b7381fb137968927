import AnalystQuery.Pipeline.Executing

/-! The tasks of a session, one after the other. -/

namespace AnalystQuery.Pipeline

inductive Task where
  | compile (request : Request)
  | answer (request : Request)
  | refine (request : Request) (feedback : String) (earlier : GeneratedQuery)
  | execute (query : GeneratedQuery)
  | executeAll (branches : List Branch)
  | summarize (request : Request) (response : Search.Response)
  | advance (millis : Nat)
  deriving Repr

inductive Result where
  | query (generated : GeneratedQuery)
  | answer (given : Answer)
  | response (response : Search.Response)
  | branches (findings : List BranchFindings)
  | summary (text : String)
  | nothing
  deriving Repr

def Result.query? : Result → Option GeneratedQuery
  | query generated => some generated
  | answer given => some given.query
  | _ => none

def perform (pipeline : Pipeline) : Task → Operation Result
  | .compile request => Result.query <$> pipeline.compile request
  | .answer request => Result.answer <$> pipeline.answer request
  | .refine request feedback earlier => Result.query <$> pipeline.refine request feedback earlier
  | .execute query => Result.response <$> pipeline.execute query
  | .executeAll branches => Result.branches <$> pipeline.executeAll branches
  | .summarize request response =>
    Result.summary <$> (pipeline.summarize request response : Operation String)
  | .advance millis => do
    modify fun session => session.advance millis
    pure .nothing

/-- Carries out tasks in order, each whatever became of those before. -/
def performAll (pipeline : Pipeline) : List Task → Activity (List (Except Error Result))
  | [] => pure []
  | task :: rest => do
    let outcome ← (pipeline.perform task).run
    return outcome :: (← pipeline.performAll rest)

end AnalystQuery.Pipeline
