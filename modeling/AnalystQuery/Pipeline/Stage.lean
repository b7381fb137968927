import AnalystQuery.Json.Decoding

/-! The stages that a request goes through. -/

namespace AnalystQuery.Pipeline

inductive Stage where
  | validating
  | cacheHit
  | reasoning
  | normalizing
  | compiling
  | securityValidating
  | schemaValidating
  | executing
  | summarizing
  | done
  | error
  deriving DecidableEq, Repr

namespace Stage

def all : List Stage :=
  [validating, cacheHit, reasoning, normalizing, compiling, securityValidating,
   schemaValidating, executing, summarizing, done, error]

def name : Stage → String
  | validating => "validating"
  | cacheHit => "cache_hit"
  | reasoning => "reasoning"
  | normalizing => "normalizing"
  | compiling => "compiling"
  | securityValidating => "security_validating"
  | schemaValidating => "schema_validating"
  | executing => "executing"
  | summarizing => "summarizing"
  | done => "done"
  | error => "error"

def ofName? (name : String) : Option Stage := all.find? (·.name == name)

def decode? (raw : Json.Raw) : Option Stage := raw.caseName?.bind ofName?

end Stage

end AnalystQuery.Pipeline
