import AnalystQuery.Files

/-! Everything that can go wrong, by cause. Each cause has a text for people; a code that
callers can rely on groups them. Texts name what was wrong and never list what is allowed. -/

namespace AnalystQuery

inductive SettingsError where
  | unreadable (cause : FileError)
  | syntaxError
  | invalid (what : String)
  | missingField (name : String)
  deriving DecidableEq, Repr

inductive ValidationError where
  | unknownIndex
  | notExecutable (index : String)
  | emptyQuery
  | missingSchema (index : String)
  | unsafeQuery (violations : List String)
  | unknownFields (fields : List String)
  deriving DecidableEq, Repr

inductive ReasoningError where
  | timeout (millis : Nat)
  | rateLimited
  | api (text : String)
  | emptyResponse
  | aborted (text : String)
  deriving DecidableEq, Repr

inductive ExecutionError where
  | connection (text : String)
  | rejected (status : Nat) (text : String)
  | malformed (text : String)
  | timeout (millis : Nat)
  deriving DecidableEq, Repr

inductive Error where
  | settings (cause : SettingsError)
  | validation (cause : ValidationError)
  | reasoning (cause : ReasoningError)
  | execution (cause : ExecutionError)
  | io (text : String)
  deriving DecidableEq, Repr

namespace SettingsError

/-- The text of a syntax error in settings is that of the reader and not repeated here. -/
def message : SettingsError → String
  | unreadable cause => "Failed to read config file: " ++ cause.message
  | syntaxError => "Failed to parse config"
  | invalid what => "Invalid configuration: " ++ what
  | missingField name => "Missing required field: " ++ name

end SettingsError

namespace ValidationError

def message : ValidationError → String
  | unknownIndex => "Unknown or unsupported index"
  | notExecutable index => "Index '" ++ index ++ "' does not support query execution"
  | emptyQuery => "Query text is empty"
  | missingSchema index => "No schema available for index '" ++ index ++ "'"
  | unsafeQuery violations => "Disallowed DSL construct(s): " ++ ", ".intercalate violations
  | unknownFields fields => "DSL references unknown field(s): " ++ ", ".intercalate fields

def code : ValidationError → String
  | unknownIndex => "INVALID_INDEX"
  | missingSchema _ => "INVALID_INDEX"
  | notExecutable _ => "INDEX_NOT_EXECUTABLE"
  | emptyQuery => "EMPTY_QUERY"
  | unsafeQuery _ => "DSL_VALIDATION_FAILED"
  | unknownFields _ => "SCHEMA_VALIDATION_FAILED"

def violations : ValidationError → List String
  | unsafeQuery violations => violations
  | unknownFields fields => fields
  | _ => []

end ValidationError

namespace ReasoningError

def message : ReasoningError → String
  | timeout millis => "Reasoning call timed out after " ++ toString millis ++ "ms"
  | rateLimited => "Rate limited"
  | api text => "API error: " ++ text
  | emptyResponse => "Empty response from reasoning service"
  | aborted text => "Reasoning task aborted: " ++ text

def code : ReasoningError → String
  | timeout _ => "REASONING_TIMEOUT"
  | _ => "REASONING_FAILED"

end ReasoningError

namespace ExecutionError

def message : ExecutionError → String
  | connection text => "Connection failed: " ++ text
  | rejected status text => "Backend rejected query (" ++ toString status ++ "): " ++ text
  | malformed text => "Malformed backend response: " ++ text
  | timeout millis => "Timeout after " ++ toString millis ++ "ms"

end ExecutionError

namespace Error

def message : Error → String
  | settings cause => "Configuration error: " ++ cause.message
  | validation cause => "Validation error: " ++ cause.message
  | reasoning cause => "Reasoning error: " ++ cause.message
  | execution cause => "Execution error: " ++ cause.message
  | io text => "IO error: " ++ text

def code : Error → String
  | settings _ => "CONFIG_ERROR"
  | validation cause => cause.code
  | reasoning cause => cause.code
  | execution _ => "EXECUTION_FAILED"
  | io _ => "INTERNAL_ERROR"

end Error

end AnalystQuery
