import AnalystQuery.Json.Decoding

/-! A question about an index, with what is known about who asks it and what was asked before. -/

namespace AnalystQuery

open Json (Raw)

structure Request where
  question : String
  index : String
  /-- what else the caller knows, such as the case being looked at -/
  context : Option String
  timezone : Option String
  history : List String
  execute : Bool
  /-- whom the language model's rate limit counts -/
  rateLimitKey : Option String
  deriving DecidableEq, Repr

namespace Request

def ask (question index : String) : Request := ⟨question, index, none, none, [], false, none⟩

def recentHistory (request : Request) (window : Nat) : List String :=
  request.history.drop (request.history.length - window)

def encode (request : Request) : Json :=
  .object [("query", .string request.question), ("index", .string request.index),
    ("context", .ofOption .string request.context),
    ("timezone", .ofOption .string request.timezone),
    ("history", .strings request.history), ("execute", .bool request.execute),
    ("rate_limit_key", .ofOption .string request.rateLimitKey)]

/-- Every field may be missing. -/
def decode? (raw : Raw) : Option Request := do
  let fields ← raw.fields? ["query", "index", "context", "timezone", "history", "execute",
    "rate_limit_key"]
  let text? := Raw.nullable? Raw.string?
  pure
    { question := ← fields.optional "query" "" Raw.string?
      index := ← fields.optional "index" "" Raw.string?
      context := ← fields.optional "context" none text?
      timezone := ← fields.optional "timezone" none text?
      history := ← fields.optional "history" [] (Raw.list? Raw.string?)
      execute := ← fields.optional "execute" false Raw.bool?
      rateLimitKey := ← fields.optional "rate_limit_key" none text? }

end Request

end AnalystQuery
