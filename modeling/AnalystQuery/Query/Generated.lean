import AnalystQuery.Intent.Basic

/-! Generated queries: an envelope in the query language of the search engine, with the reading
of the question that it came from. An envelope may come from elsewhere and hold anything, so
its parts are looked up and not assumed. -/

namespace AnalystQuery

open Json (Raw)

structure GeneratedQuery where
  index : String
  envelope : Json
  explanation : String
  intent : Intent
  deriving Repr

namespace GeneratedQuery

/-- The query part; null when there is none. -/
def query (generated : GeneratedQuery) : Json := (generated.envelope.get? "query").getD .null

private def hasEntries : Json → Bool
  | .object entries => !entries.isEmpty
  | _ => false

def aggregations? (generated : GeneratedQuery) : Option Json :=
  (["aggs", "aggregations"].filterMap generated.envelope.get?).find? hasEntries

def size? (generated : GeneratedQuery) : Option Nat :=
  (generated.envelope.get? "size").bind Json.asNatural?

def offset? (generated : GeneratedQuery) : Option Nat :=
  (generated.envelope.get? "from").bind Json.asNatural?

def sort? (generated : GeneratedQuery) : Option Json := generated.envelope.get? "sort"

def source? (generated : GeneratedQuery) : Option Json := generated.envelope.get? "_source"

def encode (generated : GeneratedQuery) : Json :=
  .object [("index", .string generated.index), ("dsl", generated.envelope),
    ("explanation", .string generated.explanation), ("intent", generated.intent.encode)]

def decode? (raw : Raw) : Option GeneratedQuery := do
  let fields ← raw.fields? ["index", "dsl", "explanation", "intent"]
  let index ← fields.required "index" Raw.string?
  let envelope ← fields.required "dsl" Raw.value?
  let explanation ← fields.required "explanation" Raw.string?
  let intent ← fields.required "intent" Intent.decode?
  pure ⟨index, envelope, explanation, intent⟩

end GeneratedQuery

end AnalystQuery
