import AnalystQuery.Error
import AnalystQuery.Json.Decoding

/-! What the search engine is asked for and what it answers. -/

namespace AnalystQuery.Search

open Json (Raw)
open Number (Double)

structure Options where
  size : Option Nat
  offset : Option Nat
  sort : Option Json
  source : Option Json
  deriving Repr

inductive Call where
  | plain (index : String) (query : Json) (options : Options)
  | aggregate (index : String) (query aggregations : Json)
  deriving Repr

def Call.index : Call → String
  | plain index _ _ => index
  | aggregate index _ _ => index

structure Hit where
  id : String
  score : Option Double
  source : Json
  highlight : Option Json
  deriving Repr

structure Response where
  total : Nat
  hits : List Hit
  aggregations : Option Json
  deriving Repr

/-- How a call settles: after how many milliseconds, and with what. -/
structure Reply where
  delay : Nat
  outcome : Except ExecutionError Response

def Hit.encode (hit : Hit) : Json :=
  .object ([("id", .string hit.id)] ++ Json.optionalEntry "score" Json.ofDouble hit.score ++
    [("source", hit.source)] ++ Json.optionalEntry "highlight" (fun value => value) hit.highlight)

def Hit.decode? (raw : Raw) : Option Hit := do
  let fields ← raw.fields? ["id", "score", "source", "highlight"]
  let id ← fields.required "id" Raw.string?
  let score ← fields.optional "score" none (Raw.nullable? Raw.double?)
  let source ← fields.optional "source" .null Raw.value?
  let highlight ← fields.optional "highlight" none (Raw.nullable? Raw.value?)
  pure ⟨id, score, source, highlight⟩

def Response.encode (response : Response) : Json :=
  .object ([("total", .natural response.total), ("hits", .array (response.hits.map Hit.encode))] ++
    Json.optionalEntry "aggregations" id response.aggregations)

def Response.decode? (raw : Raw) : Option Response := do
  let fields ← raw.fields? ["total", "hits", "aggregations"]
  let total ← fields.required "total" Raw.size?
  let hits ← fields.required "hits" (Raw.list? Hit.decode?)
  let aggregations ← fields.optional "aggregations" none (Raw.nullable? Raw.value?)
  pure ⟨total, hits, aggregations⟩

end AnalystQuery.Search
