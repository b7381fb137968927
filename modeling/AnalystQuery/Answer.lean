import AnalystQuery.Query.Generated
import AnalystQuery.Search.Basic

/-! Answers to questions: the documents found for a query with a summary of them, and what the
branches of a query over several indexes found. -/

namespace AnalystQuery

open Json (Raw)

structure Findings where
  total : Nat
  documents : List Search.Hit
  aggregations : Option Json
  elapsedMillis : Nat
  summary : String
  deriving Repr

structure Answer where
  query : GeneratedQuery
  findings : Findings
  elapsedMillis : Nat
  summary : String
  deriving Repr

/-- A query with the label under which its findings are reported. -/
structure Branch where
  label : String
  query : GeneratedQuery
  deriving Repr

structure BranchFindings where
  label : String
  index : String
  total : Nat
  aggregations : Option Json
  deriving Repr

namespace Findings

def encode (findings : Findings) : Json :=
  .object ([("total", .natural findings.total),
      ("documents", .array (findings.documents.map Search.Hit.encode))] ++
    Json.optionalEntry "aggregations" id findings.aggregations ++
    [("elapsed_ms", .natural findings.elapsedMillis), ("summary", .string findings.summary)])

def decode? (raw : Raw) : Option Findings := do
  let fields ← raw.fields? ["total", "documents", "aggregations", "elapsed_ms", "summary"]
  let total ← fields.required "total" Raw.size?
  let documents ← fields.required "documents" (Raw.list? Search.Hit.decode?)
  let aggregations ← fields.optional "aggregations" none (Raw.nullable? Raw.value?)
  let elapsedMillis ← fields.required "elapsed_ms" Raw.size?
  let summary ← fields.required "summary" Raw.string?
  pure ⟨total, documents, aggregations, elapsedMillis, summary⟩

end Findings

namespace Answer

def encode (answer : Answer) : Json :=
  .object [("dsl", answer.query.encode), ("results", answer.findings.encode),
    ("execution_time_ms", .natural answer.elapsedMillis), ("summary", .string answer.summary)]

def decode? (raw : Raw) : Option Answer := do
  let fields ← raw.fields? ["dsl", "results", "execution_time_ms", "summary"]
  let query ← fields.required "dsl" GeneratedQuery.decode?
  let findings ← fields.required "results" Findings.decode?
  let elapsedMillis ← fields.required "execution_time_ms" Raw.size?
  let summary ← fields.required "summary" Raw.string?
  pure ⟨query, findings, elapsedMillis, summary⟩

end Answer

namespace BranchFindings

def encode (findings : BranchFindings) : Json :=
  .object ([("label", .string findings.label), ("index", .string findings.index),
      ("total", .natural findings.total)] ++
    Json.optionalEntry "aggregations" id findings.aggregations)

def decode? (raw : Raw) : Option BranchFindings := do
  let fields ← raw.fields? ["label", "index", "total", "aggregations"]
  let label ← fields.required "label" Raw.string?
  let index ← fields.required "index" Raw.string?
  let total ← fields.required "total" Raw.size?
  let aggregations ← fields.optional "aggregations" none (Raw.nullable? Raw.value?)
  pure ⟨label, index, total, aggregations⟩

end BranchFindings

end AnalystQuery
