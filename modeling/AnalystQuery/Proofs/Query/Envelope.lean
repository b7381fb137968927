import AnalystQuery.Query.Compilation

/-! What stands under the top-level keys of an encoded envelope. -/

namespace AnalystQuery.Query.Envelope

variable (envelope : Envelope)

theorem get?_query : envelope.encode.get? "query" = some envelope.condition.encode := by
  rw [encode]
  cases envelope.computations <;> cases envelope.offset <;> cases envelope.sort <;>
    simp [Json.get?, Json.lookup]

def blockEntries : List (String × Json) :=
  envelope.computations.map fun computation => (computation.key, computation.measure.encode)

theorem get?_aggs :
    envelope.encode.get? "aggs" =
      if envelope.computations.isEmpty then none else some (.ofEntries envelope.blockEntries) := by
  rw [encode, blockEntries]
  cases envelope.computations <;> cases envelope.offset <;> cases envelope.sort <;>
    simp [Json.get?, Json.lookup]

theorem get?_aggregations : envelope.encode.get? "aggregations" = none := by
  rw [encode]
  cases envelope.computations <;> cases envelope.offset <;> cases envelope.sort <;>
    simp [Json.get?, Json.lookup]

theorem get?_sort :
    envelope.encode.get? "sort" =
      envelope.sort.map fun sort => .array [SortKey.encodeEntry sort] := by
  rw [encode]
  cases envelope.computations <;> cases envelope.offset <;> cases envelope.sort <;>
    simp [Json.get?, Json.lookup]

theorem get?_size : envelope.encode.get? "size" = some (.natural envelope.size) := by
  rw [encode]
  cases envelope.computations <;> cases envelope.offset <;> cases envelope.sort <;>
    simp [Json.get?, Json.lookup]

theorem get?_from :
    envelope.encode.get? "from" =
      if envelope.offset = 0 then none else some (.natural envelope.offset) := by
  rw [encode]
  cases envelope.computations <;> cases envelope.offset <;> cases envelope.sort <;>
    simp [Json.get?, Json.lookup]

theorem get?_source : envelope.encode.get? "_source" = none := by
  rw [encode]
  cases envelope.computations <;> cases envelope.offset <;> cases envelope.sort <;>
    simp [Json.get?, Json.lookup]

end AnalystQuery.Query.Envelope

namespace AnalystQuery.Query

variable (sizes : Sizes) (index : String) (schema : Schema) (intent : Intent)

theorem compile_envelope :
    (compile sizes index schema intent).envelope = (plan sizes schema intent).1.encode := rfl

theorem query_compile :
    (compile sizes index schema intent).query =
      (plan sizes schema intent).1.condition.encode := by
  rw [GeneratedQuery.query, compile_envelope, Envelope.get?_query, Option.getD_some]

/-- The entries under a key of an envelope; none where there is no object. -/
def entriesUnder (key : String) (envelope : Json) : List (String × Json) :=
  ((envelope.get? key).bind Json.asObject?).getD []

theorem Envelope.entriesUnder_aggs (envelope : Envelope) :
    entriesUnder "aggs" envelope.encode = Json.sortEntries envelope.blockEntries := by
  rw [entriesUnder, get?_aggs, blockEntries]
  cases envelope.computations <;> rfl

end AnalystQuery.Query
