import AnalystQuery.Proofs.Json.Lookup
import AnalystQuery.Proofs.Pipeline.SearchSafety
import AnalystQuery.Proofs.Query.Envelope
import AnalystQuery.Proofs.Query.Violations
import AnalystQuery.Search.Engine

/-! What the search engine is posted when a compiled query is executed. A query without
aggregations is posted as it was compiled, page and order included; one with aggregations is
posted without a page, since its documents are not read. -/

namespace AnalystQuery

open Query (compile plan SortKey.encodeEntry)

namespace Search.Call

variable (index : String) (query : Json) (options : Options) (key : String)

theorem body_plain_get? :
    (Call.plain index query options).body.get? key =
      Json.lookup key ([("query", query)] ++ Json.optionalEntry "size" .natural options.size ++
        Json.optionalEntry "from" .natural options.offset ++
        Json.optionalEntry "sort" id options.sort ++
        Json.optionalEntry "_source" id options.source ++ [("track_total_hits", .bool true)]) := by
  refine Json.lookup_sortEntries ?_ key
  obtain ⟨size, offset, sort, source⟩ := options
  cases size <;> cases offset <;> cases sort <;> cases source <;> simp [Json.optionalEntry]

theorem body_aggregate_get? (aggregations : Json) :
    (Call.aggregate index query aggregations).body.get? key =
      Json.lookup key [("query", query), ("aggs", aggregations), ("size", .natural 0),
        ("track_total_hits", .bool true)] := by
  refine Json.lookup_sortEntries ?_ key
  simp

end Search.Call

namespace Query

variable (sizes : Sizes) (index : String) (schema : Schema) (intent : Intent)

theorem sortEntries_ne_nil {entries : List (String × Json)} (nonempty : entries ≠ []) :
    Json.sortEntries entries ≠ [] := by
  intro empty
  obtain ⟨front, last, rfl⟩ := List.eq_nil_or_concat entries |>.resolve_left nonempty
  have member : last ∈ Json.sortEntries (front ++ [last]) := by
    rw [Json.sortEntries_snoc, Json.mem_insertEntry (Json.sortedByKey_sortEntries front)]
    exact Or.inl rfl
  rw [List.concat_eq_append] at empty
  rw [empty] at member
  cases member

theorem aggregations?_compile :
    (compile sizes index schema intent).aggregations? =
      if (plan sizes schema intent).1.computations.isEmpty then none
      else some (.ofEntries (plan sizes schema intent).1.blockEntries) := by
  rw [GeneratedQuery.aggregations?, compile_envelope]
  simp only [List.filterMap_cons, List.filterMap_nil, Envelope.get?_aggs,
    Envelope.get?_aggregations]
  cases computed : (plan sizes schema intent).1.computations with
  | nil => rfl
  | cons first rest =>
    have nonempty : (plan sizes schema intent).1.blockEntries ≠ [] := by
      rw [Envelope.blockEntries, computed]
      exact List.cons_ne_nil _ _
    obtain ⟨entry, others, sorted⟩ := List.exists_cons_of_ne_nil (sortEntries_ne_nil nonempty)
    simp only [List.isEmpty_cons, Bool.false_eq_true, if_false, Json.ofEntries, sorted]
    rfl

theorem natural_injective : Function.Injective Json.natural := by
  intro value other same
  exact Int.ofNat.inj (Json.integer.inj same)

theorem asNatural?_natural (value : Nat) : (Json.natural value).asNatural? = some value := by
  simp [Json.natural, Json.asNatural?]

theorem size?_compile :
    (compile sizes index schema intent).size? = some (plan sizes schema intent).1.size := by
  rw [GeneratedQuery.size?, compile_envelope, Envelope.get?_size, Option.bind_some,
    asNatural?_natural]

theorem offset?_compile :
    (compile sizes index schema intent).offset? =
      if (plan sizes schema intent).1.offset = 0 then none
      else some (plan sizes schema intent).1.offset := by
  rw [GeneratedQuery.offset?, compile_envelope, Envelope.get?_from]
  split
  · rfl
  · exact asNatural?_natural _

theorem announcement_zero (sort : Option SortKey) : announcement 0 sort = "" := rfl

/-- What the explanation of a compiled query says before the page. -/
def openingOf (sizes : Sizes) (index : String) (schema : Schema) (intent : Intent) : String :=
  opening index intent.kind (plan sizes schema intent).2.1
    ((plan sizes schema intent).1.computations.map (·.description))

/-- What it says behind the page. -/
def remarksOf (sizes : Sizes) (schema : Schema) (intent : Intent) : String :=
  remarks intent (plan sizes schema intent).2.2

end Query

namespace Pipeline

open Operation

variable {pipeline : Pipeline} {query : GeneratedQuery} {session : Session} {call : Search.Call}

theorem checkExecutable_run (executable : pipeline.Executable query) (session : Session) :
    ∃ after, (pipeline.checkExecutable query).run.run session = .done (.ok (), after) := by
  unfold checkExecutable
  rw [executable.executes]
  have passed := checkSecurity_run pipeline query session
  rw [executable.secure] at passed
  exact ⟨_, passed⟩

/-- Executing a query that passes the checks makes its call and no other. -/
theorem issues_execute_iff (executable : pipeline.Executable query) :
    ((pipeline.execute query).run.run session).Issues call ↔ call = searchCall query := by
  constructor
  · intro issues
    have ensures : Ensures (· = searchCall query) (pipeline.execute query) fun _ => True := by
      unfold execute
      refine ensures_bind (ensures_startExecution pipeline query fun _ => rfl) fun reply _ => ?_
      exact (waiting_confined pipeline _).settle reply
    exact (ensures.inSession session).permitted_of_issues issues
  · rintro rfl
    obtain ⟨after, passed⟩ := checkExecutable_run executable session
    change Plan.Issues (Plan.andThen (Plan.andThen
      ((pipeline.checkExecutable query).run.run session) _) _) _
    rw [passed]
    exact .now _ _

variable (sizes : Query.Sizes) (index : String) (schema : Schema) (intent : Intent)

theorem searchCall_compile_plain
    (plain : (Query.plan sizes schema intent).1.encode.get? "aggs" = none) :
    let planned := (Query.plan sizes schema intent).1
    searchCall (Query.compile sizes index schema intent) = .plain index planned.condition.encode
      { size := some planned.size
        offset := if planned.offset = 0 then none else some planned.offset
        sort := planned.encode.get? "sort"
        source := none } := by
  have empty : (Query.plan sizes schema intent).1.computations.isEmpty = true := by
    rw [Query.Envelope.get?_aggs] at plain
    by_contra filled
    rw [if_neg filled] at plain
    cases plain
  have noSource : (Query.compile sizes index schema intent).source? = none :=
    Query.Envelope.get?_source _
  rw [searchCall, Query.aggregations?_compile, if_pos empty]
  rw [Query.query_compile, Query.size?_compile, Query.offset?_compile, noSource]
  rfl

theorem searchCall_compile_aggregate {aggregations : Json}
    (grouped : (Query.plan sizes schema intent).1.encode.get? "aggs" = some aggregations) :
    searchCall (Query.compile sizes index schema intent) =
      .aggregate index (Query.plan sizes schema intent).1.condition.encode aggregations := by
  rw [Query.Envelope.get?_aggs] at grouped
  rw [searchCall, Query.aggregations?_compile, grouped, Query.query_compile]
  rfl

/-- What a request body asks for, measured by the query that it executes. The announcement of an
explanation is backed by the body where documents are read: the page stands between an opening
and remarks that do not depend on it, and no page is announced if none is asked for. -/
structure Posts (compiled : GeneratedQuery) (opening remarks : String) (body : Json) : Prop where
  conditions : body.get? "query" = compiled.envelope.get? "query"
  aggregations : body.get? "aggs" = compiled.envelope.get? "aggs"
  page : compiled.envelope.get? "aggs" = none →
    body.get? "size" = compiled.envelope.get? "size" ∧
    body.get? "from" = compiled.envelope.get? "from" ∧
    body.get? "sort" = compiled.envelope.get? "sort"
  announced : compiled.envelope.get? "aggs" = none →
    ∃ size, ∃ sort : Option SortKey,
      compiled.explanation = opening ++ Query.announcement size sort ++ remarks ∧
      body.get? "size" = some (.natural size) ∧
      body.get? "sort" = sort.map fun sort => .array [Query.SortKey.encodeEntry sort]
  unannounced : compiled.envelope.get? "aggs" = none → body.get? "size" = some (.natural 0) →
    compiled.explanation = opening ++ remarks
  groups : compiled.envelope.get? "aggs" ≠ none →
    body.get? "size" = some (.natural 0) ∧
    body.get? "from" = none ∧ body.get? "sort" = none

theorem posts_plain (plain : (Query.plan sizes schema intent).1.encode.get? "aggs" = none) :
    let compiled := Query.compile sizes index schema intent
    Posts compiled (Query.openingOf sizes index schema intent)
      (Query.remarksOf sizes schema intent) (searchCall compiled).body := by
  intro compiled
  have call : searchCall compiled = _ := searchCall_compile_plain sizes index schema intent plain
  have envelope : compiled.envelope = (Query.plan sizes schema intent).1.encode := rfl
  have explained : compiled.explanation = Query.openingOf sizes index schema intent ++
      Query.announcement (Query.plan sizes schema intent).1.size
        (Query.plan sizes schema intent).1.sort ++ Query.remarksOf sizes schema intent := rfl
  have size : (searchCall compiled).body.get? "size" =
      some (.natural (Query.plan sizes schema intent).1.size) := by
    rw [call, Search.Call.body_plain_get?]
    simp
  have sort : (searchCall compiled).body.get? "sort" = compiled.envelope.get? "sort" := by
    rw [call, Search.Call.body_plain_get?, envelope, Query.Envelope.get?_sort]
    simp
  refine ⟨?_, ?_, fun _ => ⟨?_, ?_, sort⟩, fun _ => ⟨_, _, explained, size, ?_⟩,
    fun _ empty => ?_, fun grouped => absurd plain grouped⟩
  · rw [call, Search.Call.body_plain_get?, envelope, Query.Envelope.get?_query]
    simp
  · rw [call, Search.Call.body_plain_get?, envelope, plain]
    simp
  · rw [size, envelope, Query.Envelope.get?_size]
  · rw [call, Search.Call.body_plain_get?, envelope, Query.Envelope.get?_from]
    split <;> simp
  · rw [sort, envelope, Query.Envelope.get?_sort]
  · have none : (Query.plan sizes schema intent).1.size = 0 :=
      Query.natural_injective (Option.some.inj (size.symm.trans empty))
    rw [explained, none, Query.announcement_zero, String.append_empty]

theorem posts_aggregate {aggregations : Json}
    (grouped : (Query.plan sizes schema intent).1.encode.get? "aggs" = some aggregations) :
    let compiled := Query.compile sizes index schema intent
    Posts compiled (Query.openingOf sizes index schema intent)
      (Query.remarksOf sizes schema intent) (searchCall compiled).body := by
  intro compiled
  have call : searchCall compiled = _ :=
    searchCall_compile_aggregate sizes index schema intent grouped
  have envelope : compiled.envelope = (Query.plan sizes schema intent).1.encode := rfl
  have present : compiled.envelope.get? "aggs" ≠ none := by
    rw [envelope, grouped]
    exact Option.some_ne_none aggregations
  rw [call]
  refine ⟨?_, ?_, fun plain => absurd plain present, fun plain => absurd plain present,
    fun plain => absurd plain present, fun _ => ⟨?_, ?_, ?_⟩⟩ <;>
      rw [Search.Call.body_aggregate_get?]
  · rw [envelope, Query.Envelope.get?_query]
    simp
  · rw [envelope, grouped]
    simp
  all_goals simp

/-- Executing a compiled query that passes the checks makes one call, which posts what was
compiled. -/
theorem executed_as_compiled (pipeline : Pipeline) (session : Session)
    (executable : pipeline.Executable (Query.compile sizes index schema intent)) :
    let compiled := Query.compile sizes index schema intent
    ∃ call, (∀ other, ((pipeline.execute compiled).run.run session).Issues other ↔ other = call) ∧
      Posts compiled (Query.openingOf sizes index schema intent)
        (Query.remarksOf sizes schema intent) (call.request pipeline.settings.search).body := by
  intro compiled
  refine ⟨searchCall compiled, fun other => issues_execute_iff executable, ?_⟩
  cases grouped : (Query.plan sizes schema intent).1.encode.get? "aggs" with
  | none => exact posts_plain sizes index schema intent grouped
  | some aggregations => exact posts_aggregate sizes index schema intent grouped

private def newestOfChannel (aggregations : List Aggregation) : Intent :=
  { Intent.plain .search .zero with
    filters := [⟨"channel", .eq, .string "email"⟩]
    aggregations := aggregations
    sort := some ⟨"timestamp", .descending⟩
    size := some 5 }

private def compiledNewest (aggregations : List Aggregation) : GeneratedQuery :=
  Query.compile ⟨20, 100⟩ "communications" .communications (newestOfChannel aggregations)

private def plainPipeline : Pipeline := ⟨.default, Schema.builtIn, .origin⟩

theorem newest_executed_as_compiled :
    plainPipeline.Executable (compiledNewest []) ∧
      ∃ call, (∀ other, ((plainPipeline.execute (compiledNewest [])).run.run
          (.fresh true)).Issues other ↔ other = call) ∧
        Posts (compiledNewest [])
          (Query.openingOf ⟨20, 100⟩ "communications" .communications (newestOfChannel []))
          (Query.remarksOf ⟨20, 100⟩ .communications (newestOfChannel []))
          (call.request plainPipeline.settings.search).body := by
  have executable : plainPipeline.Executable (compiledNewest []) := ⟨by decide, by decide⟩
  exact ⟨executable, executed_as_compiled _ _ _ _ plainPipeline _ executable⟩

/-- A page that is asked for beside aggregations stands in the envelope only: it is not asked for
when the query is executed. -/
theorem page_beside_groups_not_posted :
    ¬ ∀ (pipeline : Pipeline) (sizes : Query.Sizes) (index : String) (schema : Schema)
      (intent : Intent) (session : Session) (call : Search.Call),
      ((pipeline.execute (Query.compile sizes index schema intent)).run.run session).Issues call →
      (call.request pipeline.settings.search).body.get? "size" =
        (Query.compile sizes index schema intent).envelope.get? "size" := by
  intro always
  let query := compiledNewest [⟨.terms, some "channel", none, []⟩]
  have executable : plainPipeline.Executable query := ⟨by decide, by decide⟩
  have issues : ((plainPipeline.execute query).run.run (.fresh true)).Issues (searchCall query) :=
    (issues_execute_iff executable).mpr rfl
  have same := always plainPipeline _ _ _ _ _ _ issues
  have posted : (((searchCall query).body.get? "size").bind Json.asNatural?) = some 0 := by decide
  have compiled : (query.envelope.get? "size").bind Json.asNatural? = some 5 := by decide
  have equal : some 0 = some 5 := calc
    some 0 = ((searchCall query).body.get? "size").bind Json.asNatural? := posted.symm
    _ = (query.envelope.get? "size").bind Json.asNatural? :=
      congrArg (Option.bind · Json.asNatural?) same
    _ = some 5 := compiled
  cases equal

end Pipeline

end AnalystQuery
