import AnalystQuery.Proofs.Json.Lookup
import AnalystQuery.Proofs.Query.CompiledReferences
import AnalystQuery.Proofs.Query.Composition

/-! The fields that composed queries and sortings name, and which of these the field check finds.
It takes every name with `boost` in front for an option where a clause has field names for keys. -/

namespace AnalystQuery.Json

theorem asString?_eq_some_iff {value : Json} {text : String} :
    value.asString? = some text ↔ value = .string text := by
  cases value <;> simp [asString?]

theorem asArray?_eq_some_iff {value : Json} {items : List Json} :
    value.asArray? = some items ↔ value = .array items := by
  cases value <;> simp [asArray?]

end AnalystQuery.Json

namespace AnalystQuery.Query

variable {name : String} {part : Part} {value : Json} {leaves : List Occurrence}

def Occurrence.fields (leaf : Occurrence) : List String := clauseFields leaf.keyword leaf.body

def isBoostName (name : String) : Bool := "boost".toList.isPrefixOf name.toList

/-- Whether a leaf names a field. Where field names are keys, the option `boost` may accompany
them; in a list of fields to search, each may have a weight behind it. -/
inductive Names : Occurrence → String → Prop where
  | key {place : Json.Place} {keyword name : String} {entries : List (String × Json)}
      {operand : Json} (keyed : keyword ∈ fieldKeyedClauses) (field : name ≠ "boost")
      (listed : (name, operand) ∈ entries) : Names ⟨place, keyword, .object entries⟩ name
  | present {place : Json.Place} {body : Json} {name : String}
      (field : body.get? "field" = some (.string name)) : Names ⟨place, "exists", body⟩ name
  | searched {place : Json.Place} {body : Json} {items : List Json} {name weight : String}
      (fields : body.get? "fields" = some (.array items))
      (listed : .string (name ++ weight) ∈ items) (plain : '^' ∉ name.toList)
      (weighted : weight = "" ∨ ∃ factor, weight = "^" ++ factor) :
      Names ⟨place, "multi_match", body⟩ name

/-- The clauses that name fields: those with field names for keys, and two more. -/
def namingClauses : List String := "exists" :: "multi_match" :: fieldKeyedClauses

theorem unweighted_eq_iff {text : String} :
    unweighted text = name ↔ '^' ∉ name.toList ∧
      ∃ weight, text = name ++ weight ∧ (weight = "" ∨ ∃ factor, weight = "^" ++ factor) := by
  constructor
  · rintro rfl
    have whole : text.toList = (unweighted text).toList ++ text.toList.dropWhile (· != '^') := by
      rw [unweighted, String.toList_ofList, List.takeWhile_append_dropWhile]
    refine ⟨?_, String.ofList (text.toList.dropWhile (· != '^')), ?_, ?_⟩
    · intro marked
      rw [unweighted, String.toList_ofList] at marked
      exact absurd (List.mem_takeWhile_imp marked) (by decide)
    · rw [String.ext_iff, String.toList_append, String.toList_ofList, ← whole]
    · cases rest : text.toList.dropWhile (· != '^') with
      | nil => exact Or.inl rfl
      | cons first factor =>
        have mark : first = '^' := by
          simpa [rest] using List.head?_dropWhile_not (· != '^') text.toList
        refine Or.inr ⟨String.ofList factor, ?_⟩
        rw [String.ext_iff, String.toList_append, String.toList_ofList, String.toList_ofList, mark,
          String.toList_ofList]
        rfl
  · rintro ⟨plain, weight, rfl, weighted⟩
    have all : ∀ c ∈ name.toList, (c != '^') = true := by
      intro c member
      exact bne_iff_ne.mpr fun same => plain (same ▸ member)
    have stop : weight.toList.takeWhile (· != '^') = [] := by
      rcases weighted with rfl | ⟨factor, rfl⟩
      · rfl
      · rw [String.toList_append]
        rfl
    rw [unweighted, String.toList_append, List.takeWhile_append_of_pos all, stop, List.append_nil,
      String.ofList_toList]

theorem names_keyed_iff {place : Json.Place} {keyword : String} {body : Json}
    (keyed : keyword ∈ fieldKeyedClauses) :
    Names ⟨place, keyword, body⟩ name ↔ name ≠ "boost" ∧ ∃ entries operand,
      body = .object entries ∧ (name, operand) ∈ entries := by
  constructor
  · intro names
    cases names with
    | key _ field listed => exact ⟨field, _, _, rfl, listed⟩
    | present | searched => exact absurd keyed (by decide)
  · rintro ⟨field, entries, operand, rfl, listed⟩
    exact .key keyed field listed

theorem mem_fields_keyed {place : Json.Place} {keyword : String} {body : Json}
    (keyed : keyword ∈ fieldKeyedClauses) :
    name ∈ Occurrence.fields ⟨place, keyword, body⟩ ↔
      Names ⟨place, keyword, body⟩ name ∧ isPermissiveKey name = false := by
  rw [names_keyed_iff keyed, Occurrence.fields, clauseFields,
    if_pos (List.contains_iff_mem.mpr keyed), List.mem_filter, Bool.not_eq_true']
  refine and_congr_left fun strict => ?_
  have field : name ≠ "boost" := by
    rintro rfl
    cases strict
  rw [and_iff_right field]
  cases body <;> simp [Json.asObject?]

theorem mem_fields_exists {place : Json.Place} {body : Json} :
    name ∈ Occurrence.fields ⟨place, "exists", body⟩ ↔ Names ⟨place, "exists", body⟩ name := by
  have read : Occurrence.fields ⟨place, "exists", body⟩ =
      ((body.get? "field").bind Json.asString?).toList := rfl
  rw [read, Option.mem_toList]
  constructor
  · intro found
    obtain ⟨value, field, text⟩ := Option.bind_eq_some_iff.mp found
    rw [Json.asString?_eq_some_iff] at text
    exact .present (text ▸ field)
  · intro names
    generalize keyword : "exists" = kind at names
    cases names with
    | key keyed => exact absurd (keyword ▸ keyed) (by decide)
    | present field => exact Option.bind_eq_some_iff.mpr ⟨_, field, rfl⟩
    | searched => exact absurd keyword (by decide)

theorem mem_fields_searched {place : Json.Place} {body : Json} :
    name ∈ Occurrence.fields ⟨place, "multi_match", body⟩ ↔
      Names ⟨place, "multi_match", body⟩ name := by
  have read : Occurrence.fields ⟨place, "multi_match", body⟩ =
      ((((body.get? "fields").bind Json.asArray?).getD []).filterMap Json.asString?).map
        unweighted := rfl
  rw [read, List.mem_map]
  constructor
  · rintro ⟨text, member, written⟩
    obtain ⟨plain, weight, rfl, weighted⟩ := unweighted_eq_iff.mp written
    cases found : (body.get? "fields").bind Json.asArray? with
    | none =>
      rw [found] at member
      cases member
    | some items =>
      obtain ⟨value, fields, array⟩ := Option.bind_eq_some_iff.mp found
      rw [found] at member
      obtain ⟨item, listed, text⟩ := List.mem_filterMap.mp member
      rw [Json.asArray?_eq_some_iff] at array
      rw [Json.asString?_eq_some_iff] at text
      exact .searched (array ▸ fields) (text ▸ listed) plain weighted
  · intro names
    generalize keyword : "multi_match" = kind at names
    cases names with
    | key keyed => exact absurd (keyword ▸ keyed) (by decide)
    | present => exact absurd keyword (by decide)
    | searched fields listed plain weighted =>
      refine ⟨_, ?_, unweighted_eq_iff.mpr ⟨plain, _, rfl, weighted⟩⟩
      rw [fields]
      exact List.mem_filterMap.mpr ⟨_, listed, rfl⟩

theorem mem_fields_iff {leaf : Occurrence} (naming : leaf.keyword ∈ namingClauses) :
    name ∈ leaf.fields ↔ Names leaf name ∧
      (leaf.keyword ∈ fieldKeyedClauses → isPermissiveKey name = false) := by
  obtain ⟨place, keyword, body⟩ := leaf
  by_cases keyed : keyword ∈ fieldKeyedClauses
  · rw [mem_fields_keyed keyed]
    exact and_congr_right fun _ => (imp_iff_right keyed).symm
  · rw [and_iff_left fun listed => absurd listed keyed]
    rcases List.mem_cons.mp naming with rfl | other
    · exact mem_fields_exists
    · rcases List.mem_cons.mp other with rfl | listed
      · exact mem_fields_searched
      · exact absurd listed keyed

theorem queryFields_other_eq (body : Json) : queryFields .other body = [] :=
  List.eq_nil_iff_forall_not_mem.mpr fun _ => queryFields_other body

theorem queryFields_cons (position : Position) (key : String) (body : Json)
    (rest : List (String × Json)) :
    queryFields position (.object ((key, body) :: rest)) =
      (if position = .clause then clauseFields key body else []) ++
        queryFields (position.child key) body ++ queryFields position (.object rest) := by
  rw [queryFields, entryQueryFields, queryFields]

theorem flatMap_fields_below (step : Json.Step) (leaves : List Occurrence) :
    (leaves.map (·.below step)).flatMap Occurrence.fields = leaves.flatMap Occurrence.fields := by
  rw [List.flatMap_map]
  rfl

theorem queryFields_items (position : Position) (item : Json) (rest : List Json) :
    queryFields position (.array (item :: rest)) =
      queryFields position item ++ queryFields position (.array rest) := by
  rw [queryFields, itemQueryFields, queryFields]

theorem not_isOption_fields (keyword : String) : ¬ IsOption keyword "fields" := by
  rw [IsOption]
  split <;> decide

theorem get?_fields_body {keyword : String} {sections : List String}
    (known : (keyword, sections) ∈ compounds)
    (composed : Composed (.body (keyword, sections)) value leaves) :
    value.get? "fields" = none := by
  have plain : ∀ compound ∈ compounds, "fields" ∉ compound.2 := by decide
  generalize role : Part.body (keyword, sections) = part at composed
  induction composed with
  | done => rfl
  | nested listed within others group ih =>
    cases role
    have other : _ ≠ "fields" := fun same => plain _ known (same ▸ listed)
    rw [Json.get?, Json.lookup_cons, if_neg other]
    exact ih rfl
  | option beside others ih =>
    cases role
    have other : _ ≠ "fields" := fun same => not_isOption_fields keyword (same ▸ beside)
    rw [Json.get?, Json.lookup_cons, if_neg other]
    exact ih rfl
  | empty | leaf | compound | one | several | last | item => cases role

theorem clauseFields_compound {keyword : String} {sections : List String} {body : Json}
    (known : (keyword, sections) ∈ compounds)
    (composed : Composed (.body (keyword, sections)) body leaves) :
    clauseFields keyword body = [] := by
  have other : ∀ compound ∈ compounds, compound.1 ∉ fieldKeyedClauses ∧ compound.1 ≠ "exists" := by
    decide
  obtain ⟨notKeyed, notExists⟩ := other _ known
  rw [clauseFields, if_neg (mt List.contains_iff_mem.mp notKeyed), if_neg notExists,
    get?_fields_body known composed]
  rfl

theorem queryFields_composed (known : part.Known) (composed : Composed part value leaves) :
    queryFields part.position value = leaves.flatMap Occurrence.fields := by
  induction composed with
  | empty => rfl
  | leaf simple others ih =>
    rw [Part.position_query, queryFields_cons, child_of_simple simple, queryFields_other_eq,
      List.append_nil, if_pos rfl, List.flatMap_cons]
    exact congrArg _ (ih trivial)
  | compound listed within others inner ih =>
    rw [Part.position_query, queryFields_cons, clauseFields_compound listed within, ite_self,
      List.nil_append, List.flatMap_append, flatMap_fields_below, ← inner listed]
    exact congrArg _ (ih trivial)
  | done => rfl
  | nested listed within others inner ih =>
    rw [Part.position_body, queryFields_cons, child_section known listed,
      if_neg (child_ne_clause _), List.nil_append, List.flatMap_append, flatMap_fields_below,
      ← inner trivial]
    exact congrArg _ (ih known)
  | option beside others ih =>
    rw [Part.position_body, queryFields_cons, child_option known beside, if_neg (child_ne_clause _),
      queryFields_other_eq]
    exact ih known
  | one query ih => exact ih trivial
  | several queries ih => exact ih trivial
  | last => rfl
  | item query others inner ih =>
    rw [Part.position_items, queryFields_items, List.flatMap_append, flatMap_fields_below,
      ← inner trivial]
    exact congrArg _ (ih trivial)

/-- Whether a sorting names a field: it is a text, an object or a list of these. -/
inductive SortNames : Json → String → Prop where
  | text {name : String} : SortNames (.string name) name
  | key {entries : List (String × Json)} {name : String} {order : Json}
      (listed : (name, order) ∈ entries) : SortNames (.object entries) name
  | textItem {items : List Json} {name : String} (item : .string name ∈ items) :
      SortNames (.array items) name
  | keyItem {items : List Json} {entries : List (String × Json)} {name : String} {order : Json}
      (item : .object entries ∈ items) (listed : (name, order) ∈ entries) :
      SortNames (.array items) name

theorem mem_sortFields_iff {sort : Json} : name ∈ sortFields sort ↔ SortNames sort name := by
  constructor
  · intro found
    cases sort with
    | string text =>
      obtain rfl := List.mem_singleton.mp found
      exact .text
    | object entries =>
      obtain ⟨⟨key, order⟩, listed, rfl⟩ := List.mem_map.mp found
      exact .key listed
    | array items =>
      obtain ⟨item, member, within⟩ := List.mem_flatMap.mp found
      cases item with
      | string text =>
        obtain rfl := List.mem_singleton.mp within
        exact .textItem member
      | object entries =>
        obtain ⟨⟨key, order⟩, listed, rfl⟩ := List.mem_map.mp within
        exact .keyItem member listed
      | null | bool | integer | float | array => cases within
    | null | bool | integer | float => cases found
  · intro names
    cases names with
    | text => exact List.mem_singleton_self _
    | key listed => exact List.mem_map_of_mem listed
    | textItem item => exact List.mem_flatMap.mpr ⟨_, item, List.mem_singleton_self _⟩
    | keyItem item listed => exact List.mem_flatMap.mpr ⟨_, item, List.mem_map_of_mem listed⟩

/-- Whether leaves of a query or the sorting beside it name a field. -/
def Mentioned (leaves : List Occurrence) (sort : Option Json) (name : String) : Prop :=
  (∃ leaf ∈ leaves, Names leaf name) ∨ ∃ order ∈ sort, SortNames order name

def unkeyed (leaves : List Occurrence) : List Occurrence :=
  leaves.filter fun leaf => !fieldKeyedClauses.contains leaf.keyword

theorem pairwise_insertSorted (text : String) {sorted : List String}
    (ascending : sorted.Pairwise (· < ·)) : (insertSorted text sorted).Pairwise (· < ·) := by
  induction sorted with
  | nil => exact List.pairwise_singleton _ _
  | cons other rest ih =>
    obtain ⟨above, others⟩ := List.pairwise_cons.mp ascending
    rw [insertSorted]
    split
    · rename_i before
      refine List.pairwise_cons.mpr ⟨?_, ascending⟩
      refine List.forall_mem_cons.mpr ⟨before, fun later member => ?_⟩
      exact String.lt_trans before (above later member)
    · split
      · exact ascending
      · rename_i notBefore different
        refine List.pairwise_cons.mpr ⟨fun later member => ?_, ih others⟩
        rcases (mem_insertSorted text rest).mp member with rfl | listed
        · by_contra notAfter
          exact different (String.le_antisymm notAfter notBefore)
        · exact above later listed

theorem pairwise_distinctSorted (texts : List String) :
    (distinctSorted texts).Pairwise (· < ·) := by
  rw [distinctSorted]
  have kept : ∀ sorted : List String, sorted.Pairwise (· < ·) →
      (texts.foldl (fun sorted text => insertSorted text sorted) sorted).Pairwise (· < ·) := by
    induction texts with
    | nil => exact fun sorted ascending => ascending
    | cons text rest ih => exact fun sorted ascending => ih _ (pairwise_insertSorted text ascending)
  exact kept [] List.Pairwise.nil

theorem isPermissiveKey_eq (name : String) :
    isPermissiveKey name = (isEngineName name || isBoostName name) := rfl

theorem isEngineName_of_isBoostName (boost : isBoostName name = true) :
    isEngineName name = false := by
  obtain ⟨rest, start⟩ := List.isPrefixOf_iff_prefix.mp boost
  rw [isEngineName, ← start]
  rfl

theorem mem_unkeyed {leaf : Occurrence} :
    leaf ∈ unkeyed leaves ↔ leaf ∈ leaves ∧ leaf.keyword ∉ fieldKeyedClauses := by
  simp [unkeyed]

section Envelopes

variable {envelope query : Json} (asked : envelope.get? "query" = some query)
  (composed : Composed .query query leaves) (naming : ∀ leaf ∈ leaves, leaf.keyword ∈ namingClauses)
  (alone : ∀ key ∈ ["aggs", "aggregations"], envelope.get? key = none)

include asked composed naming alone

theorem mem_referencedFields_composed (name : String) :
    name ∈ referencedFields envelope ↔
      ((∃ leaf ∈ leaves, Names leaf name ∧
          (leaf.keyword ∈ fieldKeyedClauses → isPermissiveKey name = false)) ∨
        ∃ order ∈ envelope.get? "sort", SortNames order name) ∧ isEngineName name = false := by
  have queried : name ∈ queryFields .clause query ↔ ∃ leaf ∈ leaves, Names leaf name ∧
      (leaf.keyword ∈ fieldKeyedClauses → isPermissiveKey name = false) := by
    have listed : queryFields .clause query = leaves.flatMap Occurrence.fields :=
      @queryFields_composed .query query leaves trivial composed
    rw [listed, List.mem_flatMap]
    exact exists_congr fun leaf => and_congr_right fun member => mem_fields_iff (naming leaf member)
  have sorted : name ∈ (envelope.get? "sort").elim [] sortFields ↔
      ∃ order ∈ envelope.get? "sort", SortNames order name := by
    cases envelope.get? "sort" with
    | none => simp
    | some order => simp [mem_sortFields_iff]
  rw [mem_referencedFields, mentionedFields, List.mem_append, List.mem_append, sorted, asked,
    List.flatMap_cons, List.flatMap_singleton, alone "aggs" (by decide),
    alone "aggregations" (by decide)]
  simp [queried]

theorem mentioned_of_referenced (referenced : name ∈ referencedFields envelope) :
    Mentioned leaves (envelope.get? "sort") name ∧ isEngineName name = false := by
  obtain ⟨named, foreign⟩ :=
    (mem_referencedFields_composed asked composed naming alone name).mp referenced
  refine ⟨named.imp_left ?_, foreign⟩
  rintro ⟨leaf, member, names, -⟩
  exact ⟨leaf, member, names⟩

theorem referenced_of_not_boost (plain : isBoostName name = false)
    (foreign : isEngineName name = false)
    (mentioned : Mentioned leaves (envelope.get? "sort") name) :
    name ∈ referencedFields envelope := by
  have strict : isPermissiveKey name = false := by rw [isPermissiveKey_eq, foreign, plain]; rfl
  refine (mem_referencedFields_composed asked composed naming alone name).mpr ⟨?_, foreign⟩
  refine mentioned.imp_left ?_
  rintro ⟨leaf, member, names⟩
  exact ⟨leaf, member, names, fun _ => strict⟩

/-- A name with `boost` in front is found only where it cannot be taken for an option. -/
theorem referenced_boost_iff (boost : isBoostName name = true) :
    name ∈ referencedFields envelope ↔
      Mentioned (unkeyed leaves) (envelope.get? "sort") name := by
  have lenient : isPermissiveKey name = true := by rw [isPermissiveKey_eq, boost, Bool.or_true]
  rw [mem_referencedFields_composed asked composed naming alone name,
    and_iff_left (isEngineName_of_isBoostName boost), Mentioned]
  refine or_congr_left (exists_congr fun leaf => ?_)
  rw [mem_unkeyed, lenient, and_assoc, and_comm (a := Names leaf name)]
  exact and_congr_right fun _ => and_congr_left fun _ => by simp

end Envelopes

/-- What is found in an envelope with a composed query is named by a leaf of it or in the sorting.
All names that are not names of the engine are found, if and only if those with `boost` in front
are named in the sorting or by leaves that have no field names for keys. -/
theorem referenced_exactly_iff {envelope query : Json}
    (asked : envelope.get? "query" = some query) (composed : Composed .query query leaves)
    (naming : ∀ leaf ∈ leaves, leaf.keyword ∈ namingClauses)
    (alone : ∀ key ∈ ["aggs", "aggregations"], envelope.get? key = none) :
    let sort := envelope.get? "sort"
    (referencedFields envelope).Pairwise (· < ·) ∧
      (∀ name ∈ referencedFields envelope, Mentioned leaves sort name ∧ isEngineName name = false) ∧
      ((∀ name, Mentioned leaves sort name → isEngineName name = false →
          name ∈ referencedFields envelope) ↔
        ∀ name, isBoostName name = true → Mentioned leaves sort name →
          Mentioned (unkeyed leaves) sort name) := by
  intro sort
  refine ⟨pairwise_distinctSorted _, ?_, ?_, ?_⟩
  · exact fun name referenced => mentioned_of_referenced asked composed naming alone referenced
  · intro complete name boost mentioned
    have referenced := complete name mentioned (isEngineName_of_isBoostName boost)
    exact (referenced_boost_iff asked composed naming alone boost).mp referenced
  · intro apart name mentioned foreign
    cases boost : isBoostName name with
    | true =>
      exact (referenced_boost_iff asked composed naming alone boost).mpr
        (apart name boost mentioned)
    | false => exact referenced_of_not_boost asked composed naming alone boost foreign mentioned

/-- Refunds by mail: with options beside the clauses, a weight and an order by score. -/
private def refundsByMail : Json :=
  .object [("query", .object [("bool", .object
    [("_name", .string "outer"), ("boost", .integer 2),
     ("filter", .array
      [.object [("term", .object [("boost", .integer 3), ("channel", .string "email")])],
       .object [("exists", .object [("field", .string "priority")])]]),
     ("must", .object [("multi_match", .object
      [("fields", .array [.string "subject^2"]), ("query", .string "refund")])])])]),
   ("sort", .array [.string "_score", .object [("timestamp", .string "desc")]])]

theorem fields_of_refundsByMail :
    referencedFields refundsByMail = ["channel", "priority", "subject", "timestamp"] ∧
      ∃ query leaves, refundsByMail.get? "query" = some query ∧ Composed .query query leaves ∧
        (∀ leaf ∈ leaves, leaf.keyword ∈ namingClauses) ∧
        (∀ key ∈ ["aggs", "aggregations"], refundsByMail.get? key = none) ∧
        let sort := refundsByMail.get? "sort"
        (referencedFields refundsByMail).Pairwise (· < ·) ∧
          (∀ name ∈ referencedFields refundsByMail,
            Mentioned leaves sort name ∧ isEngineName name = false) ∧
          ((∀ name, Mentioned leaves sort name → isEngineName name = false →
              name ∈ referencedFields refundsByMail) ↔
            ∀ name, isBoostName name = true → Mentioned leaves sort name →
              Mentioned (unkeyed leaves) sort name) := by
  have bool : ("bool", ["must", "should", "filter", "must_not"]) ∈ compounds := by decide
  have leaf : ∀ keyword ∈ namingClauses, keyword ∉ "bool" :: wrapperClauses := by decide
  have alone : ∀ key ∈ ["aggs", "aggregations"], refundsByMail.get? key = none :=
    List.forall_mem_cons.mpr ⟨rfl, List.forall_mem_singleton.mpr rfl⟩
  have composed : ∃ query leaves, refundsByMail.get? "query" = some query ∧
      Composed .query query leaves ∧ ∀ leaf ∈ leaves, leaf.keyword ∈ namingClauses := by
    refine ⟨_, _, rfl, .compound bool (.option (by decide) (.option (by decide)
      (.nested (by decide) (.several (.item (.leaf (leaf _ (by decide)) .empty)
        (.item (.leaf (leaf _ (by decide)) .empty) .last)))
      (.nested (by decide) (.one (.leaf (leaf _ (by decide)) .empty)) .done)))) .empty, ?_⟩
    decide
  obtain ⟨query, leaves, asked, composed, naming⟩ := composed
  refine ⟨by decide +kernel, query, leaves, asked, composed, naming, alone, ?_⟩
  exact referenced_exactly_iff asked composed naming alone

private def highBoostLevel : Json :=
  .object [("query", .object [("term", .object [("boost_level", .integer 3)])])]

/-- A field that is called like a boost is not found. -/
theorem boost_level_not_found :
    ¬ ∀ (envelope query : Json) (leaves : List Occurrence), envelope.get? "query" = some query →
      Composed .query query leaves → (∀ leaf ∈ leaves, leaf.keyword ∈ namingClauses) →
      (∀ key ∈ ["aggs", "aggregations"], envelope.get? key = none) →
      ∀ name, name ∈ referencedFields envelope ↔
        Mentioned leaves (envelope.get? "sort") name ∧ isEngineName name = false := by
  intro exact
  have found := exact highBoostLevel _ _ rfl (.leaf (by decide) .empty) (by decide)
    (List.forall_mem_cons.mpr ⟨rfl, List.forall_mem_singleton.mpr rfl⟩) "boost_level"
  have nothing : referencedFields highBoostLevel = [] := by decide +kernel
  have listed := found.mpr ⟨Or.inl ⟨_, List.mem_singleton_self _, .key (by decide) (by decide)
    (List.mem_singleton_self _)⟩, by decide⟩
  rw [nothing] at listed
  cases listed

end AnalystQuery.Query
