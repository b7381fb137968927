import AnalystQuery.Proofs.Query.CompiledInspection
import AnalystQuery.Proofs.Query.Composition

/-! Composed queries under inspection: all that is found in one are its leaves with unknown
keywords, one for each. Clauses that are not known can be inserted wherever clauses stand. -/

namespace AnalystQuery.Query

open Json (KeysIn Place Step)

variable {part : Part} {value grown : Json} {place : Place} {leaves : List Occurrence}

def Occurrence.findings (path : String) (leaf : Occurrence) : List Finding :=
  if Position.clause.knows leaf.keyword then [] else [.unknownClause (pathFrom path leaf.place)]

def Part.findings (path : String) (part : Part) (value : Json) : List Finding :=
  match part, value with
  | items index, .array queries => itemFindings path .clause index queries
  | _, _ => Query.findings path part.position value

theorem Part.findings_query (path : String) (value : Json) :
    Part.query.findings path value = Query.findings path .clause value := rfl

theorem Part.findings_body (path : String) (compound : String × List String) (value : Json) :
    (Part.body compound).findings path value =
      Query.findings path (Position.child .clause compound.1) value := rfl

theorem findings_cons (path : String) (position : Position) (key : String) (value : Json)
    (rest : List (String × Json)) :
    findings path position (.object ((key, value) :: rest)) =
      keyFindings key (joinPath path key) position ++
        findings (joinPath path key) (position.child key) value ++
        findings path position (.object rest) := by
  rw [findings, entryFindings, findings]

theorem keyFindings_of_permitted {key : String} (permitted : Permitted key) (path : String)
    (position : Position) :
    keyFindings key path position = if position.knows key then [] else [.unknownClause path] := by
  rw [keyFindings, permitted]
  rfl

theorem findings_other {body : Json} (inside : KeysIn Permitted body) (path : String) :
    findings path .other body = [] := by
  refine List.eq_nil_iff_forall_not_mem.mpr fun finding member => ?_
  cases finding with
  | violation reported =>
    have harmless := (harmless_findings path .other body).mpr inside
    exact absurd (List.filterMap_eq_nil_iff.mp harmless _ member) nofun
  | unknownClause reported =>
    obtain ⟨inner, key, below, stands, unknown⟩ := exists_unknown_of_mem_findings member
    rw [stands.outside] at unknown
    cases unknown

theorem flatMap_findings_below (path : String) (step : Step) (leaves : List Occurrence) :
    (leaves.map (·.below step)).flatMap (·.findings path) =
      leaves.flatMap (·.findings (pathFrom path [step])) := by
  rw [List.flatMap_map]
  rfl

theorem knows_compound {keyword : String} {sections : List String}
    (known : (keyword, sections) ∈ compounds) : Position.clause.knows keyword = true := by
  have each : ∀ compound ∈ compounds, Position.clause.knows compound.1 = true := by decide
  exact each (keyword, sections) known

theorem knows_section {keyword key : String} {sections : List String}
    (known : (keyword, sections) ∈ compounds) (listed : key ∈ sections) :
    (Position.child .clause keyword).knows key = true := by
  have each : ∀ compound ∈ compounds, ∀ key ∈ compound.2,
      (Position.child .clause compound.1).knows key = true := by decide
  exact each (keyword, sections) known key listed

theorem knows_option {keyword key : String} {sections : List String}
    (known : (keyword, sections) ∈ compounds) (beside : IsOption keyword key) :
    (Position.child .clause keyword).knows key = true := by
  rw [IsOption] at beside
  split at beside
  · rename_i bool
    rw [bool]
    rcases beside with rfl | permissive
    · decide
    · simp [Position.child, Position.knows, permissive]
  · rename_i notBool
    have wrapper : ∀ compound ∈ compounds, compound.1 ≠ "bool" →
        Position.child .clause compound.1 = .wrapper := by decide
    rw [wrapper _ known notBool]
    rfl

theorem findings_composed (known : part.Known) (composed : Composed part value leaves)
    (inside : KeysIn Permitted value) (path : String) :
    part.findings path value = leaves.flatMap (·.findings path) := by
  induction composed generalizing path with
  | empty =>
    rw [Part.findings_query, findings]
    rfl
  | leaf simple others ih =>
    obtain ⟨⟨permitted, below⟩, rest⟩ := (Json.keysIn_cons _ _ _).mp inside
    rw [Part.findings_query, findings_cons, keyFindings_of_permitted permitted,
      child_of_simple simple, findings_other below, List.append_nil, List.flatMap_cons]
    exact congrArg _ (ih trivial rest path)
  | compound listed within others inner ih =>
    obtain ⟨⟨permitted, below⟩, rest⟩ := (Json.keysIn_cons _ _ _).mp inside
    rw [Part.findings_query, findings_cons, keyFindings_of_permitted permitted,
      if_pos (knows_compound listed), List.nil_append, List.flatMap_append,
      flatMap_findings_below]
    exact congrArg₂ _ (inner listed below _) (ih trivial rest path)
  | done =>
    rw [Part.findings_body, findings]
    rfl
  | nested listed within others inner ih =>
    obtain ⟨⟨permitted, below⟩, rest⟩ := (Json.keysIn_cons _ _ _).mp inside
    rw [Part.findings_body, findings_cons, keyFindings_of_permitted permitted,
      if_pos (knows_section known listed), child_section known listed, List.nil_append,
      List.flatMap_append, flatMap_findings_below]
    exact congrArg₂ _ (inner trivial below _) (ih known rest path)
  | option beside others ih =>
    obtain ⟨⟨permitted, below⟩, rest⟩ := (Json.keysIn_cons _ _ _).mp inside
    rw [Part.findings_body, findings_cons, keyFindings_of_permitted permitted,
      if_pos (knows_option known beside), child_option known beside, findings_other below]
    exact ih known rest path
  | one query ih => exact ih trivial inside path
  | several queries ih => exact ih trivial inside path
  | last => rfl
  | item query others inner ih =>
    obtain ⟨own, rest⟩ := List.forall_mem_cons.mp ((Json.keysIn_array _).mp inside)
    rw [List.flatMap_append, flatMap_findings_below]
    exact congrArg₂ _ (inner trivial own _) (ih trivial ((Json.keysIn_array _).mpr rest) path)

theorem inspect_composed {query : Json} (composed : Composed .query query leaves)
    (inside : KeysIn Permitted query) :
    inspect defaultTopLevelKeys (single "query" query) =
      leaves.flatMap (·.findings "query") := by
  have top : topFindings defaultTopLevelKeys "query" query = findings "query" .clause query := by
    have listed : defaultTopLevelKeys.contains "query" = true := by decide
    have permitted : Permitted "query" := by decide
    rw [topFindings, if_pos listed, keyFindings_of_permitted permitted]
    rfl
  rw [single, inspect, List.flatMap_singleton]
  refine top.trans ?_
  exact @findings_composed .query query leaves trivial composed inside "query"

def unknownLeaves (leaves : List Occurrence) : List Occurrence :=
  leaves.filter fun leaf => !Position.clause.knows leaf.keyword

theorem flatMap_findings_eq (path : String) (leaves : List Occurrence) :
    leaves.flatMap (·.findings path) =
      (unknownLeaves leaves).map fun leaf => .unknownClause (pathFrom path leaf.place) := by
  induction leaves with
  | nil => rfl
  | cons leaf rest ih =>
    rw [List.flatMap_cons, ih, Occurrence.findings, unknownLeaves, unknownLeaves,
      List.filter_cons]
    cases Position.clause.knows leaf.keyword <;> rfl

/-- Only leaves with unknown keywords are found in a composed query. -/
theorem inspect_composed_eq {query : Json} (composed : Composed .query query leaves)
    (inside : KeysIn Permitted query) :
    violations defaultTopLevelKeys (single "query" query) = [] ∧
      unknownClauses defaultTopLevelKeys (single "query" query) =
        (unknownLeaves leaves).map fun leaf => pathFrom "query" leaf.place := by
  rw [violations, unknownClauses, inspect_composed composed inside, flatMap_findings_eq,
    List.filterMap_map, List.filterMap_map]
  exact ⟨List.filterMap_eq_nil_iff.mpr fun _ _ => rfl, congrFun List.filterMap_eq_map _⟩

/-- A clause outside the grammar, with nothing forbidden in it. -/
structure Foreign (key : String) (body : Json) : Prop where
  unknown : key ∉ knownClauses
  notStructural : key ∉ boolKeys
  notPermissive : isPermissiveKey key = false
  permitted : Permitted key
  inside : KeysIn Permitted body

/-- A foreign clause is inserted at a place, in a query or as a further query of a list. -/
inductive Inserted : Part → Json → Place → Json → Prop where
  | clause {key : String} {body : Json} {before after : List (String × Json)}
      (foreign : Foreign key body) :
      Inserted .query (.object (before ++ after)) [.key key]
        (.object (before ++ (key, body) :: after))
  | compound {keyword : String} {sections : List String} {body grown : Json} {place : Place}
      {before after : List (String × Json)} (listed : (keyword, sections) ∈ compounds)
      (within : Inserted (.body (keyword, sections)) body place grown) :
      Inserted .query (.object (before ++ (keyword, body) :: after)) (.key keyword :: place)
        (.object (before ++ (keyword, grown) :: after))
  | nested {keyword key : String} {sections : List String} {value grown : Json} {place : Place}
      {before after : List (String × Json)} (listed : key ∈ sections)
      (within : Inserted .group value place grown) :
      Inserted (.body (keyword, sections)) (.object (before ++ (key, value) :: after))
        (.key key :: place) (.object (before ++ (key, grown) :: after))
  | one {value grown : Json} {place : Place} (within : Inserted .query value place grown) :
      Inserted .group value place grown
  | newItem {key : String} {body : Json} {before after : List Json} (foreign : Foreign key body) :
      Inserted .group (.array (before ++ after)) [.item before.length, .key key]
        (.array (before ++ single key body :: after))
  | item {value grown : Json} {place : Place} {before after : List Json}
      (within : Inserted .query value place grown) :
      Inserted .group (.array (before ++ value :: after)) (.item before.length :: place)
        (.array (before ++ grown :: after))

/-- Foreign clauses are inserted one after the other, as many as a number tells. -/
inductive Grown (query : Json) : Nat → Json → Prop where
  | start : Grown query 0 query
  | insert {count : Nat} {grown larger : Json} {place : Place} (soFar : Grown query count grown)
      (inserted : Inserted .query grown place larger) : Grown query (count + 1) larger

/-- The leaves of a part and one more at a place. -/
def Gains (part : Part) (leaves : List Occurrence) (place : Place) (grown : Json) : Prop :=
  ∃ first second key body, Foreign key body ∧
    Composed part grown (first ++ ⟨place, key, body⟩ :: second) ∧
    (first ++ second).map (·.keyword) = leaves.map (·.keyword)

theorem Foreign.simple {key : String} {body : Json} (foreign : Foreign key body) :
    key ∉ "bool" :: wrapperClauses := by
  have known : ∀ keyword ∈ "bool" :: wrapperClauses, keyword ∈ knownClauses := by decide
  exact fun listed => foreign.unknown (known key listed)

theorem Gains.below {step : Step} {before after : List Occurrence}
    (gains : Gains part leaves place grown) {outer : Part} {whole : Json}
    (built : ∀ inner, Composed part grown inner →
      Composed outer whole (before ++ (inner.map (·.below step) ++ after))) :
    Gains outer (before ++ (leaves.map (·.below step) ++ after)) (step :: place) whole := by
  obtain ⟨first, second, key, body, foreign, composed, same⟩ := gains
  refine ⟨before ++ first.map (·.below step), second.map (·.below step) ++ after, key, body,
    foreign, ?_, ?_⟩
  · have larger := built _ composed
    rw [List.map_append, List.map_cons, List.append_assoc, ← List.append_assoc before] at larger
    exact larger
  · rw [← List.append_assoc, List.append_assoc before, ← List.map_append, List.map_append,
      List.map_append, map_keyword_below, same, List.map_append, List.map_append,
      map_keyword_below, List.append_assoc]

theorem Inserted.composed (inserted : Inserted part value place grown) (known : part.Known)
    (composed : Composed part value leaves) : Gains part leaves place grown := by
  induction inserted generalizing leaves with
  | clause foreign =>
    obtain ⟨first, second, before, after, rfl⟩ := (composed_append .query nofun).mp composed
    refine ⟨first, second, _, _, foreign, ?_, rfl⟩
    exact (composed_append .query nofun).mpr ⟨_, _, before, .leaf foreign.simple after, rfl⟩
  | compound listed within ih =>
    obtain ⟨first, second, before, after, rfl⟩ := (composed_append .query nofun).mp composed
    cases after with
    | leaf simple => exact absurd (not_simple_of_compound listed) simple
    | compound again body others =>
      cases sections_unique listed again
      refine (ih listed body).below fun inner larger => ?_
      exact (composed_append .query nofun).mpr ⟨_, _, before, .compound listed larger others, rfl⟩
  | nested listed within ih =>
    obtain ⟨first, second, before, after, rfl⟩ := (composed_append (.body _) nofun).mp composed
    cases after with
    | nested again part others =>
      refine (ih trivial part).below fun inner larger => ?_
      exact (composed_append (.body _) nofun).mpr
        ⟨_, _, before, .nested listed larger others, rfl⟩
    | option beside others =>
      have clause := child_section known listed
      rw [child_option known beside] at clause
      cases clause
  | one within ih =>
    cases composed with
    | one query =>
      obtain ⟨first, second, key, body, foreign, larger, same⟩ := ih trivial query
      exact ⟨first, second, key, body, foreign, .one larger, same⟩
    | several => cases within
  | newItem foreign =>
    cases composed with
    | one query => cases query
    | several queries =>
      obtain ⟨first, second, before, after, rfl⟩ := composed_items_append.mp queries
      obtain ⟨renumbered, moved, same⟩ := exists_composed_items _ after
      refine ⟨first, renumbered, _, _, foreign, ?_, ?_⟩
      · refine .several (composed_items_append.mpr ⟨_, _, before, ?_, rfl⟩)
        rw [Nat.zero_add]
        exact .item (.leaf foreign.simple .empty) moved
      · rw [List.map_append, List.map_append, same]
  | item within ih =>
    cases composed with
    | one query => cases query
    | several queries =>
      obtain ⟨first, second, before, after, rfl⟩ := composed_items_append.mp queries
      cases after with
      | item query others =>
        rw [Nat.zero_add] at others ⊢
        refine (ih trivial query).below fun inner larger => ?_
        refine .several (composed_items_append.mpr ⟨_, _, before, ?_, rfl⟩)
        rw [Nat.zero_add]
        exact .item larger others

theorem keysIn_insert {before after : List (String × Json)} {key : String} {body : Json} :
    KeysIn Permitted (.object (before ++ (key, body) :: after)) ↔
      KeysIn Permitted (.object (before ++ after)) ∧ Permitted key ∧ KeysIn Permitted body := by
  rw [Json.keysIn_object, Json.keysIn_object, List.forall_mem_append, List.forall_mem_append,
    List.forall_mem_cons, and_left_comm, and_comm]

theorem keysIn_insertItem {before after : List Json} {item : Json} :
    KeysIn Permitted (.array (before ++ item :: after)) ↔
      KeysIn Permitted (.array (before ++ after)) ∧ KeysIn Permitted item := by
  rw [Json.keysIn_array, Json.keysIn_array, List.forall_mem_append, List.forall_mem_append,
    List.forall_mem_cons, and_left_comm, and_comm]

theorem Inserted.permitted (inserted : Inserted part value place grown)
    (inside : KeysIn Permitted value) : KeysIn Permitted grown := by
  induction inserted with
  | clause foreign => exact keysIn_insert.mpr ⟨inside, foreign.permitted, foreign.inside⟩
  | compound listed within ih | nested listed within ih =>
    obtain ⟨others, permitted, below⟩ := keysIn_insert.mp inside
    exact keysIn_insert.mpr ⟨others, permitted, ih below⟩
  | one within ih => exact ih inside
  | newItem foreign =>
    refine keysIn_insertItem.mpr ⟨inside, ?_⟩
    exact (keysIn_single _ _).mpr ⟨foreign.permitted, foreign.inside⟩
  | item within ih =>
    obtain ⟨others, below⟩ := keysIn_insertItem.mp inside
    exact keysIn_insertItem.mpr ⟨others, ih below⟩

theorem Foreign.not_known {key : String} {body : Json} (foreign : Foreign key body) :
    Position.clause.knows key = false := by
  simp [Position.knows, foreign.unknown, foreign.notStructural, foreign.notPermissive]

theorem length_unknownLeaves (leaves : List Occurrence) :
    (unknownLeaves leaves).length =
      (leaves.map (·.keyword)).countP (!Position.clause.knows ·) := by
  rw [List.countP_map, List.countP_eq_length_filter]
  rfl

theorem Inserted.unknown {query : Json} (inserted : Inserted .query query place grown)
    (composed : Composed .query query leaves) :
    ∃ larger, Composed .query grown larger ∧
      (unknownLeaves larger).length = (unknownLeaves leaves).length + 1 ∧
      ∃ leaf ∈ unknownLeaves larger, leaf.place = place := by
  obtain ⟨first, second, key, body, foreign, larger, same⟩ := inserted.composed trivial composed
  refine ⟨_, larger, ?_, ⟨place, key, body⟩, ?_, rfl⟩
  · rw [length_unknownLeaves, length_unknownLeaves, ← same, List.map_append, List.map_append,
      List.map_cons, List.countP_append, List.countP_append, List.countP_cons, foreign.not_known]
    rfl
  · refine List.mem_filter.mpr ⟨List.mem_append_right _ List.mem_cons_self, ?_⟩
    rw [foreign.not_known]
    rfl

theorem Grown.unknown {query : Json} {count : Nat} (soFar : Grown query count grown)
    (composed : Composed .query query leaves) (inside : KeysIn Permitted query) :
    ∃ larger, Composed .query grown larger ∧ KeysIn Permitted grown ∧
      (unknownLeaves larger).length = (unknownLeaves leaves).length + count := by
  induction soFar with
  | start => exact ⟨leaves, composed, inside, rfl⟩
  | insert soFar inserted ih =>
    obtain ⟨before, built, permitted, counted⟩ := ih
    obtain ⟨larger, rebuilt, more, -⟩ := inserted.unknown built
    refine ⟨larger, rebuilt, inserted.permitted permitted, ?_⟩
    rw [more, counted, Nat.add_assoc]

/-- In a composed query with known clauses nothing is found, and after foreign clauses have been
inserted anywhere in it, each of these is listed as unknown and still nothing is refused. -/
theorem known_queries_clean {query : Json} (composed : Composed .query query leaves)
    (known : ∀ leaf ∈ leaves, leaf.keyword ∈ knownClauses) (inside : KeysIn Permitted query) :
    inspect defaultTopLevelKeys (single "query" query) = [] ∧
      ∀ (count : Nat) (grown : Json), Grown query count grown →
        violations defaultTopLevelKeys (single "query" grown) = [] ∧
          (unknownClauses defaultTopLevelKeys (single "query" grown)).length = count ∧
          ∀ (place : Place) (larger : Json), Inserted .query grown place larger →
            pathFrom "query" place ∈
              unknownClauses defaultTopLevelKeys (single "query" larger) := by
  have none : unknownLeaves leaves = [] := by
    refine List.filter_eq_nil_iff.mpr fun leaf member => ?_
    simp [Position.knows, known leaf member]
  constructor
  · rw [inspect_composed composed inside, flatMap_findings_eq, none]
    rfl
  · intro count grown soFar
    obtain ⟨larger, built, permitted, counted⟩ := soFar.unknown composed inside
    obtain ⟨harmless, listed⟩ := inspect_composed_eq built permitted
    refine ⟨harmless, ?_, ?_⟩
    · rw [listed, List.length_map, counted, none, List.length_nil, Nat.zero_add]
    · intro place next inserted
      obtain ⟨leaves, rebuilt, -, leaf, member, rfl⟩ := inserted.unknown built
      obtain ⟨-, again⟩ := inspect_composed_eq rebuilt (inserted.permitted permitted)
      rw [again]
      exact List.mem_map_of_mem member

/-- What is not closed and came by mail or chat; the entries are put beside the status. -/
private def openMessages (beside : List (String × Json)) : Json :=
  single "bool" (.object
    [("boost", .integer 2),
     ("filter", .array [single "constant_score" (single "filter"
       (single "terms" (single "channel" (.strings ["email", "chat"]))))]),
     ("minimum_should_match", .integer 1),
     ("should", .array [single "bool" (single "must_not"
       (.object (("term", single "status" (.string "closed")) :: beside)))])])

theorem semantic_magic_listed :
    inspect defaultTopLevelKeys (single "query" (openMessages [])) = [] ∧
      ∀ magic : Json, KeysIn Permitted magic →
        violations defaultTopLevelKeys
            (single "query" (openMessages [("semantic_magic", magic)])) = [] ∧
          unknownClauses defaultTopLevelKeys
              (single "query" (openMessages [("semantic_magic", magic)])) =
            ["query.bool.should[0].bool.must_not.semantic_magic"] := by
  have bool : ("bool", ["must", "should", "filter", "must_not"]) ∈ compounds := by decide
  have constant : ("constant_score", ["filter"]) ∈ compounds := by decide
  have composed : ∃ leaves, Composed .query (openMessages []) leaves ∧
      ∀ leaf ∈ leaves, leaf.keyword ∈ knownClauses := by
    refine ⟨_, .compound bool (.option (by decide) (.nested (by decide) (.several (.item
      (.compound constant (.nested (by decide) (.one (.leaf (by decide) .empty)) .done) .empty)
      .last)) (.option (by decide) (.nested (by decide) (.several (.item
      (.compound bool (.nested (by decide) (.one (.leaf (by decide) .empty)) .done) .empty)
      .last)) .done)))) .empty, ?_⟩
    decide
  obtain ⟨leaves, composed, known⟩ := composed
  have inside : KeysIn Permitted (openMessages []) := by decide
  obtain ⟨nothing, clean⟩ := known_queries_clean composed known inside
  refine ⟨nothing, fun magic permitted => ?_⟩
  have foreign : Foreign "semantic_magic" magic :=
    ⟨by decide, by decide, by decide, by decide, permitted⟩
  have inserted : Inserted .query (openMessages [])
      [.key "bool", .key "should", .item 0, .key "bool", .key "must_not", .key "semantic_magic"]
      (openMessages [("semantic_magic", magic)]) := by
    refine @Inserted.compound _ _ _ _ _ [] [] bool ?_
    refine @Inserted.nested _ _ _ _ _ _ [_, _, _] [] (by decide) ?_
    refine @Inserted.item _ _ _ [] [] (@Inserted.compound _ _ _ _ _ [] [] bool ?_)
    refine @Inserted.nested _ _ _ _ _ _ [] [] (by decide) (.one ?_)
    exact @Inserted.clause _ _ [_] [] foreign
  obtain ⟨harmless, once, -⟩ := clean 1 _ (.insert .start inserted)
  obtain ⟨reported, only⟩ := List.length_eq_one_iff.mp once
  have listed := (clean 0 _ .start).2.2 _ _ inserted
  rw [only] at listed ⊢
  refine ⟨harmless, ?_⟩
  rw [← List.mem_singleton.mp listed]
  decide

end AnalystQuery.Query
