import AnalystQuery.Proofs.Json.Places
import AnalystQuery.Query.Inspection

/-! How queries are composed. A query is an object of clauses. A compound clause holds further
queries in its sections, one or a list of them in each, and may have options beside these; every
other clause is a leaf. The grammar lists the leaves of a query with the places where they stand. -/

namespace AnalystQuery.Query

open Json (Place Step)

/-- The compound clauses with the keys of their sections. -/
def compounds : List (String × List String) :=
  [("bool", ["must", "should", "filter", "must_not"]), ("constant_score", ["filter"]),
   ("dis_max", ["queries"]), ("boosting", ["positive", "negative"]), ("nested", ["query"]),
   ("has_child", ["query"])]

/-- The keys of options beside the sections of a compound clause. -/
def IsOption (keyword key : String) : Prop :=
  if keyword = "bool" then key = "minimum_should_match" ∨ isPermissiveKey key = true
  else key ∉ ["filter", "query", "queries", "positive", "negative", "fields"]

instance (keyword key : String) : Decidable (IsOption keyword key) :=
  inferInstanceAs (Decidable (if keyword = "bool" then _ else _))

/-- A leaf clause of a query, with the place of its keyword. -/
structure Occurrence where
  place : Place
  keyword : String
  body : Json

def Occurrence.below (step : Step) (occurrence : Occurrence) : Occurrence :=
  { occurrence with place := step :: occurrence.place }

/-- The parts that queries are made of. -/
inductive Part where
  | query
  /-- one query or a list of queries -/
  | group
  /-- the queries of a list from a number on -/
  | items (index : Nat)
  /-- what stands under the keyword of a compound clause -/
  | body (compound : String × List String)

def Part.position : Part → Position
  | .body compound => Position.child .clause compound.1
  | _ => .clause

@[simp] theorem Part.position_query : Part.query.position = .clause := rfl

@[simp] theorem Part.position_items (index : Nat) : (Part.items index).position = .clause := rfl

@[simp] theorem Part.position_body (compound : String × List String) :
    (Part.body compound).position = Position.child .clause compound.1 := rfl

/-- Bodies belong to compound clauses. -/
def Part.Known : Part → Prop
  | .body compound => compound ∈ compounds
  | _ => True

/-- Values that are composed by the grammar, with their leaves. -/
inductive Composed : Part → Json → List Occurrence → Prop where
  | empty : Composed .query (.object []) []
  | leaf {keyword : String} {body : Json} {rest : List (String × Json)}
      {leaves : List Occurrence} (simple : keyword ∉ "bool" :: wrapperClauses)
      (others : Composed .query (.object rest) leaves) :
      Composed .query (.object ((keyword, body) :: rest))
        (⟨[.key keyword], keyword, body⟩ :: leaves)
  | compound {keyword : String} {sections : List String} {body : Json}
      {rest : List (String × Json)} {inner leaves : List Occurrence}
      (listed : (keyword, sections) ∈ compounds)
      (within : Composed (.body (keyword, sections)) body inner)
      (others : Composed .query (.object rest) leaves) :
      Composed .query (.object ((keyword, body) :: rest))
        (inner.map (·.below (.key keyword)) ++ leaves)
  | done {compound : String × List String} : Composed (.body compound) (.object []) []
  | nested {keyword key : String} {sections : List String} {value : Json}
      {rest : List (String × Json)} {inner leaves : List Occurrence} (listed : key ∈ sections)
      (within : Composed .group value inner)
      (others : Composed (.body (keyword, sections)) (.object rest) leaves) :
      Composed (.body (keyword, sections)) (.object ((key, value) :: rest))
        (inner.map (·.below (.key key)) ++ leaves)
  | option {keyword key : String} {sections : List String} {value : Json}
      {rest : List (String × Json)} {leaves : List Occurrence} (beside : IsOption keyword key)
      (others : Composed (.body (keyword, sections)) (.object rest) leaves) :
      Composed (.body (keyword, sections)) (.object ((key, value) :: rest)) leaves
  | one {value : Json} {leaves : List Occurrence} (query : Composed .query value leaves) :
      Composed .group value leaves
  | several {items : List Json} {leaves : List Occurrence}
      (queries : Composed (.items 0) (.array items) leaves) : Composed .group (.array items) leaves
  | last {index : Nat} : Composed (.items index) (.array []) []
  | item {index : Nat} {value : Json} {rest : List Json} {inner leaves : List Occurrence}
      (query : Composed .query value inner)
      (others : Composed (.items (index + 1)) (.array rest) leaves) :
      Composed (.items index) (.array (value :: rest))
        (inner.map (·.below (.item index)) ++ leaves)

theorem child_ne_clause (keyword : String) : Position.child .clause keyword ≠ .clause := by
  rw [Position.child]
  split
  · exact nofun
  · split <;> exact nofun

theorem child_of_simple {keyword : String} (simple : keyword ∉ "bool" :: wrapperClauses) :
    Position.child .clause keyword = .other := by
  obtain ⟨notBool, notWrapper⟩ := List.ne_and_not_mem_of_not_mem_cons simple
  simp [Position.child, notBool, notWrapper]

theorem not_simple_of_compound {keyword : String} {sections : List String}
    (known : (keyword, sections) ∈ compounds) : keyword ∈ "bool" :: wrapperClauses := by
  have each : ∀ compound ∈ compounds, compound.1 ∈ "bool" :: wrapperClauses := by decide
  exact each (keyword, sections) known

theorem sections_unique {keyword : String} {sections others : List String}
    (known : (keyword, sections) ∈ compounds) (again : (keyword, others) ∈ compounds) :
    sections = others := by
  have each : ∀ compound ∈ compounds, ∀ other ∈ compounds, compound.1 = other.1 →
      compound.2 = other.2 := by decide
  exact each _ known _ again rfl

theorem child_section {keyword key : String} {sections : List String}
    (known : (keyword, sections) ∈ compounds) (listed : key ∈ sections) :
    (Position.child .clause keyword).child key = .clause := by
  have each : ∀ compound ∈ compounds, ∀ key ∈ compound.2,
      (Position.child .clause compound.1).child key = .clause := by decide
  exact each (keyword, sections) known key listed

theorem child_option {keyword key : String} {sections : List String}
    (known : (keyword, sections) ∈ compounds) (beside : IsOption keyword key) :
    (Position.child .clause keyword).child key = .other := by
  rw [IsOption] at beside
  split at beside
  · rename_i bool
    have plain : ∀ key ∈ ["must", "should", "filter", "must_not"],
        key ≠ "minimum_should_match" ∧ isPermissiveKey key = false := by decide
    have notSection : key ∉ ["must", "should", "filter", "must_not"] := by
      intro listed
      obtain ⟨notCount, notPermissive⟩ := plain key listed
      rcases beside with count | permissive
      · exact notCount count
      · rw [notPermissive] at permissive
        cases permissive
    rw [bool]
    simp [Position.child, notSection]
  · rename_i notBool
    have wrapper : ∀ compound ∈ compounds, compound.1 ≠ "bool" →
        Position.child .clause compound.1 = .wrapper := by decide
    have notSection : key ∉ ["filter", "query", "queries", "positive", "negative"] :=
      fun listed => beside (List.mem_append_left ["fields"] listed)
    rw [wrapper _ known notBool]
    simp [Position.child, notSection]

variable {leaves : List Occurrence}

theorem map_keyword_below (step : Step) (leaves : List Occurrence) :
    (leaves.map (·.below step)).map (·.keyword) = leaves.map (·.keyword) := by
  rw [List.map_map]
  rfl

theorem composed_append (part : Part) {before after : List (String × Json)}
    (entries : part ≠ .group) :
    Composed part (.object (before ++ after)) leaves ↔ ∃ first second,
      Composed part (.object before) first ∧ Composed part (.object after) second ∧
        leaves = first ++ second := by
  induction before generalizing leaves with
  | nil =>
    constructor
    · intro composed
      cases part with
      | query => exact ⟨[], leaves, .empty, composed, rfl⟩
      | body => exact ⟨[], leaves, .done, composed, rfl⟩
      | group => exact absurd rfl entries
      | items => cases composed
    · rintro ⟨first, second, none, composed, rfl⟩
      cases none with
      | empty | done => exact composed
      | one => exact absurd rfl entries
  | cons entry before ih =>
    constructor
    · intro composed
      cases composed with
      | leaf simple others =>
        obtain ⟨first, second, own, later, rfl⟩ := ih.mp others
        exact ⟨_, second, .leaf simple own, later, rfl⟩
      | compound listed within others =>
        obtain ⟨first, second, own, later, rfl⟩ := ih.mp others
        exact ⟨_, second, .compound listed within own, later, (List.append_assoc _ _ _).symm⟩
      | nested listed within others =>
        obtain ⟨first, second, own, later, rfl⟩ := ih.mp others
        exact ⟨_, second, .nested listed within own, later, (List.append_assoc _ _ _).symm⟩
      | option beside others =>
        obtain ⟨first, second, own, later, rfl⟩ := ih.mp others
        exact ⟨_, second, .option beside own, later, rfl⟩
      | one => exact absurd rfl entries
    · rintro ⟨first, second, own, later, rfl⟩
      cases own with
      | leaf simple others => exact .leaf simple (ih.mpr ⟨_, _, others, later, rfl⟩)
      | compound listed within others =>
        rw [List.append_assoc]
        exact .compound listed within (ih.mpr ⟨_, _, others, later, rfl⟩)
      | nested listed within others =>
        rw [List.append_assoc]
        exact .nested listed within (ih.mpr ⟨_, _, others, later, rfl⟩)
      | option beside others => exact .option beside (ih.mpr ⟨_, _, others, later, rfl⟩)
      | one => exact absurd rfl entries

theorem composed_items_append {before after : List Json} {index : Nat} :
    Composed (.items index) (.array (before ++ after)) leaves ↔ ∃ first second,
      Composed (.items index) (.array before) first ∧
        Composed (.items (index + before.length)) (.array after) second ∧
        leaves = first ++ second := by
  induction before generalizing index leaves with
  | nil =>
    constructor
    · exact fun composed => ⟨[], leaves, .last, composed, rfl⟩
    · rintro ⟨first, second, ⟨⟩, composed, rfl⟩
      exact composed
  | cons value before ih =>
    have shifted : index + 1 + before.length = index + (value :: before).length := by
      rw [List.length_cons, Nat.add_right_comm, Nat.add_assoc]
    rw [← shifted]
    constructor
    · intro composed
      cases composed with
      | item query others =>
        obtain ⟨first, second, own, later, rfl⟩ := ih.mp others
        exact ⟨_, second, .item query own, later, (List.append_assoc _ _ _).symm⟩
    · rintro ⟨first, second, own, later, rfl⟩
      cases own with
      | item query others =>
        rw [List.append_assoc]
        exact .item query (ih.mpr ⟨_, _, others, later, rfl⟩)

/-- Queries of a list may be numbered otherwise. -/
theorem exists_composed_items {items : List Json} {index : Nat} (other : Nat)
    (composed : Composed (.items index) (.array items) leaves) :
    ∃ renumbered, Composed (.items other) (.array items) renumbered ∧
      renumbered.map (·.keyword) = leaves.map (·.keyword) := by
  induction items generalizing index other leaves with
  | nil =>
    cases composed with
    | last => exact ⟨[], .last, rfl⟩
  | cons value rest ih =>
    cases composed with
    | item query others =>
      obtain ⟨renumbered, moved, same⟩ := ih (other + 1) others
      refine ⟨_, .item query moved, ?_⟩
      rw [List.map_append, List.map_append, same, map_keyword_below, map_keyword_below]

end AnalystQuery.Query
