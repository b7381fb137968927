import AnalystQuery.Proofs.Query.Meaning
import AnalystQuery.Query.Inspection

/-! Where the keys of a query stand in the query grammar. The clauses of a compiled condition are
the leaves it was made of, at whatever depth they are written; everything else that stands where
the grammar looks belongs to the frame around them. -/

namespace AnalystQuery.Query

variable {position inner : Position} {name key : String} {value body : Json}
  {entries : List (String × Json)} {items : List Json}

/-- Within a value at one position, a key with its body stands at another. -/
inductive Stands : Position → Json → Position → String → Json → Prop where
  | entry {position : Position} {entries : List (String × Json)} {key : String} {body : Json}
      (listed : (key, body) ∈ entries) : Stands position (.object entries) position key body
  | under {position inner : Position} {entries : List (String × Json)} {name key : String}
      {value body : Json} (listed : (name, value) ∈ entries)
      (within : Stands (position.child name) value inner key body) :
      Stands position (.object entries) inner key body
  | item {position inner : Position} {items : List Json} {item : Json} {key : String}
      {body : Json} (listed : item ∈ items) (within : Stands position item inner key body) :
      Stands position (.array items) inner key body

theorem stands_object :
    Stands position (.object entries) inner key body ↔ ∃ entry ∈ entries,
      inner = position ∧ entry = (key, body) ∨
        Stands (position.child entry.1) entry.2 inner key body := by
  constructor
  · intro stands
    cases stands with
    | entry listed => exact ⟨_, listed, Or.inl ⟨rfl, rfl⟩⟩
    | under listed within => exact ⟨_, listed, Or.inr within⟩
  · rintro ⟨entry, listed, ⟨rfl, rfl⟩ | within⟩
    · exact .entry listed
    · exact .under listed within

theorem stands_array :
    Stands position (.array items) inner key body ↔
      ∃ item ∈ items, Stands position item inner key body := by
  constructor
  · intro stands
    cases stands with
    | item listed within => exact ⟨_, listed, within⟩
  · rintro ⟨item, listed, within⟩
    exact .item listed within

theorem stands_single :
    Stands position (single name value) inner key body ↔
      inner = position ∧ name = key ∧ value = body ∨
        Stands (position.child name) value inner key body := by
  rw [single, stands_object]
  simp

theorem Stands.outside (stands : Stands .other value inner key body) : inner = .other := by
  generalize start : Position.other = position at stands
  induction stands with
  | entry =>
    subst start
    rfl
  | under listed within ih =>
    subst start
    exact ih rfl
  | item listed within ih => exact ih start

def Leaf.keyword : Leaf → String
  | .term _ _ => "term"
  | .terms _ _ => "terms"
  | .matches _ _ => "match"
  | .mentions _ _ => "multi_match"
  | .range _ _ => "range"
  | .exists _ => "exists"

def Leaf.contents : Leaf → Json
  | .term field value => single field value
  | .terms field values => single field (.strings values)
  | .matches field text => single field (.string text)
  | .mentions fields text => .object
      [("fields", .strings fields), ("operator", .string "or"), ("query", .string text)]
  | .range field bounds => single field (.ofEntries bounds)
  | .exists field => single "field" (.string field)

theorem Leaf.encode_eq_single (leaf : Leaf) : leaf.encode = single leaf.keyword leaf.contents := by
  cases leaf <;> rfl

theorem Leaf.keyword_plain (leaf : Leaf) :
    leaf.keyword ∈ knownClauses ∧ leaf.keyword ∉ ["match_all", "bool"] ∧
      Position.child .clause leaf.keyword = .other := by
  cases leaf <;>
  · dsimp only [keyword]
    decide

theorem stands_leaf {leaf : Leaf} :
    Stands .clause leaf.encode inner key body ↔
      inner = .clause ∧ key = leaf.keyword ∧ body = leaf.contents ∨
        Stands .other leaf.contents inner key body := by
  rw [leaf.encode_eq_single, stands_single, leaf.keyword_plain.2.2, eq_comm (a := leaf.keyword),
    eq_comm (a := leaf.contents)]

/-- The keys of a compiled condition that stand around its leaves. -/
inductive Frame : Position → String → Prop where
  | everything : Frame .clause "match_all"
  | group : Frame .clause "bool"
  | part {key : String} (listed : key ∈ boolKeys) : Frame .boolBody key

theorem stands_clause_cases {clause : Clause}
    (stands : Stands .clause clause.encode inner key body) :
    Frame inner key ∨ ∃ leaf ∈ clause.leaves, Stands .clause leaf.encode inner key body := by
  cases clause with
  | leaf condition => exact Or.inr ⟨condition, List.mem_singleton_self _, stands⟩
  | anyOf leaves =>
    rcases stands_single.mp stands with ⟨rfl, rfl, -⟩ | within
    · exact Or.inl .group
    · obtain ⟨entry, listed, ⟨rfl, rfl⟩ | below⟩ := stands_object.mp within
      · refine Or.inl (.part ?_)
        rcases List.mem_pair.mp listed with same | same <;> cases same <;> decide
      · rcases List.mem_pair.mp listed with rfl | rfl
        · cases below
        · obtain ⟨item, member, made⟩ := stands_array.mp below
          obtain ⟨leaf, given, rfl⟩ := List.mem_map.mp member
          exact Or.inr ⟨leaf, given, made⟩

theorem Stands.clause {clause : Clause} {leaf : Leaf} (made : leaf ∈ clause.leaves)
    (stands : Stands .clause leaf.encode inner key body) :
    Stands .clause clause.encode inner key body := by
  cases clause with
  | leaf condition =>
    obtain rfl := List.mem_singleton.mp made
    exact stands
  | anyOf leaves =>
    refine stands_single.mpr (Or.inr (.under (List.mem_cons_of_mem _ List.mem_cons_self) ?_))
    exact .item (List.mem_map_of_mem made) stands

theorem mem_roleEntries {condition : Condition} {entry : String × Json} :
    entry ∈ condition.roleEntry "filter" .filter ++ condition.roleEntry "must" .must ++
        condition.roleEntry "must_not" .mustNot ↔
      ∃ named ∈ sections, condition.inRole named.2 ≠ [] ∧
        entry = (named.1, .array ((condition.inRole named.2).map Clause.encode)) := by
  have one (key : String) (role : Role) : entry ∈ condition.roleEntry key role ↔
      condition.inRole role ≠ [] ∧
        entry = (key, .array ((condition.inRole role).map Clause.encode)) := by
    rw [Condition.roleEntry]
    cases condition.inRole role <;> simp
  simp [sections, one]

theorem section_position {name : String} {role : Role} (named : (name, role) ∈ sections) :
    Position.child .boolBody name = .clause ∧ name ∈ boolKeys := by
  have each : ∀ named ∈ sections,
      Position.child .boolBody named.1 = .clause ∧ named.1 ∈ boolKeys := by decide
  exact each (name, role) named

theorem stands_condition_cases {condition : Condition}
    (stands : Stands .clause condition.encode inner key body) :
    Frame inner key ∨ ∃ part ∈ condition.clauses, ∃ leaf ∈ part.2.leaves,
      Stands .clause leaf.encode inner key body := by
  rw [Condition.encode] at stands
  split at stands
  · rcases stands_single.mp stands with ⟨rfl, rfl, -⟩ | within
    · exact Or.inl .everything
    · obtain ⟨entry, none, -⟩ := stands_object.mp within
      cases none
  · rcases stands_single.mp stands with ⟨rfl, rfl, -⟩ | within
    · exact Or.inl .group
    · obtain ⟨entry, listed, found⟩ := stands_object.mp within
      obtain ⟨⟨name, role⟩, named, -, rfl⟩ := mem_roleEntries.mp listed
      obtain ⟨clausePosition, known⟩ := section_position named
      rcases found with ⟨rfl, same⟩ | below
      · cases same
        exact Or.inl (.part known)
      · change Stands (Position.child .boolBody name) _ inner key body at below
        rw [clausePosition, stands_array] at below
        obtain ⟨item, member, inside⟩ := below
        obtain ⟨clause, inRole, rfl⟩ := List.mem_map.mp member
        obtain ⟨part, given, rfl⟩ := List.mem_map.mp inRole
        exact (stands_clause_cases inside).imp_right fun made =>
          ⟨part, (List.mem_filter.mp given).1, made⟩

theorem Stands.condition {condition : Condition} {part : Role × Clause}
    (given : part ∈ condition.clauses) (stands : Stands .clause part.2.encode inner key body) :
    Stands .clause condition.encode inner key body := by
  have inRole : part.2 ∈ condition.inRole part.1 :=
    List.mem_map_of_mem (List.mem_filter.mpr ⟨given, beq_self_eq_true part.1⟩)
  have nonempty : condition.clauses.isEmpty = false :=
    List.isEmpty_eq_false_iff.mpr (List.ne_nil_of_mem given)
  obtain ⟨name, named⟩ : ∃ name, (name, part.1) ∈ sections := by
    cases part.1 with
    | filter => exact ⟨"filter", by decide⟩
    | must => exact ⟨"must", by decide⟩
    | mustNot => exact ⟨"must_not", by decide⟩
  have listed := mem_roleEntries.mpr ⟨_, named, List.ne_nil_of_mem inRole, rfl⟩
  have below : Stands (Position.child .boolBody name)
      (.array ((condition.inRole part.1).map Clause.encode)) inner key body := by
    rw [(section_position named).1]
    exact .item (List.mem_map_of_mem inRole) stands
  rw [Condition.encode, nonempty]
  exact stands_single.mpr (Or.inr (.under listed below))

/-- The clauses of a compiled condition other than its frame are its leaves. -/
theorem clause_stands_iff {condition : Condition} (framed : key ∉ ["match_all", "bool"]) :
    Stands .clause condition.encode .clause key body ↔ ∃ part ∈ condition.clauses,
      ∃ leaf ∈ part.2.leaves, key = leaf.keyword ∧ body = leaf.contents := by
  constructor
  · intro stands
    rcases stands_condition_cases stands with frame | ⟨part, given, leaf, made, found⟩
    · cases frame <;> exact absurd (by decide) framed
    · rcases stands_leaf.mp found with ⟨-, same⟩ | within
      · exact ⟨part, given, leaf, made, same⟩
      · cases within.outside
  · rintro ⟨part, given, leaf, made, same⟩
    exact .condition given (.clause made (stands_leaf.mpr (Or.inl ⟨rfl, same⟩)))

end AnalystQuery.Query
