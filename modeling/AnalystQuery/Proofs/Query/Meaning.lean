import AnalystQuery.Proofs.Query.Clauses

/-! What a written query asks of a document. The document is given by the truth values of the
leaf clauses on it; whatever is neither `match_all` nor `bool` counts as a leaf. A section of a
`bool` body is a list of clauses or a single one. -/

namespace AnalystQuery.Query

/-- How many clauses under `should` must hold: as many as the body says, and without that one
if the body requires nothing else. -/
def leastShould (body : List (String × Json)) : Nat :=
  match (Json.lookup "minimum_should_match" body).bind Json.asNatural? with
  | some least => least
  | none => if body.any fun entry => ["filter", "must"].contains entry.1 then 0 else 1

/-- Whether clauses with these truth values satisfy a section. -/
def sectionHolds (least : Nat) (name : String) (verdicts : List Bool) : Bool :=
  if name = "filter" || name = "must" then verdicts.all id
  else if name = "must_not" then verdicts.all (!·)
  else if name = "should" then least ≤ verdicts.countP id
  else true

mutual
/-- Whether a document on which the leaf clauses have these truth values satisfies a query. -/
def holds (truth : Json → Bool) : Json → Bool
  | .object [(key, .object body)] =>
    if key = "match_all" then true
    else if key = "bool" then bodyHolds truth (leastShould body) body
    else truth (.object [(key, .object body)])
  | leaf => truth leaf

def bodyHolds (truth : Json → Bool) (least : Nat) : List (String × Json) → Bool
  | [] => true
  | (name, .array clauses) :: rest =>
    sectionHolds least name (eachHolds truth clauses) && bodyHolds truth least rest
  | (name, clause) :: rest =>
    sectionHolds least name [holds truth clause] && bodyHolds truth least rest

def eachHolds (truth : Json → Bool) : List Json → List Bool
  | [] => []
  | clause :: rest => holds truth clause :: eachHolds truth rest
end

variable {truth : Json → Bool}

theorem eachHolds_eq_map (clauses : List Json) :
    eachHolds truth clauses = clauses.map (holds truth) := by
  induction clauses with
  | nil => rfl
  | cons clause rest ih => rw [eachHolds, ih, List.map_cons]

theorem bodyHolds_append (least : Nat) (first second : List (String × Json)) :
    bodyHolds truth least (first ++ second) =
      (bodyHolds truth least first && bodyHolds truth least second) := by
  induction first with
  | nil => simp [bodyHolds]
  | cons entry rest ih =>
    obtain ⟨name, clause⟩ := entry
    cases clause <;> simp [bodyHolds, ih, Bool.and_assoc]

theorem holds_bool (body : List (String × Json)) :
    holds truth (single "bool" (.object body)) = bodyHolds truth (leastShould body) body := by
  simp [single, holds]

theorem holds_leaf (leaf : Leaf) : holds truth leaf.encode = truth leaf.encode := by
  cases leaf <;> simp [Leaf.encode, single, holds, Json.ofEntries]

theorem holds_clause (clause : Clause) :
    holds truth clause.encode = true ↔ ∃ leaf ∈ clause.leaves, truth leaf.encode = true := by
  cases clause with
  | leaf condition => simp [Clause.encode, Clause.leaves, holds_leaf]
  | anyOf leaves =>
    have one : leastShould [("minimum_should_match", .integer 1),
        ("should", .array (leaves.map Leaf.encode))] = 1 := by
      simp [leastShould, Json.lookup, Json.asNatural?]
    rw [Clause.encode, holds_bool, one]
    simp [Clause.leaves, bodyHolds, sectionHolds, eachHolds_eq_map, holds_leaf]

def Role.wanted : Role → Bool
  | .filter => true
  | .must => true
  | .mustNot => false

def sections : List (String × Role) :=
  [("filter", .filter), ("must", .must), ("must_not", .mustNot)]

theorem sectionHolds_wanted {name : String} {role : Role} (named : (name, role) ∈ sections)
    (least : Nat) (verdicts : List Bool) :
    sectionHolds least name verdicts = verdicts.all (· == role.wanted) := by
  have listed : (name = "filter" ∧ role = .filter) ∨ (name = "must" ∧ role = .must) ∨
      (name = "must_not" ∧ role = .mustNot) := by simpa [sections] using named
  rcases listed with ⟨rfl, rfl⟩ | ⟨rfl, rfl⟩ | ⟨rfl, rfl⟩ <;>
    simp [sectionHolds, Role.wanted, Function.id_def]

theorem bodyHolds_roleEntry {name : String} {role : Role} (named : (name, role) ∈ sections)
    (least : Nat) (condition : Condition) :
    bodyHolds truth least (condition.roleEntry name role) = true ↔
      ∀ clause ∈ condition.inRole role, holds truth clause.encode = role.wanted := by
  rw [Condition.roleEntry]
  cases condition.inRole role with
  | nil => simp [bodyHolds]
  | cons first rest =>
    simp [bodyHolds, eachHolds_eq_map, sectionHolds_wanted named]

theorem forall_mem_inRole (condition : Condition) (role : Role) (property : Clause → Prop) :
    (∀ clause ∈ condition.inRole role, property clause) ↔
      ∀ part ∈ condition.clauses, part.1 = role → property part.2 := by
  rw [Condition.inRole, List.forall_mem_map]
  simp

/-- A compiled condition holds if the truth of every clause is what its role asks for. -/
theorem holds_condition (condition : Condition) :
    holds truth condition.encode = true ↔
      ∀ part ∈ condition.clauses, holds truth part.2.encode = part.1.wanted := by
  rw [Condition.encode]
  by_cases empty : condition.clauses = []
  · simp [empty, single, holds]
  · rw [if_neg (by simpa using empty), holds_bool, bodyHolds_append, bodyHolds_append,
      Bool.and_eq_true, Bool.and_eq_true, bodyHolds_roleEntry (by decide),
      bodyHolds_roleEntry (by decide), bodyHolds_roleEntry (by decide), forall_mem_inRole,
      forall_mem_inRole, forall_mem_inRole]
    constructor
    · rintro ⟨⟨filters, musts⟩, exclusions⟩ ⟨role, clause⟩ member
      cases role with
      | filter => exact filters _ member rfl
      | must => exact musts _ member rfl
      | mustNot => exact exclusions _ member rfl
    · intro all
      refine ⟨⟨?_, ?_⟩, ?_⟩ <;>
        exact fun part member same => same ▸ all part member

end AnalystQuery.Query
