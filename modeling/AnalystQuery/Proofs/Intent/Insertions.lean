import AnalystQuery.Proofs.Intent.Entities
import Mathlib.Data.List.Induction

/-! Entities that are put together by insertions, in any number and order: each category is a set
of its own, which keeps its values in the order in which they first came. The entities of an answer
are put together in this way. -/

namespace AnalystQuery

namespace Entities

variable {entities : Entities} {category : Category} {value : String}
  {insertions : List (Category × String)}

theorem accepts_iff :
    entities.accepts category value = true ↔ value ≠ "" ∧ value ∉ entities.get category := by
  simp [accepts]

theorem insert_of_not_accepts (refused : entities.accepts category value = false) :
    entities.insert category value = entities := by
  rw [insert, refused, if_neg Bool.false_ne_true]

theorem get_insert (entities : Entities) (category other : Category) (value : String) :
    (entities.insert other value).get category = entities.get category ++
      if other = category ∧ value ≠ "" ∧ value ∉ entities.get category then [value] else [] := by
  by_cases same : other = category
  · subst same
    cases accepted : entities.accepts other value with
    | true =>
      obtain ⟨some, fresh⟩ := accepts_iff.mp accepted
      rw [get_insert_self fresh some, if_pos ⟨rfl, some, fresh⟩]
    | false =>
      have refused : ¬ (value ≠ "" ∧ value ∉ entities.get other) := by
        rw [← accepts_iff, accepted]
        exact Bool.false_ne_true
      rw [insert_of_not_accepts accepted, if_neg fun new => refused new.2, List.append_nil]
  · rw [get_insert_of_ne (Ne.symm same), if_neg fun new => same new.1, List.append_nil]

/-- What an insertion does, and what it tells: a value that is added stands behind all others of
its category, and nothing else changes. -/
structure Inserts (before : Entities) (category : Category) (value : String)
    (result : Bool × Entities) : Prop where
  added : result.1 = true ↔ result.2.get category = before.get category ++ [value]
  unchanged : result.1 = false ↔ result.2 = before
  others : ∀ other, other ≠ category → result.2.get other = before.get other

theorem inserts_insertIfNew (entities : Entities) (category : Category) (value : String) :
    Inserts entities category value (entities.insertIfNew category value) := by
  have others (other : Category) (different : other ≠ category) :
      (entities.insert category value).get other = entities.get other :=
    get_insert_of_ne different entities value
  have longer : entities.get category ≠ entities.get category ++ [value] := by simp
  cases accepted : entities.accepts category value with
  | true =>
    obtain ⟨some, fresh⟩ := accepts_iff.mp accepted
    have grown := get_insert_self fresh some
    have told : (entities.insertIfNew category value).1 ≠ false := by simp [insertIfNew, accepted]
    refine ⟨iff_of_true accepted grown, iff_of_false told ?_, others⟩
    intro same
    exact longer ((congrArg (get · category) same).symm.trans grown)
  | false =>
    have same := insert_of_not_accepts accepted
    have told : (entities.insertIfNew category value).1 ≠ true := by simp [insertIfNew, accepted]
    refine ⟨iff_of_false told ?_, iff_of_true accepted same, others⟩
    intro grown
    exact longer ((congrArg (get · category) same).symm.trans grown)

def ofInsertions (insertions : List (Category × String)) : Entities :=
  insertions.foldl (fun entities (category, value) => (entities.insertIfNew category value).2) empty

/-- The values that are inserted into a category, except empty ones. -/
def given (insertions : List (Category × String)) (category : Category) : List String :=
  insertions.filterMap fun (into, value) =>
    if into = category ∧ value ≠ "" then some value else none

/-- The distinct values that are inserted into a category, in the order in which they first come. -/
def firsts (insertions : List (Category × String)) (category : Category) : List String :=
  (given insertions category).eraseDups

theorem ofInsertions_snoc (insertions : List (Category × String)) (other : Category)
    (value : String) :
    ofInsertions (insertions ++ [(other, value)]) = (ofInsertions insertions).insert other value := by
  rw [ofInsertions, List.foldl_append]
  rfl

theorem mem_firsts :
    value ∈ firsts insertions category ↔ value ≠ "" ∧ (category, value) ∈ insertions := by
  simp only [firsts, List.mem_eraseDups, given, List.mem_filterMap, Option.ite_none_right_eq_some,
    Option.some.injEq, Prod.exists]
  constructor
  · rintro ⟨into, value, member, ⟨rfl, some⟩, rfl⟩
    exact ⟨some, member⟩
  · rintro ⟨some, member⟩
    exact ⟨category, value, member, ⟨rfl, some⟩, rfl⟩

theorem given_snoc (insertions : List (Category × String)) (category other : Category)
    (value : String) :
    given (insertions ++ [(other, value)]) category = given insertions category ++
      if other = category ∧ value ≠ "" then [value] else [] := by
  rw [given, List.filterMap_append, given]
  by_cases counts : other = category ∧ value ≠ ""
  · simp [counts]
  · simp [counts]

theorem firsts_snoc (insertions : List (Category × String)) (category other : Category)
    (value : String) :
    firsts (insertions ++ [(other, value)]) category = firsts insertions category ++
      if other = category ∧ value ≠ "" ∧ value ∉ firsts insertions category then [value]
      else [] := by
  simp only [firsts, given_snoc, List.eraseDups_append, List.mem_eraseDups]
  congr 1
  by_cases counts : other = category ∧ value ≠ ""
  · rw [if_pos counts]
    by_cases known : value ∈ given insertions category
    · rw [if_neg fun new => new.2.2 known]
      simp [List.removeAll, known]
    · rw [if_pos ⟨counts.1, counts.2, known⟩]
      simp [List.removeAll, known, List.eraseDups_cons]
  · rw [if_neg counts, if_neg fun new => counts ⟨new.1, new.2.1⟩]
    rfl

theorem get_ofInsertions (insertions : List (Category × String)) (category : Category) :
    (ofInsertions insertions).get category = firsts insertions category := by
  induction insertions using List.reverseRecOn with
  | nil => exact get_empty category
  | append_singleton insertions insertion ih =>
    obtain ⟨other, value⟩ := insertion
    rw [ofInsertions_snoc, get_insert, firsts_snoc, ih]

theorem mem_all (category : Category) : category ∈ Category.all := by
  cases category <;> decide

theorem mem_toList {values : List String} :
    (category, values) ∈ entities.toList ↔ values = entities.get category ∧ values ≠ [] := by
  simp only [toList, List.mem_filter, List.mem_map, Prod.mk.injEq]
  constructor
  · rintro ⟨⟨category, -, rfl, rfl⟩, nonempty⟩
    exact ⟨rfl, by simpa using nonempty⟩
  · rintro ⟨rfl, nonempty⟩
    exact ⟨⟨category, mem_all category, rfl, rfl⟩, by simpa using nonempty⟩

theorem pairwise_toList (entities : Entities) :
    entities.toList.Pairwise fun earlier later => earlier.1.ctorIdx < later.1.ctorIdx := by
  have declared : Category.all.Pairwise fun earlier later => earlier.ctorIdx < later.ctorIdx := by
    decide
  refine List.Pairwise.filter _ (List.pairwise_map.mpr ?_)
  exact declared

theorem isEmpty_iff : entities.isEmpty = true ↔ entities.toList = [] := by
  simp [isEmpty, toList]

/-- Entities that show lists of values: each list stands in the field and under the name of its
category, and those that are not empty are listed in the order in which categories are declared. -/
structure Shows (entities : Entities) (values : Category → List String) : Prop where
  fields : entities = ⟨values .customers, values .channels, values .sentiments, values .topics,
    values .categories, values .priorities, values .regions, values .products, values .statuses⟩
  get : ∀ category, entities.get category = values category
  listed : ∀ category list,
    (category, list) ∈ entities.toList ↔ list = values category ∧ list ≠ []
  declared : entities.toList.Pairwise fun earlier later => earlier.1.ctorIdx < later.1.ctorIdx
  isEmpty : entities.isEmpty = true ↔ entities.toList = []

theorem shows_of_get {values : Category → List String}
    (same : ∀ category, entities.get category = values category) : Shows entities values := by
  refine ⟨ext_get fun category => ?_, same, ?_, pairwise_toList entities, isEmpty_iff⟩
  · rw [same]
    cases category <;> rfl
  · intro category list
    rw [mem_toList, same]

/-- However insertions are mixed, each category is a set that keeps the order of its first
insertions, and an insertion tells whether its value was missing there. -/
theorem insertions_kept_as_sets (insertions : List (Category × String)) :
    Shows (ofInsertions insertions) (firsts insertions) ∧
      ∀ category value,
        Inserts (ofInsertions insertions) category value
          ((ofInsertions insertions).insertIfNew category value) ∧
        (((ofInsertions insertions).insertIfNew category value).1 = true ↔
          value ≠ "" ∧ (category, value) ∉ insertions) := by
  refine ⟨shows_of_get (get_ofInsertions insertions), fun category value => ⟨?_, ?_⟩⟩
  · exact inserts_insertIfNew (ofInsertions insertions) category value
  · rw [insertIfNew, accepts_iff, get_ofInsertions, mem_firsts]
    exact and_congr_right fun some => not_congr (and_iff_right some)

example : (ofInsertions [(.topics, "refund"), (.customers, "Acme"), (.topics, "refund"),
    (.topics, "delay"), (.channels, "")]).toList =
      [(.customers, ["Acme"]), (.topics, ["refund", "delay"])] := by
  decide

end Entities

namespace Intent

/-- The insertions that an entry stands for: the canonical forms of its texts, in the category of
its key. -/
def entryInsertions (entry : String × Json) : List (Category × String) :=
  match Category.ofKey? entry.1 with
  | some category => (scalarTexts entry.2).map fun text =>
      (category, Glossary.normalize category text)
  | none => []

theorem mem_entryInsertions {entry : String × Json} {category : Category} {value : String} :
    (category, value) ∈ entryInsertions entry ↔ Category.ofKey? entry.1 = some category ∧
      ∃ text ∈ scalarTexts entry.2, Glossary.normalize category text = value := by
  rw [entryInsertions]
  cases Category.ofKey? entry.1 with
  | none => simp
  | some known =>
    simp only [List.mem_map, Prod.mk.injEq, Option.some.injEq]
    constructor
    · rintro ⟨text, member, rfl, same⟩
      exact ⟨rfl, text, member, same⟩
    · rintro ⟨rfl, text, member, same⟩
      exact ⟨text, member, rfl, same⟩

theorem readEntry_eq_foldl (entities : Entities) (entry : String × Json) :
    readEntry entities entry = (entryInsertions entry).foldl
      (fun entities (category, value) => (entities.insertIfNew category value).2) entities := by
  unfold readEntry entryInsertions
  cases Category.ofKey? entry.1 with
  | none => rfl
  | some category =>
    simp only [insertTexts, List.foldl_map]
    rfl

theorem readEntities_eq_ofInsertions (entries : Entries) :
    readEntities entries = Entities.ofInsertions (entries.flatMap entryInsertions) := by
  rw [readEntities_eq, Entities.ofInsertions, List.foldl_flatMap]
  exact congrArg (entries.foldl · Entities.empty) (funext₂ readEntry_eq_foldl)

/-- Whichever of its keys a text stands under, a category has the texts in their order. -/
theorem get_readEntities (entries : Entries) (category : Category) :
    (readEntities entries).get category =
      Entities.firsts (entries.flatMap entryInsertions) category := by
  rw [readEntities_eq_ofInsertions, Entities.get_ofInsertions]

end Intent

end AnalystQuery
