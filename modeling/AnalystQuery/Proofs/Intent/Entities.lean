import AnalystQuery.Intent.Normalization
import AnalystQuery.Proofs.Json.Lookup
import AnalystQuery.Proofs.Text.LetterCase

/-! Entities as they are read: each value is canonical, none stands twice, and entities that are
written and read again stay what they are. -/

namespace AnalystQuery

namespace Glossary

structure IsCanonical (category : Category) (value : String) : Prop where
  trimmed : Text.trim value = value
  normal : normalize category value = value

theorem plain_plain (value : String) : plain (plain value) = plain value := by
  rw [plain, plain, Text.trim_lowerCase_trim, Text.lowerCase_lowerCase]

/-- Each canonical value of a vocabulary is among its own terms, and among those of no other. -/
theorem canonical?_canonical (category : Category) :
    ∀ term ∈ terms category, Text.trim term.canonical = term.canonical ∧
      canonical? category term.canonical = some term.canonical := by
  cases category <;> decide +kernel

theorem isCanonical_normalize (category : Category) (value : String) :
    IsCanonical category (normalize category value) := by
  rw [normalize]
  cases found : canonical? category value with
  | some canonical =>
    obtain ⟨term, foundTerm, rfl⟩ := Option.map_eq_some_iff.mp found
    obtain ⟨trimmed, same⟩ :=
      canonical?_canonical category term (List.mem_of_find?_eq_some foundTerm)
    exact ⟨trimmed, by rw [Option.getD_some, normalize, same, Option.getD_some]⟩
  | none =>
    -- Looking up the plain form is looking up the value.
    have again : canonical? category (plain value) = canonical? category value := by
      rw [canonical?, canonical?, plain_plain]
    rw [Option.getD_none]
    exact ⟨Text.trim_lowerCase_trim value,
      by rw [normalize, again, found, Option.getD_none, plain_plain]⟩

end Glossary

namespace Entities

variable {entities : Entities} {category other : Category}

@[simp] theorem get_set_self (entities : Entities) (category : Category) (values : List String) :
    (entities.set category values).get category = values := by
  cases category <;> rfl

theorem get_set_of_ne (different : category ≠ other) (entities : Entities)
    (values : List String) : (entities.set other values).get category = entities.get category := by
  cases category <;> cases other <;> first | rfl | exact absurd rfl different

theorem ext_get {first second : Entities} (same : ∀ category, first.get category =
    second.get category) : first = second := by
  obtain ⟨⟩ := first
  obtain ⟨⟩ := second
  congr 1
  · exact same .customers
  · exact same .channels
  · exact same .sentiments
  · exact same .topics
  · exact same .categories
  · exact same .priorities
  · exact same .regions
  · exact same .products
  · exact same .statuses

theorem get_empty (category : Category) : empty.get category = [] := by
  cases category <;> rfl

theorem get_insert_of_ne (different : category ≠ other) (entities : Entities) (value : String) :
    (entities.insert other value).get category = entities.get category := by
  rw [insert]
  split
  · exact get_set_of_ne different entities _
  · rfl

theorem get_insert_self (fresh : value ∉ entities.get category) (some : value ≠ "") :
    (entities.insert category value).get category = entities.get category ++ [value] := by
  have accepted : entities.accepts category value = true := by simp [accepts, fresh, some]
  rw [insert, if_pos accepted, get_set_self]

/-- Canonical values of a category, none of them empty and none twice. -/
structure NormalValues (category : Category) (values : List String) : Prop where
  canonical : ∀ value ∈ values, Glossary.IsCanonical category value
  nonempty : "" ∉ values
  distinct : values.Nodup

/-- Entities as reading gives them. -/
def IsNormal (entities : Entities) : Prop :=
  ∀ category, NormalValues category (entities.get category)

theorem isNormal_empty : IsNormal empty := by
  intro category
  rw [get_empty]
  exact ⟨List.forall_mem_nil _, List.not_mem_nil, List.nodup_nil⟩

theorem NormalValues.append {values : List String} {value : String}
    (normal : NormalValues category values) (canonical : Glossary.IsCanonical category value)
    (some : value ≠ "") (fresh : value ∉ values) : NormalValues category (values ++ [value]) := by
  refine ⟨?_, ?_, ?_⟩
  · exact List.forall_mem_append.mpr ⟨normal.canonical, List.forall_mem_singleton.mpr canonical⟩
  · simp [normal.nonempty, some.symm]
  · exact List.nodup_append.mpr ⟨normal.distinct, List.nodup_singleton value, by
      rintro first member second last rfl
      exact fresh (List.mem_singleton.mp last ▸ member)⟩

theorem IsNormal.insert (normal : IsNormal entities) {value : String}
    (canonical : Glossary.IsCanonical other value) : IsNormal (entities.insert other value) := by
  rw [Entities.insert]
  split
  · rename_i accepted
    simp only [accepts, Bool.and_eq_true, bne_iff_ne, ne_eq, Bool.not_eq_true',
      List.contains_eq_mem, decide_eq_false_iff_not] at accepted
    intro category
    by_cases same : category = other
    · subst same
      rw [get_set_self]
      exact (normal category).append canonical accepted.1 accepted.2
    · rw [get_set_of_ne same]
      exact normal category
  · exact normal

end Entities

namespace Intent

variable {entities : Entities} {category : Category}

theorem isNormal_insertTexts (normal : entities.IsNormal) (category : Option Category)
    (texts : List String) : (insertTexts entities category texts).IsNormal := by
  cases category with
  | none => exact normal
  | some category =>
    rw [insertTexts]
    induction texts generalizing entities with
    | nil => exact normal
    | cons text texts ih =>
      exact ih (normal.insert (Glossary.isCanonical_normalize category text))

def readEntry (entities : Entities) (entry : String × Json) : Entities :=
  insertTexts entities (Category.ofKey? entry.1) (scalarTexts entry.2)

theorem readEntities_eq (entries : Entries) :
    readEntities entries = entries.foldl readEntry Entities.empty := rfl

theorem isNormal_foldl_readEntry (normal : entities.IsNormal) (entries : Entries) :
    (entries.foldl readEntry entities).IsNormal := by
  induction entries generalizing entities with
  | nil => exact normal
  | cons entry entries ih =>
    rw [List.foldl_cons]
    exact ih (isNormal_insertTexts normal (Category.ofKey? entry.1) (scalarTexts entry.2))

theorem isNormal_readEntities (entries : Entries) : (readEntities entries).IsNormal :=
  isNormal_foldl_readEntry Entities.isNormal_empty entries

theorem filterMap_map_of_read {α β : Type} {items : List α} {write : α → β} {read : β → Option α}
    (again : ∀ item ∈ items, read (write item) = some item) :
    (items.map write).filterMap read = items := by
  rw [List.filterMap_map]
  exact (List.filterMap_congr again).trans List.filterMap_some

theorem ofKey?_name (category : Category) : Category.ofKey? category.name = some category := by
  cases category <;> decide +kernel

theorem scalarTexts_strings {values : List String}
    (normal : Entities.NormalValues category values) :
    scalarTexts (.strings values) = values := by
  have kept : (values.map Json.string).filterMap scalarText? = values :=
    filterMap_map_of_read fun value member => congrArg some (normal.canonical value member).trimmed
  rw [Json.strings, scalarTexts, kept, List.filter_eq_self]
  intro value member
  simpa using fun empty : value = "" => normal.nonempty (empty ▸ member)

theorem get_insertTexts_of_ne {other : Category} (different : category ≠ other)
    (texts : List String) :
    (insertTexts entities (some other) texts).get category = entities.get category := by
  rw [insertTexts]
  induction texts generalizing entities with
  | nil => rfl
  | cons text texts ih =>
    rw [List.foldl_cons, ih, Entities.get_insert_of_ne different]

theorem get_insertTexts_self {values : List String}
    (normal : Entities.NormalValues category values) (free : entities.get category = []) :
    (insertTexts entities (some category) values).get category = values := by
  have onto (front back : List String) (all : front ++ back = values) (entities : Entities)
      (held : entities.get category = front) :
      (insertTexts entities (some category) back).get category = values := by
    rw [insertTexts]
    induction back generalizing front entities with
    | nil =>
      rw [List.append_nil] at all
      exact held.trans all
    | cons value back ih =>
      subst all
      have canonical := normal.canonical value (by simp)
      have some : value ≠ "" := fun empty => normal.nonempty (by simp [empty])
      have fresh : value ∉ entities.get category := by
        rw [held]
        intro member
        exact (List.nodup_append.mp normal.distinct).2.2 value member value List.mem_cons_self rfl
      rw [List.foldl_cons, canonical.normal]
      refine ih (front ++ [value]) (by simp) _ ?_
      rw [Entities.get_insert_self fresh some, held]
  exact onto [] values rfl entities free

def writtenEntry (entities : Entities) (category : Category) : String × Json :=
  (category.name, .strings (entities.get category))

section Written

variable {written : Entities} {categories : List Category}

theorem get_readEntry_of_ne {other : Category} (different : category ≠ other)
    (entities written : Entities) :
    (readEntry entities (writtenEntry written other)).get category = entities.get category := by
  rw [readEntry, writtenEntry, ofKey?_name, get_insertTexts_of_ne different]

theorem get_readEntry_self (normal : written.IsNormal) (free : entities.get category = []) :
    (readEntry entities (writtenEntry written category)).get category =
      written.get category := by
  rw [readEntry, writtenEntry, ofKey?_name, scalarTexts_strings (normal category),
    get_insertTexts_self (normal category) free]

theorem get_foldl_of_not_mem (absent : category ∉ categories) (entities : Entities) :
    ((categories.map (writtenEntry written)).foldl readEntry entities).get category =
      entities.get category := by
  induction categories generalizing entities with
  | nil => rfl
  | cons other categories ih =>
    rw [List.mem_cons, not_or] at absent
    obtain ⟨different, later⟩ := absent
    rw [List.map_cons, List.foldl_cons, ih later, get_readEntry_of_ne different]

/-- In whatever order the entries of normal entities stand, each category gets its values. -/
theorem get_foldl_of_mem (normal : written.IsNormal) (distinct : categories.Nodup)
    (member : category ∈ categories) (free : entities.get category = []) :
    ((categories.map (writtenEntry written)).foldl readEntry entities).get category =
      written.get category := by
  induction categories generalizing entities with
  | nil => cases member
  | cons other categories ih =>
    obtain ⟨fresh, distinctLater⟩ := List.nodup_cons.mp distinct
    rw [List.map_cons, List.foldl_cons]
    by_cases here : category = other
    · subst here
      rw [get_foldl_of_not_mem fresh, get_readEntry_self normal free]
    · have later := (List.mem_cons.mp member).resolve_left here
      exact ih distinctLater later ((get_readEntry_of_ne here entities written).trans free)

end Written

theorem sortEntries_written (written : Entities) :
    ∃ categories : List Category, categories.Perm Category.all ∧
      Json.sortEntries (Category.all.map (writtenEntry written)) =
        categories.map (writtenEntry written) := by
  have distinct : ((Category.all.map (writtenEntry written)).map Prod.fst).Nodup := by
    rw [List.map_map]
    exact show (Category.all.map Category.name).Nodup by decide
  have permuted := Json.sortEntries_perm_iff.mpr distinct
  have known (category : Category) :
      Category.ofKey? (writtenEntry written category).1 = some category := ofKey?_name category
  refine ⟨(Json.sortEntries (Category.all.map (writtenEntry written))).filterMap
    fun entry => Category.ofKey? entry.1, ?_, ?_⟩
  · refine (permuted.filterMap _).trans (List.Perm.of_eq ?_)
    exact filterMap_map_of_read fun category _ => known category
  · rw [List.map_filterMap]
    have same : ∀ entry ∈ Json.sortEntries (Category.all.map (writtenEntry written)),
        (Category.ofKey? entry.1).map (writtenEntry written) = some entry := by
      intro entry member
      obtain ⟨category, -, rfl⟩ := List.mem_map.mp (permuted.mem_iff.mp member)
      rw [known]
      rfl
    rw [List.filterMap_congr same, List.filterMap_some]

/-- Normal entities that are written and read again stay what they are. -/
theorem readEntities_written (normal : entities.IsNormal) :
    readEntities (Json.sortEntries (Category.all.map (writtenEntry entities))) = entities := by
  obtain ⟨categories, permuted, sorted⟩ := sortEntries_written entities
  have distinct : categories.Nodup := permuted.nodup_iff.mpr (by decide)
  refine Entities.ext_get fun category => ?_
  have member : category ∈ categories := permuted.mem_iff.mpr (by cases category <;> decide)
  rw [readEntities_eq, sorted]
  exact get_foldl_of_mem normal distinct member (Entities.get_empty category)

end Intent

end AnalystQuery
