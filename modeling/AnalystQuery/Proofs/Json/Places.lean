import AnalystQuery.Proofs.Json.Keys
import AnalystQuery.Proofs.Json.Order

/-! Where keys stand in a value. A place is the list of keys and item numbers that lead to a key,
the key itself at its end; places are compared in the order in which a document is read. -/

namespace AnalystQuery.Json

inductive Step where
  | key (name : String)
  | item (index : Nat)
  deriving DecidableEq, Repr

abbrev Place := List Step

/-- Whether a key stands at a place. -/
inductive KeyAt : Json → Place → Prop
  | here {entries : List (String × Json)} {key : String} {value : Json}
      (member : (key, value) ∈ entries) : KeyAt (object entries) [.key key]
  | under {entries : List (String × Json)} {key : String} {value : Json} {place : Place}
      (member : (key, value) ∈ entries) (below : KeyAt value place) :
      KeyAt (object entries) (.key key :: place)
  | within {items : List Json} {index : Nat} {item : Json} {place : Place}
      (found : items[index]? = some item) (below : KeyAt item place) :
      KeyAt (array items) (.item index :: place)

mutual
/-- The places of all keys in the order of the document. -/
def keyPlaces : Json → List Place
  | object entries => entryPlaces entries
  | array items => itemPlaces 0 items
  | _ => []

def entryPlaces : List (String × Json) → List Place
  | [] => []
  | (key, value) :: rest =>
    [.key key] :: (keyPlaces value).map (.key key :: ·) ++ entryPlaces rest

def itemPlaces (index : Nat) : List Json → List Place
  | [] => []
  | item :: rest => (keyPlaces item).map (.item index :: ·) ++ itemPlaces (index + 1) rest
end

theorem mem_entryPlaces {place : Place} {entries : List (String × Json)} :
    place ∈ entryPlaces entries ↔ ∃ entry ∈ entries,
      place = [.key entry.1] ∨ ∃ below ∈ keyPlaces entry.2, place = .key entry.1 :: below := by
  induction entries with
  | nil => simp [entryPlaces]
  | cons entry rest ih =>
    simp [entryPlaces, ih, or_assoc, eq_comm]

theorem mem_itemPlaces {place : Place} {items : List Json} {start : Nat} :
    place ∈ itemPlaces start items ↔ ∃ index item, items[index]? = some item ∧
      ∃ below ∈ keyPlaces item, place = .item (start + index) :: below := by
  induction items generalizing start with
  | nil => simp [itemPlaces]
  | cons item rest ih =>
    simp only [itemPlaces, List.mem_append, List.mem_map, ih]
    constructor
    · rintro (⟨below, member, rfl⟩ | ⟨index, other, found, below, member, rfl⟩)
      · exact ⟨0, item, rfl, below, member, rfl⟩
      · exact ⟨index + 1, other, found, below, member, by rw [Nat.add_assoc, Nat.add_comm 1]⟩
    · rintro ⟨index, other, found, below, member, rfl⟩
      cases index with
      | zero =>
        obtain rfl := Option.some.inj found
        exact Or.inl ⟨below, member, rfl⟩
      | succ index =>
        exact Or.inr ⟨index, other, found, below, member,
          by rw [Nat.add_assoc, Nat.add_comm 1]⟩

/-- The places are exactly those where a key stands. -/
theorem mem_keyPlaces {place : Place} {value : Json} :
    place ∈ keyPlaces value ↔ KeyAt value place := by
  induction value using nested generalizing place with
  | object entries ih =>
    rw [keyPlaces, mem_entryPlaces]
    constructor
    · rintro ⟨⟨key, value⟩, member, rfl | ⟨below, inside, rfl⟩⟩
      · exact .here member
      · exact .under member ((ih _ member).mp inside)
    · intro stands
      cases stands with
      | here member => exact ⟨_, member, Or.inl rfl⟩
      | under member below => exact ⟨_, member, Or.inr ⟨_, (ih _ member).mpr below, rfl⟩⟩
  | array items ih =>
    rw [keyPlaces, mem_itemPlaces]
    constructor
    · rintro ⟨index, item, found, below, inside, rfl⟩
      rw [Nat.zero_add]
      exact .within found ((ih item (List.mem_of_getElem? found)).mp inside)
    · intro stands
      cases stands with
      | @within _ index item below found stands =>
        refine ⟨index, item, found, below, ?_, by rw [Nat.zero_add]⟩
        exact (ih item (List.mem_of_getElem? found)).mpr stands
  | null | bool | integer | float | string =>
    rw [keyPlaces]
    · exact iff_of_false List.not_mem_nil (by rintro ⟨⟩)
    all_goals simp

/-- Keys come in their own order and items by their numbers. -/
inductive Step.Before : Step → Step → Prop
  | key {first second : String} (below : first < second) : Before (.key first) (.key second)
  | item {first second : Nat} (below : first < second) : Before (.item first) (.item second)

/-- A place comes before those below it, and otherwise the first step apart decides. -/
abbrev Place.Before : Place → Place → Prop := List.Lex Step.Before

theorem KeyAt.ne_nil {value : Json} {place : Place} (stands : KeyAt value place) :
    place ≠ [] := by
  cases stands <;> exact List.cons_ne_nil _ _

theorem pairwise_map_cons {step : Step} {places : List Place}
    (apart : places.Pairwise Place.Before) :
    (places.map (step :: ·)).Pairwise Place.Before :=
  List.pairwise_map.mpr (apart.imp List.Lex.cons)

theorem pairwise_entryPlaces {entries : List (String × Json)} (sorted : SortedByKey entries)
    (each : ∀ entry ∈ entries, (keyPlaces entry.2).Pairwise Place.Before) :
    (entryPlaces entries).Pairwise Place.Before := by
  induction entries with
  | nil => exact List.Pairwise.nil
  | cons entry rest ih =>
    obtain ⟨above, sortedRest⟩ := List.pairwise_cons.mp sorted
    obtain ⟨own, others⟩ := List.forall_mem_cons.mp each
    rw [entryPlaces, List.pairwise_append]
    refine ⟨List.pairwise_cons.mpr ⟨?_, pairwise_map_cons own⟩, ih sortedRest others, ?_⟩
    · intro place member
      obtain ⟨below, inside, rfl⟩ := List.mem_map.mp member
      obtain ⟨step, steps, rfl⟩ := List.exists_cons_of_ne_nil (mem_keyPlaces.mp inside).ne_nil
      exact .cons .nil
    · intro place first other second
      have headed : ∃ below, place = .key entry.1 :: below := by
        rcases List.mem_cons.mp first with rfl | inside
        · exact ⟨[], rfl⟩
        · obtain ⟨below, -, rfl⟩ := List.mem_map.mp inside
          exact ⟨below, rfl⟩
      obtain ⟨below, rfl⟩ := headed
      obtain ⟨later, member, rfl | ⟨after, -, rfl⟩⟩ := mem_entryPlaces.mp second
      · exact .rel (.key (above later member))
      · exact .rel (.key (above later member))

theorem pairwise_itemPlaces {items : List Json} (start : Nat)
    (each : ∀ item ∈ items, (keyPlaces item).Pairwise Place.Before) :
    (itemPlaces start items).Pairwise Place.Before := by
  induction items generalizing start with
  | nil => exact List.Pairwise.nil
  | cons item rest ih =>
    obtain ⟨own, others⟩ := List.forall_mem_cons.mp each
    rw [itemPlaces, List.pairwise_append]
    refine ⟨pairwise_map_cons own, ih (start + 1) others, ?_⟩
    intro place first other second
    obtain ⟨below, -, rfl⟩ := List.mem_map.mp first
    obtain ⟨index, later, -, after, -, rfl⟩ := mem_itemPlaces.mp second
    exact .rel (.item (by omega))

/-- In a value that is sorted by key the places come in the order of the document. -/
theorem pairwise_keyPlaces {value : Json} (ordered : Ordered value) :
    (keyPlaces value).Pairwise Place.Before := by
  induction value using nested with
  | object entries ih =>
    obtain ⟨sorted, each⟩ := (ordered_object entries).mp ordered
    rw [keyPlaces]
    exact pairwise_entryPlaces sorted fun entry member => ih entry member (each entry member)
  | array items ih =>
    have each := (ordered_array items).mp ordered
    rw [keyPlaces]
    exact pairwise_itemPlaces 0 fun item member => ih item member (each item member)
  | null | bool | integer | float | string => exact List.Pairwise.nil

end AnalystQuery.Json
