import AnalystQuery.Proofs.Json.Entries
import AnalystQuery.Proofs.Json.RoundTrip

/-! The values that reading gives: integers within their range, objects sorted by key, and no more
containers within each other than may nest. Such a value is read back from its own text if its
floats are. -/

namespace AnalystQuery.Json

/-- A value that may be read where so many containers may still nest. -/
inductive Settled : Nat → Json → Prop
  | null {depth : Nat} : Settled depth null
  | bool {depth : Nat} (value : Bool) : Settled depth (bool value)
  | integer {depth : Nat} {value : Int} (within : IsInteger value) : Settled depth (integer value)
  | float {depth : Nat} (value : Number.Double) : Settled depth (float value)
  | string {depth : Nat} (value : String) : Settled depth (string value)
  | array {depth : Nat} {items : List Json} (each : ∀ item ∈ items, Settled depth item) :
      Settled (depth + 1) (array items)
  | object {depth : Nat} {entries : List (String × Json)} (sorted : SortedByKey entries)
      (each : ∀ entry ∈ entries, Settled depth entry.2) : Settled (depth + 1) (object entries)

variable {fuel depth : Nat} {text rest : List Char} {value : Json}

theorem settled_of_literal {literal : Literal} (valued : literal.value? = some value) :
    Settled depth value := by
  have rounded (scaled : literal.float?.map float = some value) : Settled depth value := by
    obtain ⟨number, -, rfl⟩ := Option.map_eq_some_iff.mp scaled
    exact .float number
  rw [Literal.value?] at valued
  cases negative : literal.negative with
  | true =>
    simp only [negative, if_true, Bool.and_eq_true, decide_eq_true_eq] at valued
    split at valued
    · cases valued
      exact .integer (by rw [IsInteger]; omega)
    · exact rounded valued
  | false =>
    simp only [negative, Bool.false_eq_true, if_false, Bool.and_eq_true, decide_eq_true_eq]
      at valued
    split at valued
    · cases valued
      exact .integer (by rw [IsInteger]; omega)
    · exact rounded valued

theorem settled_ofEntries {entries : List (String × Json)}
    (each : ∀ entry ∈ entries, Settled depth entry.2) :
    Settled (depth + 1) (.ofEntries entries) :=
  .object (sortedByKey_sortEntries entries)
    fun entry member => each entry (mem_sortEntries.mp member).mem

/-- What is read with so much fuel is settled, for values, items and entries alike. -/
structure SettledBy (fuel : Nat) : Prop where
  raw : ∀ {depth text raw rest value}, readRaw fuel depth text = some (raw, rest) →
    raw.value? = some value → Settled depth value
  items : ∀ {depth text raws rest values}, readItems fuel depth text = some (raws, rest) →
    Raw.values? raws = some values → ∀ item ∈ values, Settled depth item
  entries : ∀ {depth text raws rest values}, readEntries fuel depth text = some (raws, rest) →
    Raw.entryValues? raws = some values → ∀ entry ∈ values, Settled depth entry.2

theorem SettledBy.array (known : SettledBy fuel) {raws : List Raw}
    (read : readItems fuel (depth - 1) text = some (raws, rest))
    (valued : (if depth = 0 then Raw.tooDeep else .array raws).value? = some value) :
    Settled depth value := by
  cases depth with
  | zero => cases valued
  | succ depth =>
    obtain ⟨values, valuedItems, rfl⟩ := Option.map_eq_some_iff.mp valued
    exact .array (known.items read valuedItems)

theorem SettledBy.object (known : SettledBy fuel) {raws : List (Option String × Raw)}
    (read : readEntries fuel (depth - 1) text = some (raws, rest))
    (valued : (if depth = 0 then Raw.tooDeep else .object raws).value? = some value) :
    Settled depth value := by
  cases depth with
  | zero => cases valued
  | succ depth =>
    obtain ⟨values, valuedEntries, rfl⟩ := Option.map_eq_some_iff.mp valued
    exact settled_ofEntries (known.entries read valuedEntries)

theorem SettledBy.succ_raw (known : SettledBy fuel) {raw : Raw}
    (read : readRaw (fuel + 1) depth text = some (raw, rest)) (valued : raw.value? = some value) :
    Settled depth value := by
  rw [readRaw] at read
  split at read
  · cases read
    cases valued
    exact .null
  · cases read
    cases valued
    exact .bool true
  · cases read
    cases valued
    exact .bool false
  · obtain ⟨⟨found, after⟩, -, same⟩ := Option.bind_eq_some_iff.mp read
    cases same
    obtain ⟨text, -, rfl⟩ := Option.map_eq_some_iff.mp valued
    exact .string text
  · split at read
    · cases read
      cases depth with
      | zero => cases valued
      | succ depth =>
        cases valued
        exact .array (List.forall_mem_nil _)
    · obtain ⟨⟨raws, after⟩, readItems, same⟩ := Option.bind_eq_some_iff.mp read
      cases same
      exact known.array readItems valued
  · split at read
    · cases read
      cases depth with
      | zero => cases valued
      | succ depth =>
        cases valued
        exact .object .nil (List.forall_mem_nil _)
    · obtain ⟨⟨raws, after⟩, readEntries, same⟩ := Option.bind_eq_some_iff.mp read
      cases same
      exact known.object readEntries valued
  · obtain ⟨⟨literal, after⟩, -, same⟩ := Option.bind_eq_some_iff.mp read
    cases same
    exact settled_of_literal valued
  · obtain ⟨⟨literal, after⟩, -, same⟩ := Option.bind_eq_some_iff.mp read
    cases same
    exact settled_of_literal valued

theorem SettledBy.succ_items (known : SettledBy fuel) {raws : List Raw} {values : List Json}
    (read : readItems (fuel + 1) depth text = some (raws, rest))
    (valued : Raw.values? raws = some values) : ∀ item ∈ values, Settled depth item := by
  obtain ⟨⟨raw, after⟩, readFirst, read⟩ := Option.bind_eq_some_iff.mp read
  dsimp only at read
  split at read
  · cases read
    obtain ⟨value, valuedFirst, valued⟩ := Option.bind_eq_some_iff.mp valued
    cases valued
    exact List.forall_mem_singleton.mpr (known.raw readFirst valuedFirst)
  · obtain ⟨⟨others, behind⟩, readOthers, same⟩ := Option.bind_eq_some_iff.mp read
    cases same
    obtain ⟨value, valuedFirst, valued⟩ := Option.bind_eq_some_iff.mp valued
    obtain ⟨later, valuedOthers, same⟩ := Option.bind_eq_some_iff.mp valued
    cases same
    exact List.forall_mem_cons.mpr ⟨known.raw readFirst valuedFirst,
      known.items readOthers valuedOthers⟩
  · cases read

theorem SettledBy.succ_entries (known : SettledBy fuel) {raws : List (Option String × Raw)}
    {values : List (String × Json)}
    (read : readEntries (fuel + 1) depth text = some (raws, rest))
    (valued : Raw.entryValues? raws = some values) :
    ∀ entry ∈ values, Settled depth entry.2 := by
  rw [readEntries] at read
  split at read
  · obtain ⟨⟨key, afterKey⟩, -, read⟩ := Option.bind_eq_some_iff.mp read
    dsimp only at read
    split at read
    · obtain ⟨⟨raw, after⟩, readFirst, read⟩ := Option.bind_eq_some_iff.mp read
      dsimp only at read
      split at read
      · cases read
        obtain ⟨name, rfl, valued⟩ := Option.bind_eq_some_iff.mp valued
        obtain ⟨value, valuedFirst, valued⟩ := Option.bind_eq_some_iff.mp valued
        cases valued
        exact List.forall_mem_singleton.mpr (known.raw readFirst valuedFirst)
      · obtain ⟨⟨others, behind⟩, readOthers, same⟩ := Option.bind_eq_some_iff.mp read
        cases same
        obtain ⟨name, rfl, valued⟩ := Option.bind_eq_some_iff.mp valued
        obtain ⟨value, valuedFirst, valued⟩ := Option.bind_eq_some_iff.mp valued
        obtain ⟨later, valuedOthers, same⟩ := Option.bind_eq_some_iff.mp valued
        cases same
        exact List.forall_mem_cons.mpr ⟨known.raw readFirst valuedFirst,
          known.entries readOthers valuedOthers⟩
      · cases read
    · cases read
  · cases read

theorem settledBy (fuel : Nat) : SettledBy fuel := by
  induction fuel with
  | zero => exact ⟨(nomatch ·), (nomatch ·), (nomatch ·)⟩
  | succ fuel ih => exact ⟨ih.succ_raw, ih.succ_items, ih.succ_entries⟩

/-- Whatever a whole text is read as is settled. -/
theorem settled_of_read? {text : String} (read : read? text = some value) :
    Settled nestingLimit value := by
  obtain ⟨raw, rawRead, valued⟩ := Option.bind_eq_some_iff.mp read
  obtain ⟨⟨found, after⟩, foundRead, same⟩ := Option.bind_eq_some_iff.mp rawRead
  dsimp only at same
  split at same
  · cases same
    exact (settledBy _).raw foundRead valued
  · cases same

mutual
def floats : Json → List Number.Double
  | .float number => [number]
  | .array items => itemFloats items
  | .object entries => entryFloats entries
  | _ => []

def itemFloats : List Json → List Number.Double
  | [] => []
  | item :: rest => floats item ++ itemFloats rest

def entryFloats : List (String × Json) → List Number.Double
  | [] => []
  | (_, value) :: rest => floats value ++ entryFloats rest
end

theorem mem_floats_array {items : List Json} {item : Json} (member : item ∈ items) :
    ∀ number ∈ item.floats, number ∈ (array items).floats := by
  intro number below
  rw [floats]
  induction items with
  | nil => cases member
  | cons first rest ih =>
    rw [itemFloats, List.mem_append]
    rcases List.mem_cons.mp member with rfl | later
    · exact Or.inl below
    · exact Or.inr (ih later)

theorem mem_floats_object {entries : List (String × Json)} {entry : String × Json}
    (member : entry ∈ entries) :
    ∀ number ∈ entry.2.floats, number ∈ (object entries).floats := by
  intro number below
  rw [floats]
  induction entries with
  | nil => cases member
  | cons first rest ih =>
    rw [entryFloats, List.mem_append]
    rcases List.mem_cons.mp member with rfl | later
    · exact Or.inl below
    · exact Or.inr (ih later)

theorem sortEntries_of_sorted {entries : List (String × Json)} (sorted : SortedByKey entries) :
    sortEntries entries = entries := by
  refine List.Perm.eq_of_pairwise ?_ (sortedByKey_sortEntries entries) sorted
    (sortEntries_perm_iff.mpr sorted.nodup_keys)
  intro first second _ _ below above
  exact absurd (String.lt_trans below above) (String.lt_irrefl _)

/-- The float that a whole text stands for; nothing for any other value. -/
def readFloat? (text : String) : Option Number.Double :=
  match read? text with
  | some (float number) => some number
  | _ => none

theorem readFloat?_eq_some_iff {text : String} {number : Number.Double} :
    readFloat? text = some number ↔ read? text = some (float number) := by
  rw [readFloat?]
  split <;> simp_all

/-- A number that is read as it was written. -/
def ReadsBack (number : Number.Double) : Prop :=
  readFloat? (float number).compact = some number

instance (number : Number.Double) : Decidable (ReadsBack number) :=
  inferInstanceAs (Decidable (_ = _))

/-- A settled value is read back from its own text. -/
theorem readsAs_of_settled (settled : Settled depth value)
    (numbers : ∀ number ∈ value.floats, ReadsBack number) :
    ReadsAs depth (compactText value) value := by
  induction settled with
  | null => exact readsAs_null
  | bool value => exact readsAs_bool value
  | integer within => exact readsAs_integer within
  | float number =>
    have back := numbers number (by simp [floats])
    exact readsAs_float (readFloat?_eq_some_iff.mp back)
  | string text => exact readsAs_string text
  | @array depth items each ih =>
    refine readsAs_array (List.forall₂_same.mpr ?_)
    intro item member
    exact ih item member fun number below => numbers number (mem_floats_array member number below)
  | @object depth entries sorted each ih =>
    have read : ReadsAs (depth + 1) (compactText (.object entries)) (.ofEntries entries) := by
      refine readsAs_object (List.forall₂_same.mpr ?_)
      intro entry member
      exact ⟨rfl, ih entry member
        fun number below => numbers number (mem_floats_object member number below)⟩
    rwa [ofEntries, sortEntries_of_sorted sorted] at read

theorem Settled.deeper {more : Nat} (settled : Settled depth value) (deeper : depth ≤ more) :
    Settled more value := by
  induction settled generalizing more with
  | null => exact .null
  | bool value => exact .bool value
  | integer within => exact .integer within
  | float number => exact .float number
  | string text => exact .string text
  | array each ih =>
    rcases more with - | more
    · cases deeper
    · exact .array fun item member => ih item member (Nat.le_of_succ_le_succ deeper)
  | object sorted each ih =>
    rcases more with - | more
    · cases deeper
    · exact .object sorted fun entry member => ih entry member (Nat.le_of_succ_le_succ deeper)

/-- A value that may be read where enough containers may nest. -/
def IsSettled (value : Json) : Prop := ∃ depth, Settled depth value

theorem exists_depth {α : Type} {items : List α} {part : α → Json}
    (each : ∀ item ∈ items, IsSettled (part item)) :
    ∃ depth, ∀ item ∈ items, Settled depth (part item) := by
  induction items with
  | nil => exact ⟨0, List.forall_mem_nil _⟩
  | cons item rest ih =>
    obtain ⟨⟨own, first⟩, others⟩ := List.forall_mem_cons.mp each
    obtain ⟨depth, later⟩ := ih others
    refine ⟨max own depth, List.forall_mem_cons.mpr ⟨first.deeper (Nat.le_max_left _ _), ?_⟩⟩
    exact fun other member => (later other member).deeper (Nat.le_max_right _ _)

theorem isSettled_array {items : List Json} (each : ∀ item ∈ items, IsSettled item) :
    IsSettled (.array items) := by
  obtain ⟨depth, settled⟩ := exists_depth each
  exact ⟨depth + 1, .array settled⟩

theorem isSettled_object {entries : List (String × Json)} (sorted : SortedByKey entries)
    (each : ∀ entry ∈ entries, IsSettled entry.2) : IsSettled (.object entries) := by
  obtain ⟨depth, settled⟩ := exists_depth each
  exact ⟨depth + 1, .object sorted settled⟩

theorem isSettled_ofEntries {entries : List (String × Json)}
    (each : ∀ entry ∈ entries, IsSettled entry.2) : IsSettled (.ofEntries entries) :=
  isSettled_object (sortedByKey_sortEntries entries)
    fun entry member => each entry (mem_sortEntries.mp member).mem

theorem IsSettled.entry {entries : List (String × Json)} (settled : IsSettled (.object entries))
    {entry : String × Json} (member : entry ∈ entries) : IsSettled entry.2 := by
  obtain ⟨depth, settled⟩ := settled
  cases settled with
  | object sorted each => exact ⟨_, each entry member⟩

theorem isSettled_bool (value : Bool) : IsSettled (.bool value) := ⟨0, .bool value⟩

theorem isSettled_float (number : Number.Double) : IsSettled (.float number) := ⟨0, .float number⟩

theorem isSettled_string (text : String) : IsSettled (.string text) := ⟨0, .string text⟩

theorem isSettled_strings (texts : List String) : IsSettled (.strings texts) := by
  refine isSettled_array fun item member => ?_
  obtain ⟨text, -, rfl⟩ := List.mem_map.mp member
  exact isSettled_string text

theorem isSettled_natural {count : Nat} (small : count < integerLimit) :
    IsSettled (.natural count) := ⟨0, .integer ⟨by omega, by omega⟩⟩

end AnalystQuery.Json
