import AnalystQuery.Json.Decoding
import AnalystQuery.Proofs.Json.Keys
import AnalystQuery.Proofs.Json.Lookup
import AnalystQuery.Proofs.Json.Settled

/-! What is read in the text of a value, whether it is compact or indented: the value spelled out,
with its objects as they were written and a literal for each number. -/

namespace AnalystQuery.Json

open Number (Double)

variable {depth : Nat} {value : Json} {entries : List (String × Json)}

mutual
def nesting : Json → Nat
  | .array items => itemNesting items + 1
  | .object entries => entryNesting entries + 1
  | _ => 0

def itemNesting : List Json → Nat
  | [] => 0
  | item :: rest => max (nesting item) (itemNesting rest)

def entryNesting : List (String × Json) → Nat
  | [] => 0
  | (_, value) :: rest => max (nesting value) (entryNesting rest)
end

theorem nesting_array_le (items : List Json) :
    (array items).nesting ≤ depth + 1 ↔ ∀ item ∈ items, item.nesting ≤ depth := by
  rw [nesting, Nat.add_le_add_iff_right]
  induction items with
  | nil => exact iff_of_true (Nat.zero_le _) (List.forall_mem_nil _)
  | cons item rest ih => rw [itemNesting, Nat.max_le, ih, List.forall_mem_cons]

theorem nesting_object_le (entries : List (String × Json)) :
    (object entries).nesting ≤ depth + 1 ↔ ∀ entry ∈ entries, entry.2.nesting ≤ depth := by
  rw [nesting, Nat.add_le_add_iff_right]
  induction entries with
  | nil => exact iff_of_true (Nat.zero_le _) (List.forall_mem_nil _)
  | cons entry rest ih => rw [entryNesting, Nat.max_le, ih, List.forall_mem_cons]

/-- All floats of a value are read as they are written. -/
def Legible (value : Json) : Prop := ∀ number ∈ value.floats, ReadsBack number

instance (value : Json) : Decidable (Legible value) :=
  inferInstanceAs (Decidable (∀ number ∈ value.floats, ReadsBack number))

theorem Legible.item {items : List Json} (legible : Legible (array items)) {item : Json}
    (member : item ∈ items) : Legible item :=
  fun number below => legible number (mem_floats_array member number below)

theorem Legible.entry (legible : Legible (object entries)) {entry : String × Json}
    (member : entry ∈ entries) : Legible entry.2 :=
  fun number below => legible number (mem_floats_object member number below)

theorem Legible.found (legible : Legible (object entries)) (key : String)
    (found : lookup key entries = some value) : Legible value :=
  legible.entry (mem_of_lookup found)

/-- The literal that is read where a float is written. -/
def floatLiteral (number : Double) : Literal :=
  ((readSigned (number.render lastPositional)).map (·.1)).getD ⟨false, [], none, none⟩

theorem readsBack_cases {number : Double} (back : ReadsBack number) :
    readSigned (number.render lastPositional) = some (floatLiteral number, []) ∧
      (floatLiteral number).value? = some (.float number) := by
  have read := readFloat?_eq_some_iff.mp back
  rw [compact, compactText_float] at read
  obtain ⟨literal, signed, valued⟩ :=
    readSigned_of_read? (isNumeral_of_mem_render lastPositional number) read
  have same : floatLiteral number = literal := by rw [floatLiteral, signed]; rfl
  exact same ▸ ⟨signed, valued⟩

mutual
/-- What is read in the text of a value. -/
def spelled : Json → Raw
  | .null => .null
  | .bool value => .bool value
  | .integer value => .number (integerLiteral value)
  | .float value => .number (floatLiteral value)
  | .string value => .string (some value)
  | .array items => .array (spelledItems items)
  | .object entries => .object (spelledEntries entries)

def spelledItems : List Json → List Raw
  | [] => []
  | item :: rest => spelled item :: spelledItems rest

def spelledEntries : List (String × Json) → List (Option String × Raw)
  | [] => []
  | (key, value) :: rest => (some key, spelled value) :: spelledEntries rest
end

@[simp] theorem spelled_null : spelled .null = .null := by rw [spelled]

@[simp] theorem spelled_bool (value : Bool) : spelled (.bool value) = .bool value := by rw [spelled]

@[simp] theorem spelled_string (text : String) : spelled (.string text) = .string (some text) := by
  rw [spelled]

@[simp] theorem spelled_array (items : List Json) :
    spelled (.array items) = .array (items.map spelled) := by
  rw [spelled]
  congr 1
  induction items with
  | nil => rfl
  | cons item rest ih => rw [spelledItems, List.map_cons, ih]

@[simp] theorem spelled_object (entries : List (String × Json)) :
    spelled (.object entries) = .object (entries.map fun entry => (some entry.1, spelled entry.2)) := by
  rw [spelled]
  congr 1
  induction entries with
  | nil => rfl
  | cons entry rest ih => rw [spelledEntries, List.map_cons, ih]

theorem value?_spelled (settled : IsSettled value) (legible : Legible value) :
    (spelled value).value? = some value := by
  obtain ⟨depth, settled⟩ := settled
  induction settled with
  | null => rfl
  | bool => rfl
  | integer within => exact value?_integerLiteral within
  | float number => exact (readsBack_cases (legible number (by simp [floats]))).2
  | string => rfl
  | array each ih =>
    rw [spelled_array, Raw.value?, values?_of_forall₂]
    · rfl
    · rw [List.forall₂_map_right_iff, List.forall₂_same]
      exact fun item member => ih item member (legible.item member)
  | object sorted each ih =>
    rw [spelled_object, Raw.value?, entryValues?_of_forall₂]
    · exact congrArg some (congrArg object (sortEntries_of_sorted sorted))
    · rw [List.forall₂_map_right_iff, List.forall₂_same]
      exact fun entry member => ⟨rfl, ih entry member (legible.entry member)⟩

/-- How the text of a value is laid out: without white space, or indented for a depth. -/
inductive Layout where
  | compact
  | indented (depth : Nat)

namespace Layout

def text : Layout → Json → List Char
  | .compact => compactText
  | .indented depth => indentedText depth

def inner : Layout → Layout
  | .compact => .compact
  | .indented depth => .indented (depth + 1)

def lineBreak (depth : Nat) : List Char := '\n' :: List.replicate (2 * depth) ' '

theorem isSpacing_lineBreak (depth : Nat) : ∀ c ∈ lineBreak depth, isSpacing c = true := by
  refine List.forall_mem_cons.mpr ⟨rfl, fun c member => ?_⟩
  rw [List.eq_of_mem_replicate member]
  rfl

def spacing : Layout → Spacing
  | .compact => .none
  | .indented depth =>
    ⟨lineBreak (depth + 1), lineBreak depth, [' '], isSpacing_lineBreak _, isSpacing_lineBreak _,
      List.forall_mem_singleton.mpr rfl⟩

variable (layout : Layout)

theorem text_emptyArray : layout.text (.array []) = ['[', ']'] := by
  cases layout with
  | compact => rfl
  | indented depth => simp [text, indentedText]

theorem text_array (item : Json) (rest : List Json) :
    layout.text (.array (item :: rest)) =
      '[' :: laidItems layout.spacing ((item :: rest).map layout.inner.text) := by
  cases layout with
  | compact => exact (compactText_array _).trans (congrArg _ (compactItems_eq_laid _))
  | indented depth =>
    rw [text, indentedText]
    congr 1
    induction item :: rest with
    | nil => rfl
    | cons item rest ih =>
      rw [indentedItems, ih, List.map_cons, laidItems, List.isEmpty_map]
      rfl

theorem text_emptyObject : layout.text (.object []) = ['\x7b', '\x7d'] := by
  cases layout with
  | compact => rfl
  | indented depth => simp [text, indentedText]

theorem text_object (entry : String × Json) (rest : List (String × Json)) :
    layout.text (.object (entry :: rest)) = '\x7b' :: laidEntries layout.spacing
      ((entry :: rest).map fun entry => (entry.1, layout.inner.text entry.2)) := by
  cases layout with
  | compact => exact (compactText_object _).trans (congrArg _ (compactEntries_eq_laid _))
  | indented depth =>
    rw [text, indentedText]
    congr 1
    induction entry :: rest with
    | nil => rfl
    | cons entry rest ih =>
      rw [indentedEntries, ih, List.map_cons, laidEntries, List.isEmpty_map]
      rfl

theorem text_scalar (noArray : value.asArray? = none) (noObject : value.asObject? = none) :
    layout.text value = compactText value := by
  cases layout with
  | compact => rfl
  | indented depth =>
    cases value with
    | array | object => contradiction
    | null | bool | integer | float | string => simp [text, indentedText, compactText]

end Layout

theorem eq_map_of_forall₂ {α β : Type} {change : α → β} {first : List α} {second : List β}
    (each : List.Forall₂ (fun given made => made = change given) first second) :
    second = first.map change := by
  induction each with
  | nil => rfl
  | cons head _ ih => rw [List.map_cons, head, ih]

/-- The text of a value is read as the value spelled out. -/
theorem reads_text (layout : Layout) (nests : value.nesting ≤ depth) (legible : Legible value) :
    Reads depth (layout.text value) (· = spelled value) := by
  induction value using nested generalizing layout depth with
  | null =>
    rw [layout.text_scalar rfl rfl, spelled_null]
    exact reads_null
  | bool value =>
    rw [layout.text_scalar rfl rfl, spelled_bool]
    exact reads_bool value
  | integer value =>
    rw [layout.text_scalar rfl rfl, spelled]
    exact reads_integer value
  | float number =>
    rw [layout.text_scalar rfl rfl, compactText_float, spelled]
    have back := readsBack_cases (legible number (by simp [floats]))
    exact reads_number (isNumeral_of_mem_render lastPositional number) back.1
  | string text =>
    rw [layout.text_scalar rfl rfl, spelled_string]
    exact reads_string text
  | array items each =>
    rcases depth with - | depth
    · rw [nesting] at nests
      cases nests
    · rw [nesting_array_le] at nests
      have texts : List.Forall₂ (Reads depth) (items.map layout.inner.text)
          (items.map fun item => (· = spelled item)) := by
        rw [List.forall₂_map_left_iff, List.forall₂_map_right_iff, List.forall₂_same]
        exact fun item member =>
          each item member layout.inner (nests item member) (legible.item member)
      rw [spelled_array]
      rcases items with - | ⟨item, rest⟩
      · rw [layout.text_emptyArray]
        exact reads_emptyArray
      · rw [layout.text_array]
        refine (reads_array (List.cons_ne_nil _ _) texts).imp ?_
        rintro _ ⟨raws, rfl, accepted⟩
        rw [List.forall₂_map_left_iff] at accepted
        rw [eq_map_of_forall₂ accepted]
  | object entries each =>
    rcases depth with - | depth
    · rw [nesting] at nests
      cases nests
    · rw [nesting_object_le] at nests
      have texts : List.Forall₂ (fun written field =>
            written.1 = field.1 ∧ Reads depth written.2 field.2)
          (entries.map fun entry => (entry.1, layout.inner.text entry.2))
          (entries.map fun entry => (entry.1, (· = spelled entry.2))) := by
        rw [List.forall₂_map_left_iff, List.forall₂_map_right_iff, List.forall₂_same]
        exact fun entry member =>
          ⟨rfl, each entry member layout.inner (nests entry member) (legible.entry member)⟩
      rw [spelled_object]
      rcases entries with - | ⟨entry, rest⟩
      · rw [layout.text_emptyObject]
        exact reads_emptyObject
      · rw [layout.text_object]
        refine (reads_object (List.cons_ne_nil _ _) texts).imp ?_
        rintro _ ⟨raws, rfl, accepted⟩
        rw [List.forall₂_map_left_iff] at accepted
        have same : raws = (entry :: rest).map fun entry => (some entry.1, spelled entry.2) :=
          eq_map_of_forall₂ (accepted.imp fun _ _ both => Prod.ext both.1 both.2)
        rw [same]

/-- The texts of a value by itself: compact, indented, or indented with a line break behind. -/
def writings (value : Json) : List String :=
  [value.compact, value.pretty, value.pretty ++ "\n"]

theorem read?_writings (nests : value.nesting ≤ nestingLimit) (legible : Legible value) :
    ∀ text ∈ value.writings, Raw.read? text = some (spelled value) := by
  have alone (layout : Layout) (gap : List Char) (blank : ∀ c ∈ gap, isSpacing c = true)
      (ends : Ends gap) :
      Raw.read? (String.ofList (layout.text value ++ gap)) = some (spelled value) := by
    obtain ⟨raw, read, rfl⟩ := (reads_text layout nests legible).read? blank ends
    exact read
  intro text written
  simp only [writings, List.mem_cons, List.not_mem_nil, or_false] at written
  rcases written with rfl | rfl | rfl
  · have read := alone .compact [] (List.forall_mem_nil _) ends_nil
    rwa [List.append_nil] at read
  · have read := alone (.indented 0) [] (List.forall_mem_nil _) ends_nil
    rwa [List.append_nil] at read
  · have breaks : ∀ c ∈ ['\n'], isSpacing c = true := List.forall_mem_singleton.mpr rfl
    have read := alone (.indented 0) ['\n'] breaks (by simpa using ends_append breaks ends_nil)
    rwa [String.ofList_append] at read

def writtenFields (entries : List (String × Json)) : Raw.Fields :=
  entries.map fun entry => (entry.1, spelled entry.2)

theorem knownFields_spelled {names : List String} (found : Raw.Fields)
    (known : ∀ entry ∈ entries, entry.1 ∈ names)
    (distinct : (found.map Prod.fst ++ entries.map Prod.fst).Nodup) :
    Raw.knownFields names (entries.map fun entry => (some entry.1, spelled entry.2)) found =
      some (found ++ writtenFields entries) := by
  induction entries generalizing found with
  | nil => rw [List.map_nil, Raw.knownFields, writtenFields, List.map_nil, List.append_nil]
  | cons entry rest ih =>
    obtain ⟨knownFirst, knownOthers⟩ := List.forall_mem_cons.mp known
    have fresh : ¬ found.any (·.1 == entry.1) = true := by
      rw [List.any_eq_true]
      rintro ⟨earlier, member, same⟩
      exact (List.nodup_append.mp distinct).2.2 _ (List.mem_map_of_mem member) entry.1
        List.mem_cons_self (beq_iff_eq.mp same)
    rw [List.map_cons, Raw.knownFields, if_pos (List.contains_iff_mem.mpr knownFirst),
      if_neg fresh, ih (found ++ [(entry.1, spelled entry.2)]) knownOthers (by simpa using distinct),
      List.append_assoc]
    rfl

/-- The fields of a written record are read where their names are known, though some are left
out. -/
theorem fields?_spelled {names : List String} (written : (entries.map Prod.fst).Sublist names)
    (distinct : names.Nodup) :
    (spelled (.object entries)).fields? names = some (writtenFields entries) := by
  rw [spelled_object, Raw.fields?]
  refine knownFields_spelled [] ?_ (distinct.sublist written)
  exact fun entry member => written.mem (List.mem_map_of_mem member)

theorem find?_writtenFields (name : String) (entries : List (String × Json)) :
    (writtenFields entries).find? name = (lookup name entries).map spelled := by
  rw [Raw.Fields.find?, writtenFields, List.find?_map, lookup, Option.map_map, Option.map_map]
  rfl

@[simp] theorem required_writtenFields {α : Type} (name : String) (decode : Raw → Option α)
    (entries : List (String × Json)) :
    (writtenFields entries).required name decode =
      (lookup name entries).bind fun value => decode (spelled value) := by
  rw [Raw.Fields.required, find?_writtenFields, Option.bind_map]
  rfl

@[simp] theorem optional_writtenFields {α : Type} (name : String) (default : α)
    (decode : Raw → Option α) (entries : List (String × Json)) :
    (writtenFields entries).optional name default decode =
      (lookup name entries).elim (some default) fun value => decode (spelled value) := by
  rw [Raw.Fields.optional, find?_writtenFields]
  cases lookup name entries <;> rfl

end AnalystQuery.Json
