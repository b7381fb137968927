import AnalystQuery.Proofs.Json.Layouts

/-! Reading what was written. A written value is read wherever it stands, as long as no digit of a
number follows and no more containers nest than may; arrays and objects are read if their parts
are. -/

namespace AnalystQuery.Json

/-- The text is read as the value wherever it stands, where so many containers may still nest. -/
structure ReadsAs (depth : Nat) (text : List Char) (value : Json) : Prop where
  opens : ∃ c rest, text = c :: rest ∧ isSpacing c = false ∧ c ≠ ']'
  reads : ∀ fuel rest, text.length ≤ fuel → Ends rest →
    ∃ raw, readRaw fuel depth (text ++ rest) = some (raw, rest) ∧ raw.value? = some value

variable {depth fuel : Nat} {text rest : List Char} {value : Json}

theorem readsAs_iff_reads :
    ReadsAs depth text value ↔ Reads depth text fun raw => raw.value? = some value :=
  ⟨fun reads => ⟨reads.opens, reads.reads⟩, fun reads => ⟨reads.opens, reads.reads⟩⟩

def Spacing.none : Spacing :=
  ⟨[], [], [], List.forall_mem_nil _, List.forall_mem_nil _, List.forall_mem_nil _⟩

theorem ReadsAs.read? (readsAs : ReadsAs nestingLimit text value) :
    Json.read? (String.ofList text) = some value := by
  obtain ⟨raw, found, valued⟩ :=
    (readsAs_iff_reads.mp readsAs).read? (List.forall_mem_nil _) ends_nil
  rw [List.append_nil] at found
  rw [Json.read?, found]
  exact valued

theorem compactText_string (value : String) : compactText (.string value) = quoted value := by
  simp [compactText, scalarText]

theorem compactText_integer (value : Int) :
    compactText (.integer value) = (toString value).toList := by
  simp [compactText, scalarText]

theorem compactText_float (value : Number.Double) :
    compactText (.float value) = value.render lastPositional := by
  simp [compactText, scalarText]

theorem reads_null : Reads depth (compactText .null) (· = .null) := by
  refine ⟨⟨'n', _, rfl, rfl, by decide⟩, ?_⟩
  rintro (- | fuel) rest enough -
  · cases enough
  · exact ⟨.null, rfl, rfl⟩

theorem reads_bool (value : Bool) : Reads depth (compactText (.bool value)) (· = .bool value) := by
  cases value with
  | true =>
    refine ⟨⟨'t', _, rfl, rfl, by decide⟩, ?_⟩
    rintro (- | fuel) rest enough -
    · cases enough
    · exact ⟨.bool true, rfl, rfl⟩
  | false =>
    refine ⟨⟨'f', _, rfl, rfl, by decide⟩, ?_⟩
    rintro (- | fuel) rest enough -
    · cases enough
    · exact ⟨.bool false, rfl, rfl⟩

theorem reads_string (value : String) :
    Reads depth (compactText (.string value)) (· = .string (some value)) := by
  rw [compactText_string]
  refine ⟨⟨'"', _, rfl, rfl, by decide⟩, ?_⟩
  rintro (- | fuel) rest enough -
  · cases enough
  · refine ⟨.string (some value), ?_, rfl⟩
    have spaced : skipSpacing ('"' :: (value.toList.flatMap escapeCharacter ++ '"' :: rest)) =
        '"' :: (value.toList.flatMap escapeCharacter ++ '"' :: rest) := rfl
    simp [quoted_append, readRaw, spaced, readString_escaped]

theorem reads_number {literal : Literal} (numerals : ∀ c ∈ text, isNumeral c = true)
    (signed : readSigned text = some (literal, [])) :
    Reads depth text (· = .number literal) := by
  rcases text with - | ⟨c, text⟩
  · cases signed
  · have numeral := numerals c List.mem_cons_self
    refine ⟨⟨c, text, rfl, isSpacing_of_isNumeral numeral, isNumeral_ne numeral (by decide)⟩, ?_⟩
    rintro (- | fuel) rest enough ends
    · cases enough
    · refine ⟨.number literal, ?_, rfl⟩
      rw [List.cons_append, readRaw_numeral numeral, ← List.cons_append,
        readSigned_append ends signed]
      rfl

theorem reads_integer (value : Int) :
    Reads depth (compactText (.integer value)) (· = .number (integerLiteral value)) := by
  rw [compactText_integer]
  exact reads_number (fun _ => isNumeral_of_mem_integer) (readSigned_integer value)

theorem Reads.readsAs {raw : Raw} (reads : Reads depth text (· = raw))
    (valued : raw.value? = some value) : ReadsAs depth text value := by
  refine readsAs_iff_reads.mpr (reads.imp ?_)
  rintro _ rfl
  exact valued

theorem readsAs_null : ReadsAs depth (compactText .null) .null := reads_null.readsAs rfl

theorem readsAs_bool (value : Bool) : ReadsAs depth (compactText (.bool value)) (.bool value) :=
  (reads_bool value).readsAs rfl

theorem readsAs_string (value : String) :
    ReadsAs depth (compactText (.string value)) (.string value) :=
  (reads_string value).readsAs rfl

theorem readsAs_integer {value : Int} (within : IsInteger value) :
    ReadsAs depth (compactText (.integer value)) (.integer value) :=
  (reads_integer value).readsAs (value?_integerLiteral within)

theorem readsAs_float {number : Number.Double}
    (read : Json.read? (Json.float number).compact = some value) :
    ReadsAs depth (compactText (.float number)) value := by
  rw [compact, compactText_float] at read
  have numerals := isNumeral_of_mem_render lastPositional number
  obtain ⟨literal, signed, valued⟩ := readSigned_of_read? numerals read
  rw [compactText_float]
  exact (reads_number numerals signed).readsAs valued

theorem compactText_array (items : List Json) :
    compactText (.array items) = '[' :: compactItems items := by
  simp [compactText]

theorem compactItems_cons (item : Json) (rest : List Json) :
    compactItems (item :: rest) =
      compactText item ++ (if rest.isEmpty then [']'] else ',' :: compactItems rest) := by
  cases rest <;> simp [compactItems]

theorem compactItems_eq_laid (items : List Json) :
    compactItems items = laidItems .none (items.map compactText) := by
  induction items with
  | nil => rfl
  | cons item rest ih =>
    rw [compactItems_cons, ih, List.map_cons, laidItems, List.isEmpty_map]
    cases rest <;> simp [laidItems, Spacing.none]

theorem values?_of_forall₂ {raws : List Raw} {values : List Json}
    (each : List.Forall₂ (fun value raw => Raw.value? raw = some value) values raws) :
    Raw.values? raws = some values := by
  induction each with
  | nil => rfl
  | cons first _ ih => simp [Raw.values?, first, ih]

theorem readsAs_array {items values : List Json}
    (each : List.Forall₂ (fun item value => ReadsAs depth (compactText item) value) items values) :
    ReadsAs (depth + 1) (compactText (.array items)) (.array values) := by
  rw [compactText_array, readsAs_iff_reads]
  have texts : List.Forall₂ (Reads depth) (items.map compactText)
      (values.map fun value raw => Raw.value? raw = some value) := by
    rw [List.forall₂_map_left_iff, List.forall₂_map_right_iff]
    exact each.imp fun _ _ reads => readsAs_iff_reads.mp reads
  rcases items with - | ⟨item, items⟩
  · cases each
    refine reads_emptyArray.imp ?_
    rintro _ rfl
    rfl
  · rw [compactItems_eq_laid]
    refine (reads_array (List.cons_ne_nil _ _) texts).imp ?_
    rintro _ ⟨raws, rfl, accepted⟩
    rw [List.forall₂_map_left_iff] at accepted
    rw [Raw.value?, values?_of_forall₂ accepted]
    rfl

theorem compactText_object (entries : List (String × Json)) :
    compactText (.object entries) = '\x7b' :: compactEntries entries := by
  simp [compactText]

theorem compactEntries_cons (key : String) (item : Json) (rest : List (String × Json)) :
    compactEntries ((key, item) :: rest) = quoted key ++ ':' :: (compactText item ++
      (if rest.isEmpty then ['\x7d'] else ',' :: compactEntries rest)) := by
  cases rest <;> simp [compactEntries]

theorem compactEntries_eq_laid (entries : List (String × Json)) :
    compactEntries entries =
      laidEntries .none (entries.map fun entry => (entry.1, compactText entry.2)) := by
  induction entries with
  | nil => rfl
  | cons entry rest ih =>
    rw [compactEntries_cons, ih, List.map_cons, laidEntries, List.isEmpty_map]
    cases rest <;> simp [laidEntries, Spacing.none]

theorem entryValues?_of_forall₂ {raws : List (Option String × Raw)}
    {values : List (String × Json)}
    (each : List.Forall₂ (fun value raw => raw.1 = some value.1 ∧ raw.2.value? = some value.2)
      values raws) :
    Raw.entryValues? raws = some values := by
  induction each with
  | nil => rfl
  | @cons value raw values raws first _ ih =>
    obtain ⟨key, item⟩ := raw
    obtain ⟨rfl, valued⟩ := first
    simp [Raw.entryValues?, valued, ih]

theorem readsAs_object {entries values : List (String × Json)}
    (each : List.Forall₂ (fun entry value =>
      entry.1 = value.1 ∧ ReadsAs depth (compactText entry.2) value.2) entries values) :
    ReadsAs (depth + 1) (compactText (.object entries)) (.ofEntries values) := by
  rw [compactText_object, readsAs_iff_reads]
  have texts : List.Forall₂ (fun written field =>
        written.1 = field.1 ∧ Reads depth written.2 field.2)
      (entries.map fun entry => (entry.1, compactText entry.2))
      (values.map fun value => (value.1, fun raw => raw.value? = some value.2)) := by
    rw [List.forall₂_map_left_iff, List.forall₂_map_right_iff]
    exact each.imp fun _ _ reads => ⟨reads.1, readsAs_iff_reads.mp reads.2⟩
  rcases entries with - | ⟨entry, entries⟩
  · cases each
    refine reads_emptyObject.imp ?_
    rintro _ rfl
    rfl
  · rw [compactEntries_eq_laid]
    refine (reads_object (List.cons_ne_nil _ _) texts).imp ?_
    rintro _ ⟨raws, rfl, accepted⟩
    rw [List.forall₂_map_left_iff] at accepted
    rw [Raw.value?, entryValues?_of_forall₂ accepted]
    rfl

end AnalystQuery.Json
