import AnalystQuery.Intent.Extraction
import AnalystQuery.Proofs.Json.Keys
import AnalystQuery.Proofs.Json.RoundTrip

/-! Scanning the text of a JSON value: every brace it opens is closed within it and the braces in
its strings do not count, so that the text of an object is one balanced span. -/

namespace AnalystQuery.Intent

open Json (escapeCharacter quoted compactText compactItems compactEntries)

def prepend (front : List Char) (found : List Char × List Char) : List Char × List Char :=
  (front ++ found.1, found.2)

/-- Text behind which a scan stands as it stood in front of it. -/
def Neutral (state : ScanState) (text : List Char) : Prop :=
  ∀ depth rest, closeObject? depth state (text ++ rest) =
    (closeObject? depth state rest).map (prepend text)

variable {state : ScanState} {text first second : List Char} {c : Char}

theorem map_prepend_map (found : Option (List Char × List Char)) :
    (found.map (prepend second)).map (prepend first) = found.map (prepend (first ++ second)) := by
  cases found <;> simp [prepend]

theorem neutral_nil : Neutral state [] := by
  intro depth rest
  have same : prepend [] = id := rfl
  rw [same, Option.map_id_fun, id_eq, List.nil_append]

theorem Neutral.append (front : Neutral state first) (back : Neutral state second) :
    Neutral state (first ++ second) := by
  intro depth rest
  rw [List.append_assoc, front, back, map_prepend_map]

theorem neutral_flatMap {α : Type} {parts : List α} {write : α → List Char}
    (each : ∀ part ∈ parts, Neutral state (write part)) : Neutral state (parts.flatMap write) := by
  induction parts with
  | nil => exact neutral_nil
  | cons part parts ih =>
    obtain ⟨here, others⟩ := List.forall_mem_cons.mp each
    exact here.append (ih others)

theorem neutral_plain (noQuote : c ≠ '"') (noOpening : c ≠ '\x7b') (noClosing : c ≠ '\x7d') :
    Neutral .code [c] := by
  intro depth rest
  simp [closeObject?, noQuote, noOpening, noClosing]
  rfl

theorem neutral_of_plain (plain : ∀ c ∈ text, c ≠ '"' ∧ c ≠ '\x7b' ∧ c ≠ '\x7d') :
    Neutral .code text := by
  have each : ∀ c ∈ text, Neutral .code [c] := by
    intro c member
    obtain ⟨noQuote, noOpening, noClosing⟩ := plain c member
    exact neutral_plain noQuote noOpening noClosing
  have whole := neutral_flatMap each
  rwa [List.flatMap_singleton'] at whole

theorem neutral_string_plain (noQuote : c ≠ '"') (noBackslash : c ≠ '\\') :
    Neutral .string [c] := by
  intro depth rest
  simp [closeObject?, noQuote, noBackslash]
  rfl

theorem neutral_escape (letter : Char) : Neutral .string ['\\', letter] := by
  intro depth rest
  simp [closeObject?]
  rfl

theorem neutral_hexDigit {value : Nat} (small : value < 16) :
    Neutral .string [Text.hexDigit value] := by
  have table : ∀ digit < 16, Text.hexDigit digit ≠ '"' ∧ Text.hexDigit digit ≠ '\\' := by decide
  exact neutral_string_plain (table value small).1 (table value small).2

theorem neutral_escapeCharacter (c : Char) : Neutral .string (escapeCharacter c) := by
  unfold escapeCharacter
  split
  · exact neutral_escape _
  · exact neutral_escape _
  · exact neutral_escape _
  · exact neutral_escape _
  · exact neutral_escape _
  · exact neutral_escape _
  · exact neutral_escape _
  · rename_i noQuote noBackslash _ _ _ _ _
    split
    · have zero : Neutral .string ['0'] := neutral_string_plain (by decide) (by decide)
      have byte := c.toNat.toUInt8.toNat_lt
      have high : Neutral .string [Text.hexDigit (c.toNat.toUInt8.toNat / 16)] :=
        neutral_hexDigit (by omega)
      have low : Neutral .string [Text.hexDigit (c.toNat.toUInt8.toNat % 16)] :=
        neutral_hexDigit (by omega)
      exact (neutral_escape 'u').append (zero.append (zero.append (high.append low)))
    · exact neutral_string_plain noQuote noBackslash

theorem neutral_quotes (inside : Neutral .string text) :
    Neutral .code ('"' :: (text ++ ['"'])) := by
  intro depth rest
  have opening (more : List Char) : closeObject? depth .code ('"' :: more) =
      (closeObject? depth .string more).map (prepend ['"']) := rfl
  have closing (more : List Char) : closeObject? depth .string ('"' :: more) =
      (closeObject? depth .code more).map (prepend ['"']) := rfl
  rw [List.cons_append, List.append_assoc, opening, inside, List.singleton_append, closing,
    map_prepend_map, map_prepend_map]
  rfl

theorem neutral_quoted (text : String) : Neutral .code (quoted text) :=
  neutral_quotes (neutral_flatMap fun c _ => neutral_escapeCharacter c)

theorem neutral_braces (inside : Neutral .code text) :
    Neutral .code ('\x7b' :: (text ++ ['\x7d'])) := by
  intro depth rest
  have opening (more : List Char) : closeObject? depth .code ('\x7b' :: more) =
      (closeObject? (depth + 1) .code more).map (prepend ['\x7b']) := rfl
  have closing (more : List Char) : closeObject? (depth + 1) .code ('\x7d' :: more) =
      (closeObject? depth .code more).map (prepend ['\x7d']) := rfl
  rw [List.cons_append, List.append_assoc, opening, inside, List.singleton_append, closing,
    map_prepend_map, map_prepend_map]
  rfl

theorem neutral_numerals (numerals : ∀ c ∈ text, Json.isNumeral c = true) :
    Neutral .code text := by
  refine neutral_of_plain fun c member => ?_
  have numeral := numerals c member
  exact ⟨Json.isNumeral_ne numeral (by decide), Json.isNumeral_ne numeral (by decide),
    Json.isNumeral_ne numeral (by decide)⟩

theorem neutral_compactItems {items : List Json}
    (each : ∀ item ∈ items, Neutral .code (compactText item)) :
    Neutral .code (compactItems items) := by
  have bracket : Neutral .code [']'] := neutral_plain (by decide) (by decide) (by decide)
  have comma : Neutral .code [','] := neutral_plain (by decide) (by decide) (by decide)
  induction items with
  | nil => exact bracket
  | cons item items ih =>
    obtain ⟨here, others⟩ := List.forall_mem_cons.mp each
    rw [Json.compactItems_cons]
    refine here.append ?_
    split
    · exact bracket
    · exact comma.append (ih others)

theorem compactEntries_eq {entries : List (String × Json)}
    (each : ∀ entry ∈ entries, Neutral .code (compactText entry.2)) :
    ∃ inside, compactEntries entries = inside ++ ['\x7d'] ∧ Neutral .code inside := by
  have colon : Neutral .code [':'] := neutral_plain (by decide) (by decide) (by decide)
  have comma : Neutral .code [','] := neutral_plain (by decide) (by decide) (by decide)
  induction entries with
  | nil => exact ⟨[], by simp [compactEntries], neutral_nil⟩
  | cons entry entries ih =>
    obtain ⟨here, others⟩ := List.forall_mem_cons.mp each
    have front := (neutral_quoted entry.1).append (colon.append here)
    obtain ⟨inside, same, neutral⟩ := ih others
    rw [Json.compactEntries_cons]
    split
    · exact ⟨_, by simp, front⟩
    · exact ⟨_, by simp [same], front.append (comma.append neutral)⟩

theorem neutral_compactText (value : Json) : Neutral .code (compactText value) := by
  have bracket : Neutral .code ['['] := neutral_plain (by decide) (by decide) (by decide)
  induction value using Json.nested with
  | null => exact neutral_of_plain (by simp [compactText, Json.scalarText])
  | bool value =>
    cases value <;> exact neutral_of_plain (by simp [compactText, Json.scalarText])
  | integer value =>
    rw [Json.compactText_integer]
    exact neutral_numerals fun c => Json.isNumeral_of_mem_integer
  | float value =>
    rw [Json.compactText_float]
    exact neutral_numerals (Json.isNumeral_of_mem_render Json.lastPositional value)
  | string text =>
    rw [Json.compactText_string]
    exact neutral_quoted text
  | array items ih =>
    rw [Json.compactText_array]
    exact bracket.append (neutral_compactItems ih)
  | object entries ih =>
    obtain ⟨inside, same, neutral⟩ := compactEntries_eq ih
    rw [Json.compactText_object, same]
    exact neutral_braces neutral

theorem balancedObject?_braces (inside : Neutral .code text) :
    balancedObject? ('\x7b' :: (text ++ ['\x7d'])) = some ('\x7b' :: (text ++ ['\x7d'])) := by
  have opened : fromOpening ('\x7b' :: (text ++ ['\x7d'])) = '\x7b' :: (text ++ ['\x7d']) := rfl
  have closing : closeObject? 0 .code ['\x7d'] = some (['\x7d'], []) := rfl
  rw [balancedObject?, opened]
  dsimp only
  rw [inside, closing]
  rfl

theorem balancedObject?_compactText (entries : List (String × Json)) :
    balancedObject? (compactText (.object entries)) = some (compactText (.object entries)) := by
  obtain ⟨inside, same, neutral⟩ := compactEntries_eq fun entry (_ : entry ∈ entries) =>
    neutral_compactText entry.2
  rw [Json.compactText_object, same]
  exact balancedObject?_braces neutral

end AnalystQuery.Intent
