import AnalystQuery.Prompt.Summary
import AnalystQuery.Proofs.Json.Keys
import AnalystQuery.Proofs.Json.RoundTrip
import AnalystQuery.Proofs.Text.Clamp

/-! The documents that a summary is asked with. Of those found the first are listed, one a line,
and of each document only the texts are shortened. -/

namespace AnalystQuery

namespace Json

mutual
/-- The texts of a value at any depth, keys apart. -/
def texts : Json → List String
  | .string text => [text]
  | .array items => itemTexts items
  | .object entries => entryTexts entries
  | _ => []

def itemTexts : List Json → List String
  | [] => []
  | item :: rest => texts item ++ itemTexts rest

def entryTexts : List (String × Json) → List String
  | [] => []
  | (_, value) :: rest => texts value ++ entryTexts rest
end

theorem itemTexts_eq_flatMap (items : List Json) : itemTexts items = items.flatMap texts := by
  induction items with
  | nil => rfl
  | cons item rest ih => rw [itemTexts, List.flatMap_cons, ih]

theorem entryTexts_eq_flatMap (entries : List (String × Json)) :
    entryTexts entries = entries.flatMap (texts ·.2) := by
  induction entries with
  | nil => rfl
  | cons entry rest ih => rw [entryTexts, List.flatMap_cons, ih]

/-- A character that is not written as such into text between quotes. -/
abbrev IsControl (c : Char) : Prop := c.toNat < 0x20

variable {c : Char}

theorem not_isControl_of_isNumeral (numeral : isNumeral c = true) : ¬ IsControl c := by
  intro control
  have table : ∀ code < 0x20, isNumeral (Char.ofNat code) = false := by decide
  have mark := table c.toNat control
  rw [Char.ofNat_toNat, numeral] at mark
  cases mark

theorem not_isControl_escapeCharacter (given : Char) :
    ∀ c ∈ escapeCharacter given, ¬ IsControl c := by
  unfold escapeCharacter
  split
  case h_8 =>
    split
    · have table : ∀ digit < 16, ¬ IsControl (Text.hexDigit digit) := by decide
      have byte := given.toNat.toUInt8.toNat_lt
      simp only [Text.hexDigits, List.forall_mem_cons]
      exact ⟨by decide, by decide, by decide, by decide, table _ (by omega), table _ (by omega),
        List.forall_mem_nil _⟩
    · exact List.forall_mem_singleton.mpr ‹_›
  all_goals simp

theorem not_isControl_quoted (text : String) : ∀ c ∈ quoted text, ¬ IsControl c := by
  simp only [quoted, List.cons_append, List.forall_mem_cons, List.forall_mem_append]
  refine ⟨by decide, fun c member => ?_, by decide, List.forall_mem_nil _⟩
  obtain ⟨given, -, below⟩ := List.mem_flatMap.mp member
  exact not_isControl_escapeCharacter given c below

theorem not_isControl_compactText (value : Json) : ∀ c ∈ compactText value, ¬ IsControl c := by
  induction value using nested with
  | null => simp [compactText, scalarText]
  | bool value => cases value <;> simp [compactText, scalarText]
  | integer value =>
    rw [compactText_integer]
    exact fun c member => not_isControl_of_isNumeral (isNumeral_of_mem_integer member)
  | float value =>
    rw [compactText_float]
    exact fun c member => not_isControl_of_isNumeral (isNumeral_of_mem_render _ value c member)
  | string value =>
    rw [compactText_string]
    exact not_isControl_quoted value
  | array items each =>
    rw [compactText_array]
    refine List.forall_mem_cons.mpr ⟨by decide, ?_⟩
    induction items with
    | nil => simp [compactItems]
    | cons item rest ih =>
      obtain ⟨first, others⟩ := List.forall_mem_cons.mp each
      rw [compactItems_cons, List.forall_mem_append]
      refine ⟨first, ?_⟩
      split
      · simp
      · exact List.forall_mem_cons.mpr ⟨by decide, ih others⟩
  | object entries each =>
    rw [compactText_object]
    refine List.forall_mem_cons.mpr ⟨by decide, ?_⟩
    induction entries with
    | nil => simp [compactEntries]
    | cons entry rest ih =>
      obtain ⟨first, others⟩ := List.forall_mem_cons.mp each
      rw [compactEntries_cons, List.forall_mem_append, List.forall_mem_cons,
        List.forall_mem_append]
      refine ⟨not_isControl_quoted entry.1, by decide, first, ?_⟩
      split
      · simp
      · exact List.forall_mem_cons.mpr ⟨by decide, ih others⟩

end Json

namespace Prompt

/-- A value and the same value with its texts shortened. -/
inductive Abridged (limit : Nat) : Json → Json → Prop where
  | null : Abridged limit .null .null
  | bool (value : Bool) : Abridged limit (.bool value) (.bool value)
  | integer (value : Int) : Abridged limit (.integer value) (.integer value)
  | float (value : Number.Double) : Abridged limit (.float value) (.float value)
  | string {text kept : String} (cut : Text.Cut limit text kept) :
      Abridged limit (.string text) (.string kept)
  | array {items kept : List Json} (each : List.Forall₂ (Abridged limit) items kept) :
      Abridged limit (.array items) (.array kept)
  | object {entries kept : List (String × Json)} (keys : kept.map (·.1) = entries.map (·.1))
      (each : List.Forall₂ (Abridged limit) (entries.map (·.2)) (kept.map (·.2))) :
      Abridged limit (.object entries) (.object kept)

variable {limit : Nat}

theorem clampItems_eq_map (limit : Nat) (items : List Json) :
    clampItems limit items = items.map (clampTexts limit) := by
  induction items with
  | nil => rfl
  | cons item rest ih => rw [clampItems, List.map_cons, ih]

theorem clampEntries_eq_map (limit : Nat) (entries : List (String × Json)) :
    clampEntries limit entries = entries.map fun entry => (entry.1, clampTexts limit entry.2) := by
  induction entries with
  | nil => rfl
  | cons entry rest ih => rw [clampEntries, List.map_cons, ih]

@[simp] theorem clampTexts_array (limit : Nat) (items : List Json) :
    clampTexts limit (.array items) = .array (items.map (clampTexts limit)) := by
  rw [clampTexts, clampItems_eq_map]

@[simp] theorem clampTexts_object (limit : Nat) (entries : List (String × Json)) :
    clampTexts limit (.object entries) =
      .object (entries.map fun entry => (entry.1, clampTexts limit entry.2)) := by
  rw [clampTexts, clampEntries_eq_map]

theorem abridged_clampTexts (limit : Nat) (value : Json) :
    Abridged limit value (clampTexts limit value) := by
  induction value using Json.nested with
  | null => exact .null
  | bool value => exact .bool value
  | integer value => exact .integer value
  | float value => exact .float value
  | string text => exact .string (Text.cut_clamp text limit)
  | array items each =>
    rw [clampTexts_array]
    exact .array (List.forall₂_map_right_iff.mpr (List.forall₂_same.mpr each))
  | object entries each =>
    rw [clampTexts_object]
    refine .object (List.map_map.trans rfl) ?_
    rw [List.map_map, List.forall₂_map_left_iff, List.forall₂_map_right_iff, List.forall₂_same]
    exact each

/-- The texts of a shortened value are those of the value, each of them shortened. -/
theorem texts_clampTexts (limit : Nat) (value : Json) :
    (clampTexts limit value).texts = value.texts.map (Text.clamp · limit) := by
  induction value using Json.nested with
  | null | bool | integer | float | string => rfl
  | array items each =>
    rw [clampTexts_array, Json.texts, Json.texts, Json.itemTexts_eq_flatMap,
      Json.itemTexts_eq_flatMap, List.flatMap_map, List.map_flatMap]
    exact List.flatMap_congr each
  | object entries each =>
    rw [clampTexts_object, Json.texts, Json.texts, Json.entryTexts_eq_flatMap,
      Json.entryTexts_eq_flatMap, List.flatMap_map, List.map_flatMap]
    exact List.flatMap_congr each

theorem length_le_of_mem_texts {value : Json} {text : String}
    (member : text ∈ (clampTexts limit value).texts) : text.length ≤ limit := by
  rw [texts_clampTexts] at member
  obtain ⟨given, -, rfl⟩ := List.mem_map.mp member
  exact Text.length_clamp_le given limit

theorem clampTexts_clampTexts (limit : Nat) (value : Json) :
    clampTexts limit (clampTexts limit value) = clampTexts limit value := by
  induction value using Json.nested with
  | null | bool | integer | float => rfl
  | string text => rw [clampTexts, clampTexts, Text.clamp_clamp]
  | array items each =>
    rw [clampTexts_array, clampTexts_array, List.map_map]
    exact congrArg Json.array (List.map_congr_left each)
  | object entries each =>
    rw [clampTexts_object, clampTexts_object, List.map_map]
    exact congrArg Json.object
      (List.map_congr_left fun entry member => Prod.ext rfl (each entry member))

def sampleLines (documents : List Json) : List String :=
  if documents.isEmpty then []
  else "" :: ("Sample of " ++ toString documents.length ++ " record(s):") ::
    documents.map fun document => "- " ++ document.compact

def summaryEnd (aggregations : Option Json) : String :=
  let lines := aggregations.elim [] aggregationLines
  (if lines.isEmpty then ""
    else "\nAggregations:\n" ++ String.join (lines.map fun line => "- " ++ line ++ "\n")) ++
    "\nSummarize these results for the analyst."

theorem newline_not_mem_sampleLines {documents : List Json} {line : String}
    (listed : line ∈ sampleLines documents) : '\n' ∉ line.toList := by
  rw [sampleLines] at listed
  split at listed
  · cases listed
  · rcases List.mem_cons.mp listed with rfl | listed
    · exact List.not_mem_nil
    · rcases List.mem_cons.mp listed with rfl | listed
      · rw [String.toList_append, String.toList_append, List.mem_append, List.mem_append]
        rintro ((heading | count) | heading)
        · exact absurd heading (by decide)
        · have written : (toString documents.length).toList = Number.decimalDigits documents.length :=
            Nat.toList_repr
          rw [written] at count
          exact absurd (Number.isDigit_of_mem_decimalDigits count) (by decide)
        · exact absurd heading (by decide)
      · obtain ⟨document, -, rfl⟩ := List.mem_map.mp listed
        rw [String.toList_append, List.mem_append]
        rintro (bullet | inside)
        · exact absurd bullet (by decide)
        · rw [Json.compact, String.toList_ofList] at inside
          exact Json.not_isControl_compactText document '\n' inside (by decide)

theorem summary_eq (question : String) (total : Nat) (hits : List Search.Hit)
    (aggregations : Option Json) (sampleSize limit : Nat) :
    summary question total hits aggregations sampleSize limit =
      "Question: " ++ Text.trim question ++ "\nTotal matching records: " ++ toString total ++ "\n" ++
        String.join ((sampleLines ((hits.take sampleSize).map fun hit =>
          clampTexts limit hit.source)).map (· ++ "\n")) ++ summaryEnd aggregations := by
  have parts : summary question total hits aggregations sampleSize limit =
      "Question: " ++ Text.trim question ++ "\nTotal matching records: " ++ toString total ++ "\n" ++
        (if (hits.take sampleSize).isEmpty then ""
          else "\nSample of " ++ toString (hits.take sampleSize).length ++ " record(s):\n" ++
            String.join (((hits.take sampleSize).map fun hit =>
              (clampTexts limit hit.source).compact).map fun line => "- " ++ line ++ "\n")) ++
        (if (aggregations.elim [] aggregationLines).isEmpty then ""
          else "\nAggregations:\n" ++ String.join ((aggregations.elim [] aggregationLines).map
            fun line => "- " ++ line ++ "\n")) ++
        "\nSummarize these results for the analyst." := rfl
  rw [parts, summaryEnd, sampleLines]
  cases hits.take sampleSize with
  | nil => simp [String.append_assoc]
  | cons hit rest =>
    have heading (text : String) : "\n" ++ ("Sample of " ++ text) = "\nSample of " ++ text := by
      rw [← String.append_assoc]
      rfl
    simp [heading, String.append_assoc, Function.comp_def]

/-- As many documents are listed as were found and may be, in their order, each in a line of its
own. Of each document all texts are shortened and nothing else is changed, and shortening it again
would change nothing. -/
theorem summary_lists_sample (question : String) (total : Nat) (hits : List Search.Hit)
    (aggregations : Option Json) (sampleSize limit : Nat) :
    ∃ documents : List Json,
      documents.length = min hits.length sampleSize ∧
      List.Forall₂ (fun (hit : Search.Hit) document =>
        Abridged limit hit.source document ∧ document = clampTexts limit hit.source ∧
          clampTexts limit document = document ∧ ∀ text ∈ document.texts, text.length ≤ limit)
        (hits.take sampleSize) documents ∧
      summary question total hits aggregations sampleSize limit =
        "Question: " ++ Text.trim question ++ "\nTotal matching records: " ++ toString total ++
          "\n" ++ String.join ((sampleLines documents).map (· ++ "\n")) ++
          summaryEnd aggregations ∧
      ∀ line ∈ sampleLines documents, '\n' ∉ line.toList := by
  refine ⟨(hits.take sampleSize).map fun hit => clampTexts limit hit.source, ?_, ?_, ?_,
    fun line => newline_not_mem_sampleLines⟩
  · rw [List.length_map, List.length_take, Nat.min_comm]
  · rw [List.forall₂_map_right_iff, List.forall₂_same]
    intro hit _
    exact ⟨abridged_clampTexts limit hit.source, rfl, clampTexts_clampTexts limit hit.source,
      fun text => length_le_of_mem_texts⟩
  · exact summary_eq question total hits aggregations sampleSize limit

end Prompt

end AnalystQuery
