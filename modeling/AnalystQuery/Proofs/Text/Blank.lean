import AnalystQuery.Text.Blank
import Mathlib.Data.List.DropRight

/-! Trimming text: which text is left alone, and what is left of any text. -/

namespace AnalystQuery.Text

variable {text : List Char}

structure IsTrimmed (text : List Char) : Prop where
  head : ∀ c ∈ text.head?, isBlank c = false
  last : ∀ c ∈ text.getLast?, isBlank c = false

theorem IsTrimmed.of_visible (visible : ∀ c ∈ text, isBlank c = false) : IsTrimmed text :=
  ⟨fun c first => visible c (List.mem_of_mem_head? first),
    fun c last => visible c (List.mem_of_mem_getLast? last)⟩

theorem trimEnd_eq_rdropWhile (text : List Char) : trimEnd text = text.rdropWhile isBlank := rfl

theorem IsTrimmed.trimmed_eq (bare : IsTrimmed text) : trimmed text = text := by
  have front : text.dropWhile isBlank = text := by
    cases text with
    | nil => rfl
    | cons c rest =>
      have visible := bare.head c rfl
      rw [List.dropWhile_cons, visible]
      rfl
  rw [trimmed, front, trimEnd_eq_rdropWhile, List.rdropWhile_eq_self_iff]
  intro nonempty
  rw [bare.last _ (List.getLast?_eq_some_getLast nonempty)]
  exact Bool.false_ne_true

theorem isTrimmed_trimmed (text : List Char) : IsTrimmed (trimmed text) := by
  rw [trimmed, trimEnd_eq_rdropWhile]
  constructor
  · intro c first
    -- What is kept begins like the text after its leading white space.
    obtain ⟨dropped, whole⟩ := List.rdropWhile_prefix isBlank (text.dropWhile isBlank)
    have head : (text.dropWhile isBlank).head? = some c := by
      rw [← whole, List.head?_append, Option.mem_def.mp first]
      rfl
    have visible := List.head?_dropWhile_not isBlank text
    rw [head] at visible
    exact visible
  · intro c last
    have nonempty : (text.dropWhile isBlank).rdropWhile isBlank ≠ [] := by
      rintro empty
      rw [empty] at last
      cases last
    have visible := List.rdropWhile_last_not isBlank _ nonempty
    rw [List.getLast?_eq_some_getLast nonempty] at last
    rw [← Option.some.inj last]
    exact Bool.not_eq_true _ ▸ visible

theorem trimmed_eq_nil_iff : trimmed text = [] ↔ ∀ c ∈ text, isBlank c = true := by
  rw [trimmed, trimEnd_eq_rdropWhile, List.rdropWhile_eq_nil_iff]
  constructor
  · intro blank
    have visible := List.head?_dropWhile_not isBlank text
    cases rest : text.dropWhile isBlank with
    | nil => exact List.dropWhile_eq_nil_iff.mp rest
    | cons c later =>
      rw [rest] at visible blank
      simp [blank c List.mem_cons_self] at visible
  · intro blank c member
    exact blank c ((List.dropWhile_suffix isBlank).mem member)

theorem trimmed_trim (text : String) : trimmed (trim text).toList = trimmed text.toList := by
  rw [trim, String.toList_ofList, (isTrimmed_trimmed text.toList).trimmed_eq]

theorem trim_trim (text : String) : trim (trim text) = trim text :=
  congrArg String.ofList (trimmed_trim text)

end AnalystQuery.Text
