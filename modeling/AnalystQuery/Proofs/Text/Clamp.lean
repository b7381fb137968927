import AnalystQuery.Proofs.Text.Blank

/-! Shortening text: what fits stays whole, what does not fit keeps its beginning and gets an
ellipsis, and text that was shortened fits. -/

namespace AnalystQuery.Text

variable {text kept : String} {limit : Nat}

/-- What text becomes that is shortened to a number of characters. White space is dropped in
front of the ellipsis, which takes the place of one character. -/
inductive Cut (limit : Nat) (text : String) : String → Prop where
  | whole (fits : (trim text).length ≤ limit) : Cut limit text (trim text)
  | nothing (long : limit < (trim text).length) (zero : limit = 0) : Cut limit text ""
  | front (front blanks rest : List Char) (long : limit < (trim text).length)
      (parts : (trim text).toList = front ++ blanks ++ rest)
      (room : (front ++ blanks).length + 1 = limit) (visible : IsTrimmed front)
      (blank : ∀ c ∈ blanks, isBlank c = true) :
      Cut limit text (String.ofList (front ++ ['…']))

theorem length_trim (text : String) : (trim text).length = (trimmed text.toList).length := by
  rw [trim, String.length_ofList]

theorem isTrimmed_trimEnd {text front : List Char} (bare : IsTrimmed text)
    (begins : front <+: text) : IsTrimmed (trimEnd front) := by
  have head : ∀ c ∈ front.head?, isBlank c = false := by
    intro c first
    obtain ⟨rest, rfl⟩ := begins
    refine bare.head c ?_
    rw [List.head?_append, Option.mem_def.mp first]
    rfl
  have kept : trimmed front = trimEnd front := by
    rw [trimmed]
    cases front with
    | nil => rfl
    | cons c rest => rw [List.dropWhile_cons_of_neg (by simp [head c rfl])]
  exact kept ▸ isTrimmed_trimmed front

theorem cut_clamp (text : String) (limit : Nat) : Cut limit text (clamp text limit) := by
  rw [clamp, ← length_trim]
  by_cases fits : (trim text).length ≤ limit
  · rw [if_pos fits]
    exact .whole fits
  · rw [if_neg fits]
    have long := Nat.lt_of_not_le fits
    by_cases zero : limit = 0
    · rw [if_pos zero]
      exact .nothing long zero
    · rw [if_neg zero]
      let begun := (trimmed text.toList).take (limit - 1)
      have begins : begun <+: trimmed text.toList := List.take_prefix _ _
      have parts (front : List Char) : trimEnd front ++ front.rtakeWhile isBlank = front :=
        List.rdropWhile_append_rtakeWhile
      refine .front (trimEnd begun) (begun.rtakeWhile isBlank)
        ((trimmed text.toList).drop (limit - 1)) long ?_ ?_
        (isTrimmed_trimEnd (isTrimmed_trimmed text.toList) begins) ?_
      · rw [parts, List.take_append_drop, trim, String.toList_ofList]
      · rw [parts, List.length_take]
        rw [length_trim] at long
        omega
      · exact fun c member => List.mem_rtakeWhile_imp member

theorem Cut.length_le (cut : Cut limit text kept) : kept.length ≤ limit := by
  cases cut with
  | whole fits => exact fits
  | nothing => exact Nat.zero_le limit
  | front front blanks rest long parts room =>
    rw [String.length_ofList, List.length_append, List.length_singleton]
    rw [List.length_append] at room
    omega

theorem Cut.trimmed (cut : Cut limit text kept) : trim kept = kept := by
  cases cut with
  | whole => exact trim_trim text
  | nothing => rfl
  | front front blanks rest long parts room visible =>
    have bare : IsTrimmed (front ++ ['…']) := by
      constructor
      · intro c first
        cases front with
        | nil =>
          obtain rfl : '…' = c := Option.some.inj first
          decide
        | cons => exact visible.head c first
      · intro c last
        rw [List.getLast?_append, List.getLast?_singleton, Option.some_or] at last
        obtain rfl : '…' = c := Option.some.inj last
        decide
    rw [trim, String.toList_ofList, bare.trimmed_eq]

theorem clamp_of_fits (fits : (trim text).length ≤ limit) : clamp text limit = trim text := by
  rw [clamp, ← length_trim, if_pos fits]
  rfl

theorem length_clamp_le (text : String) (limit : Nat) : (clamp text limit).length ≤ limit :=
  (cut_clamp text limit).length_le

theorem clamp_clamp (text : String) (limit : Nat) :
    clamp (clamp text limit) limit = clamp text limit := by
  have bare := (cut_clamp text limit).trimmed
  rw [clamp_of_fits (bare.symm ▸ length_clamp_le text limit), bare]

end AnalystQuery.Text
