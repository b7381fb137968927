import AnalystQuery.Proofs.Json.Literals
import Mathlib.Data.List.TakeWhile

/-! Written numbers: which characters they consist of, that integers are read as they were written,
and that a number which is read alone is read the same way in front of other text. -/

namespace AnalystQuery.Json

open Number (Binary Double decimalDigits)

variable {text rest after : List Char} {literal : Literal} {c : Char} {fuel depth : Nat}

def isNumeral (c : Char) : Bool := c.isDigit || ['.', 'e', '+', '-'].contains c

theorem isNumeral_of_isDigit (digit : c.isDigit = true) : isNumeral c = true := by
  rw [isNumeral, digit]
  rfl

theorem isNumeral_ne {other : Char} (numeral : isNumeral c = true)
    (mark : isNumeral other = false) : c ≠ other := by
  rintro rfl
  rw [numeral] at mark
  cases mark

def readSigned (text : List Char) : Option (Literal × List Char) :=
  match text with
  | '-' :: rest => readLiteral true rest
  | rest => readLiteral false rest

theorem readSigned_append (ends : Ends rest) (read : readSigned text = some (literal, after)) :
    readSigned (text ++ rest) = some (literal, after ++ rest) := by
  rw [readSigned.eq_def] at read
  split at read
  · exact readLiteral_append ends read
  · rename_i unsigned
    rcases text with - | ⟨c, text⟩
    · cases read
    · rw [List.cons_append, readSigned]
      · exact readLiteral_append ends read
      · intro more same
        obtain ⟨rfl, -⟩ := List.cons.inj same
        exact unsigned text rfl

theorem readSigned_suffix (read : readSigned text = some (literal, after)) : after <:+ text := by
  rw [readSigned.eq_def] at read
  split at read
  · exact (readLiteral_suffix read).trans (List.suffix_cons _ _)
  · exact readLiteral_suffix read

theorem isSpacing_of_isNumeral (numeral : isNumeral c = true) : isSpacing c = false := by
  rw [Bool.eq_false_iff]
  intro spacing
  simp only [isSpacing, Bool.or_eq_true, beq_iff_eq] at spacing
  rcases spacing with ((same | same) | same) | same
  all_goals exact isNumeral_ne numeral (by decide) same

theorem skipSpacing_of_not (visible : isSpacing c = false) :
    skipSpacing (c :: text) = c :: text := by
  rw [skipSpacing, List.dropWhile_cons_of_neg (by simp [visible])]

theorem readRaw_numeral (numeral : isNumeral c = true) :
    readRaw (fuel + 1) depth (c :: text) =
      (readSigned (c :: text)).map fun found => (.number found.1, found.2) := by
  have apart {other : Char} (mark : isNumeral other = false) {more : List Char}
      (same : c :: text = other :: more) : False :=
    isNumeral_ne numeral mark (List.cons.inj same).1
  simp only [readRaw, skipSpacing_of_not (isSpacing_of_isNumeral numeral)]
  split
  · rename_i same
    exact (apart (by decide) same).elim
  · rename_i same
    exact (apart (by decide) same).elim
  · rename_i same
    exact (apart (by decide) same).elim
  · rename_i same
    exact (apart (by decide) same).elim
  · rename_i same
    exact (apart (by decide) same).elim
  · rename_i same
    exact (apart (by decide) same).elim
  · rename_i same
    rw [same, readSigned]
    cases readLiteral true _ <;> rfl
  · rename_i unsigned
    rw [readSigned]
    · cases readLiteral false (c :: text) <;> rfl
    · exact unsigned

/-- Text of numerals that is read as a whole is one literal. -/
theorem readSigned_of_read? {value : Json} (numerals : ∀ c ∈ text, isNumeral c = true)
    (read : read? (String.ofList text) = some value) :
    ∃ literal, readSigned text = some (literal, []) ∧ literal.value? = some value := by
  obtain ⟨raw, rawRead, valued⟩ := Option.bind_eq_some_iff.mp read
  rw [Raw.read?, Raw.readWithin?, String.toList_ofList] at rawRead
  obtain ⟨⟨found, after⟩, foundRead, same⟩ := Option.bind_eq_some_iff.mp rawRead
  rcases text with - | ⟨c, text⟩
  · cases foundRead
  · rw [readRaw_numeral (numerals c List.mem_cons_self)] at foundRead
    obtain ⟨⟨literal, left⟩, signed, pair⟩ := Option.map_eq_some_iff.mp foundRead
    cases pair
    dsimp only at same
    split at same
    · rename_i spacing
      cases same
      -- What is left consists of numerals, so there is no spacing to skip.
      rcases left with - | ⟨d, left⟩
      · exact ⟨literal, signed, valued⟩
      · have numeral := numerals d ((readSigned_suffix signed).mem List.mem_cons_self)
        rw [skipSpacing_of_not (isSpacing_of_isNumeral numeral)] at spacing
        cases spacing
    · cases same

/-- The integers that stay integers when they are read. -/
def IsInteger (value : Int) : Prop := -(Nat.pow 2 63 : Nat) ≤ value ∧ value < integerLimit

theorem toString_integer (value : Int) :
    (toString value).toList =
      (if value < 0 then ['-'] else []) ++ decimalDigits value.natAbs := by
  cases value with
  | ofNat value =>
    have nonnegative : ¬ Int.ofNat value < 0 := Int.not_lt.mpr (Int.natCast_nonneg value)
    rw [if_neg nonnegative]
    exact Nat.toList_repr
  | negSucc value =>
    rw [if_pos (Int.negSucc_lt_zero value)]
    have written : toString (Int.negSucc value) = "-" ++ Nat.repr value.succ := rfl
    rw [written, String.toList_append, Nat.toList_repr]
    rfl

theorem readLiteral_decimalDigits (negative : Bool) (value : Nat) :
    readLiteral negative (decimalDigits value) =
      some (⟨negative, decimalDigits value, none, none⟩, []) := by
  have digits : ∀ c ∈ decimalDigits value, c.isDigit = true :=
    fun c => Number.isDigit_of_mem_decimalDigits
  have all : (decimalDigits value).takeWhile Char.isDigit = decimalDigits value :=
    List.takeWhile_eq_self_iff.mpr digits
  have none : (decimalDigits value).dropWhile Char.isDigit = [] :=
    List.dropWhile_eq_nil_iff.mpr digits
  have bare : ¬ ((decimalDigits value).isEmpty || (decimalDigits value).head? == some '0' &&
      decide (1 < (decimalDigits value).length)) = true := by
    simp only [Bool.or_eq_true, List.isEmpty_iff, Bool.and_eq_true, beq_iff_eq, decide_eq_true_eq]
    rintro (empty | ⟨leading, long⟩)
    · exact Number.decimalDigits_ne_nil value empty
    · rw [Number.decimalDigits_bare leading] at long
      exact absurd long (Nat.lt_irrefl 1)
  rw [readLiteral, all, none]
  dsimp only
  rw [if_neg bare]
  rfl

/-- The literal that is written for an integer. -/
def integerLiteral (value : Int) : Literal :=
  ⟨value < 0, decimalDigits value.natAbs, none, none⟩

theorem readSigned_integer (value : Int) :
    readSigned (toString value).toList = some (integerLiteral value, []) := by
  rw [toString_integer, integerLiteral]
  by_cases negative : value < 0
  · rw [if_pos negative, decide_eq_true negative]
    exact readLiteral_decimalDigits true _
  · rw [if_neg negative, decide_eq_false negative, List.nil_append, readSigned]
    · exact readLiteral_decimalDigits false _
    · intro more same
      have first : '-' ∈ decimalDigits value.natAbs := by
        rw [same]
        exact List.mem_cons_self
      cases Number.isDigit_of_mem_decimalDigits first

theorem value?_integerLiteral {value : Int} (within : IsInteger value) :
    (integerLiteral value).value? = some (.integer value) := by
  have digits := Number.digitsValue_decimalDigits value.natAbs
  obtain ⟨low, high⟩ := within
  by_cases negative : value < 0
  · have positive : 0 < value.natAbs := by omega
    have small : value.natAbs ≤ Nat.pow 2 63 := by omega
    have same : -(value.natAbs : Int) = value := by omega
    simp only [integerLiteral, Literal.value?, digits, negative, positive, small, same,
      Option.isNone_none, decide_true, Bool.and_self, if_true]
  · have small : value.natAbs < integerLimit := by omega
    have same : (value.natAbs : Int) = value := by omega
    simp [integerLiteral, Literal.value?, digits, negative, small, same]

theorem isNumeral_of_mem_integer {value : Int} (member : c ∈ (toString value).toList) :
    isNumeral c = true := by
  rw [toString_integer, List.mem_append] at member
  rcases member with sign | digit
  · split at sign
    · rw [List.mem_singleton.mp sign]
      rfl
    · cases sign
  · exact isNumeral_of_isDigit (Number.isDigit_of_mem_decimalDigits digit)

theorem all_decimalDigits (value : Nat) : ∀ c ∈ decimalDigits value, isNumeral c = true :=
  fun _ member => isNumeral_of_isDigit (Number.isDigit_of_mem_decimalDigits member)

theorem all_replicate_zero (count : Nat) : ∀ c ∈ List.replicate count '0', isNumeral c = true := by
  intro c member
  rw [List.eq_of_mem_replicate member]
  rfl

theorem isNumeral_of_mem_render {format : Number.Format} (last : Int) (number : Binary format) :
    ∀ c ∈ number.render last, isNumeral c = true := by
  have sign : ∀ c ∈ if number.negative then ['-'] else [], isNumeral c = true := by
    split <;> exact List.all_eq_true.mp (by decide)
  have digits := all_decimalDigits number.shortest.digits
  have front (count : Nat) : ∀ c ∈ (decimalDigits number.shortest.digits).take count,
      isNumeral c = true := fun c member => digits c (List.mem_of_mem_take member)
  have back (count : Nat) : ∀ c ∈ (decimalDigits number.shortest.digits).drop count,
      isNumeral c = true := fun c member => digits c (List.mem_of_mem_drop member)
  have fraction : ∀ c ∈ if (decimalDigits number.shortest.digits).length = 1 then []
      else '.' :: (decimalDigits number.shortest.digits).drop 1, isNumeral c = true := by
    split
    · exact List.forall_mem_nil _
    · exact List.forall_mem_cons.mpr ⟨rfl, back 1⟩
  simp only [Binary.render]
  split
  · exact List.forall_mem_append.mpr ⟨sign, List.all_eq_true.mp (by decide)⟩
  · refine List.forall_mem_append.mpr ⟨sign, ?_⟩
    split
    · simp only [List.forall_mem_append]
      refine ⟨⟨⟨front 1, fraction⟩, ?_⟩, all_decimalDigits _⟩
      split <;> exact List.all_eq_true.mp (by decide)
    · split
      · simp only [List.forall_mem_append]
        exact ⟨⟨digits, all_replicate_zero _⟩, List.all_eq_true.mp (by decide)⟩
      · split
        · simp only [List.forall_mem_append]
          exact ⟨⟨List.all_eq_true.mp (by decide), all_replicate_zero _⟩, digits⟩
        · simp only [List.forall_mem_append]
          exact ⟨⟨front _, List.all_eq_true.mp (by decide)⟩, back _⟩

end AnalystQuery.Json
