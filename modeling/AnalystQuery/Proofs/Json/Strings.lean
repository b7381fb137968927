import AnalystQuery.Json.Printer
import AnalystQuery.Json.Reader

/-! Texts between quotes are read as they were written. -/

namespace AnalystQuery.Json

/-- A character as it is read between quotes: as such, or as the unit of a control character. -/
inductive PartOf (c : Char) : StringPart → Prop
  | char : PartOf c (.char c)
  | unit (control : c.toNat < 0x20) : PartOf c (.unit c.toNat)

variable {c : Char} {part : StringPart} {parts : List StringPart} {rest after : List Char}

theorem joinParts_cons (partOf : PartOf c part) :
    joinParts (part :: parts) = (joinParts parts).map (c :: ·) := by
  cases partOf with
  | char => rw [joinParts]
  | unit control =>
    -- A control character is no half of a surrogate pair, whatever comes behind it.
    have noHigh : isHighUnit c.toNat = false := by simp [isHighUnit]; omega
    have noLow : isLowUnit c.toNat = false := by simp [isLowUnit]; omega
    have self := Char.ofNat_toNat c
    rcases parts with - | ⟨next | low, others⟩ <;>
      simp [joinParts, noHigh, noLow, self]

theorem readUnit (small : c.toNat < 0x20) :
    ['0', '0', Text.hexDigit (c.toNat / 16), Text.hexDigit (c.toNat % 16)].foldlM
      (fun value c => (Text.hexValue? c).map (16 * value + ·)) 0 = some c.toNat := by
  have table : ∀ code < 0x20,
      ['0', '0', Text.hexDigit (code / 16), Text.hexDigit (code % 16)].foldlM
        (fun value c => (Text.hexValue? c).map (16 * value + ·)) 0 = some code := by decide
  exact table c.toNat small

theorem readStringParts_letter {letter : Char} (named : escaped? letter = some c)
    (read : readStringParts rest = some (parts, after)) :
    readStringParts ('\\' :: letter :: rest) = some (.char c :: parts, after) := by
  have noUnit : letter ≠ 'u' := by
    rintro rfl
    cases named
  rw [readStringParts, named, read]
  · rfl
  · intro a b c d more same
    exact absurd same noUnit

theorem readStringParts_plain (noQuote : c ≠ '"') (noBackslash : c ≠ '\\')
    (visible : ¬ c.toNat < 0x20) (read : readStringParts rest = some (parts, after)) :
    readStringParts (c :: rest) = some (.char c :: parts, after) := by
  rw [readStringParts, read]
  · simp [noBackslash, visible]
  · exact noQuote
  · rintro a b c d more rfl
    exact absurd rfl noBackslash
  · rintro letter more rfl
    exact absurd rfl noBackslash

theorem readStringParts_escapeCharacter (c : Char)
    (read : readStringParts rest = some (parts, after)) :
    ∃ part, PartOf c part ∧
      readStringParts (escapeCharacter c ++ rest) = some (part :: parts, after) := by
  unfold escapeCharacter
  split
  · exact ⟨_, .char, readStringParts_letter rfl read⟩
  · exact ⟨_, .char, readStringParts_letter rfl read⟩
  · exact ⟨_, .char, readStringParts_letter rfl read⟩
  · exact ⟨_, .char, readStringParts_letter rfl read⟩
  · exact ⟨_, .char, readStringParts_letter rfl read⟩
  · exact ⟨_, .char, readStringParts_letter rfl read⟩
  · exact ⟨_, .char, readStringParts_letter rfl read⟩
  · rename_i noQuote noBackslash _ _ _ _ _
    split
    · rename_i control
      refine ⟨_, .unit control, ?_⟩
      have value := readUnit control
      have byte : c.toNat.toUInt8.toNat = c.toNat := by
        rw [UInt8.toNat_ofNat']
        omega
      rw [Text.hexDigits, byte]
      simp only [List.cons_append, List.nil_append, readStringParts, value, read]
      rfl
    · rename_i visible
      exact ⟨_, .char, readStringParts_plain noQuote noBackslash visible read⟩

theorem readStringParts_escaped (text rest : List Char) :
    ∃ parts, readStringParts (text.flatMap escapeCharacter ++ '"' :: rest) = some (parts, rest) ∧
      joinParts parts = some text := by
  induction text with
  | nil => exact ⟨[], rfl, rfl⟩
  | cons c text ih =>
    obtain ⟨parts, read, joined⟩ := ih
    obtain ⟨part, partOf, readHere⟩ := readStringParts_escapeCharacter c read
    refine ⟨part :: parts, ?_, ?_⟩
    · rw [List.flatMap_cons, List.append_assoc]
      exact readHere
    · rw [joinParts_cons partOf, joined]
      rfl

theorem readString_escaped (text : String) (rest : List Char) :
    readString (text.toList.flatMap escapeCharacter ++ '"' :: rest) =
      some (some text, rest) := by
  obtain ⟨parts, read, joined⟩ := readStringParts_escaped text.toList rest
  simp [readString, read, joined]

end AnalystQuery.Json
