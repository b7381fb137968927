import AnalystQuery.Proofs.Intent.Candidates
import AnalystQuery.Proofs.Intent.ObjectText

/-! Objects that stand within an answer. Each broken candidate in front of an object costs one try
and is left behind with its brace, so that the object is read as if it stood alone. -/

namespace AnalystQuery.Intent

/-- Prose without an opening brace around so many chunks, each a balanced span with one opening
brace that is no JSON. -/
inductive Preamble : Nat → List Char → Prop
  | prose {text : List Char} (absent : '\x7b' ∉ text) : Preamble 0 text
  | chunk {count : Nat} {prose chunk rest : List Char} (absent : '\x7b' ∉ prose)
      (single : chunk.count '\x7b' = 1) (whole : balancedObject? chunk = some chunk)
      (invalid : Json.read? (String.ofList chunk) = none) (later : Preamble count rest) :
      Preamble (count + 1) (prose ++ chunk ++ rest)

variable {count tries : Nat} {text before front object : List Char} {value : Json}
  {entries : Entries}

theorem firstObject_prose (absent : '\x7b' ∉ before) (tries : Nat) (failure : ReadFailure)
    (text : List Char) :
    firstObject tries failure (before ++ text) = firstObject tries failure text := by
  have skipped : ∀ c ∈ before, (c != '\x7b') = true := by
    intro c member
    simpa using fun same : c = '\x7b' => absent (same ▸ member)
  have opens : fromOpening (before ++ text) = fromOpening text :=
    List.dropWhile_append_of_pos skipped
  cases tries with
  | zero => rfl
  | succ tries => simp only [firstObject, balancedObject?, opens]

theorem firstObject_valid (balanced : balancedObject? text = some object)
    (valued : Json.read? (String.ofList object) = some (.object entries)) (tries : Nat)
    (failure : ReadFailure) : firstObject (tries + 1) failure text = .ok entries := by
  simp only [firstObject, balanced, valued]

theorem firstObject_invalid (balanced : balancedObject? ('\x7b' :: text) = some object)
    (invalid : Json.read? (String.ofList object) = none) (tries : Nat) (failure : ReadFailure) :
    firstObject (tries + 1) failure ('\x7b' :: text) = firstObject tries .invalidJson text := by
  have start : (fromOpening ('\x7b' :: text)).drop 1 = text := rfl
  simp only [firstObject, balanced, invalid, start]

theorem firstObject_of_preamble (preamble : Preamble count front) (few : count < tries)
    (balanced : balancedObject? ('\x7b' :: text) = some object)
    (valued : Json.read? (String.ofList object) = some (.object entries)) (failure : ReadFailure) :
    firstObject tries failure (front ++ '\x7b' :: text) = .ok entries := by
  induction preamble generalizing tries failure with
  | prose absent =>
    obtain ⟨tries, rfl⟩ := Nat.exists_eq_add_of_lt few
    rw [firstObject_prose absent]
    exact firstObject_valid balanced valued _ failure
  | @chunk count prose chunk rest absent single whole invalid later ih =>
    obtain ⟨tries, rfl⟩ := Nat.exists_eq_add_of_lt few
    obtain ⟨inner, rfl⟩ := brace_of_balancedObject? whole
    -- Behind the brace of the chunk its inside is prose in front of the rest.
    have absentToo : '\x7b' ∉ inner := by
      rw [List.count_cons_self] at single
      exact List.count_eq_zero.mp (by omega)
    have found := balancedObject?_cons_append whole (rest ++ '\x7b' :: text)
    rw [List.append_assoc, List.append_assoc, firstObject_prose absent]
    rw [List.cons_append] at found ⊢
    rw [firstObject_invalid found invalid, firstObject_prose absentToo]
    exact ih (by omega) .invalidJson

theorem readObject_of_preamble (preamble : Preamble count front) (few : count < candidateLimit)
    (balanced : balancedObject? ('\x7b' :: text) = some object)
    (valued : Json.read? (String.ofList object) = some (.object entries)) :
    readObject (String.ofList (front ++ '\x7b' :: text)) = .ok entries := by
  have opening : '\x7b' ∈ (String.ofList (front ++ '\x7b' :: text)).toList := by simp
  rw [readObject_of_brace opening, String.toList_ofList]
  exact firstObject_of_preamble preamble few balanced valued .unbalanced

/-- An object is recovered from an answer in which it follows prose and a few broken candidates,
whatever follows it. -/
theorem embedded_object_recovered (confidences : Confidences) (now : Calendar.Instant)
    (written : ObjectText object) (valued : Json.read? (String.ofList object) = some value)
    (preamble : Preamble count front) (few : count ≤ 15) (suffix : List Char) :
    (∃ intent, normalize confidences now (String.ofList object) = .parsed intent ∧
      normalize confidences now (String.ofList (front ++ object ++ suffix)) = .parsed intent) ∧
    ('\x7b' ∉ front →
      extractObject? (String.ofList (front ++ object ++ suffix)) 0 =
        some (String.ofList object)) := by
  have alone := written.balanced
  obtain ⟨inside, rfl, -⟩ := written.split
  obtain ⟨entries, rfl⟩ := Json.object_of_read?_brace valued
  have followed := balancedObject?_cons_append alone suffix
  rw [List.append_assoc]
  rw [List.cons_append] at followed ⊢
  refine ⟨⟨ofEntries confidences now entries, ?_, ?_⟩, fun absent => ?_⟩
  · have bare : Preamble 0 [] := .prose List.not_mem_nil
    have read := readObject_of_preamble bare (by decide) alone valued
    rw [List.nil_append] at read
    rw [normalize, read]
  · have tried : count < candidateLimit := by
      rw [candidateLimit]
      omega
    rw [normalize, readObject_of_preamble preamble tried followed valued]
  · have found := (balancedObject?_append absent).trans followed
    rw [extractObject?, String.toList_ofList, Text.dropBytes.eq_def]
    dsimp only [Option.bind_eq_bind, Option.bind_some]
    rw [found]
    rfl

private def trendAnswer : List Char :=
  "\x7b\"note\":\"a \x7d \\\" \x7b\",\"kind\":\"trend\"\x7d".toList

private def trendPreamble : List Char := "Not ".toList ++ "\x7boops\x7d".toList ++ " but ".toList

/-- A broken candidate stands in front of the object, and braces and a quote in one of its texts. -/
theorem trend_answer_recovered :
    ∃ value, ObjectText trendAnswer ∧ Json.read? (String.ofList trendAnswer) = some value ∧
      Preamble 1 trendPreamble ∧ 1 ≤ 15 ∧
      ∃ intent, normalize ⟨.zero, .zero⟩ .origin (String.ofList trendAnswer) = .parsed intent ∧
        normalize ⟨.zero, .zero⟩ .origin (String.ofList
          (trendPreamble ++ trendAnswer ++ " or \x7b\x7d".toList)) = .parsed intent := by
  have readable : (Json.read? (String.ofList trendAnswer)).isSome := by decide +kernel
  obtain ⟨value, valued⟩ := Option.isSome_iff_exists.mp readable
  have written : ObjectText trendAnswer := ⟨rfl, rfl, by decide +kernel⟩
  have preamble : Preamble 1 trendPreamble :=
    .chunk (by decide) (by decide) (by decide) (Option.isNone_iff_eq_none.mp (by decide +kernel))
      (.prose (by decide))
  have few : 1 ≤ 15 := by decide
  exact ⟨value, written, valued, preamble, few, (embedded_object_recovered ⟨.zero, .zero⟩ .origin
    written valued preamble few " or \x7b\x7d".toList).1⟩

end AnalystQuery.Intent
