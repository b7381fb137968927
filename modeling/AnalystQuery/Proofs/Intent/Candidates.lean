import AnalystQuery.Intent.Normalization
import AnalystQuery.Proofs.Json.Reading
import AnalystQuery.Proofs.Text.Blank

/-! From which part of an answer an intent is read: the first balanced span that is valid JSON, in
the order of the opening braces, those within earlier spans among them. -/

namespace AnalystQuery.Intent

/-- A span from an opening brace to the brace that closes it, at a position in text. -/
def SpanAt (text : List Char) (start : Nat) (span : List Char) : Prop :=
  text[start]? = some '\x7b' ∧ balancedObject? (text.drop start) = some span

/-- Where entries are read in text when so many candidates are tried. -/
structure ReadAt (tries : Nat) (text : List Char) (start : Nat) (span : List Char)
    (entries : Entries) : Prop where
  spans : SpanAt text start span
  valid : Json.read? (String.ofList span) = some (.object entries)
  failed : ∀ other < start, text[other]? = some '\x7b' →
    ∃ outer, SpanAt text other outer ∧ Json.read? (String.ofList outer) = none
  early : (text.take start).count '\x7b' < tries

variable {tries start : Nat} {before rest span : List Char} {entries : Entries}

theorem fromOpening_append (first : '\x7b' ∉ before) :
    fromOpening (before ++ '\x7b' :: rest) = '\x7b' :: rest := by
  have skipped : ∀ c ∈ before, (c != '\x7b') = true := by
    intro c member
    simpa using fun same : c = '\x7b' => first (same ▸ member)
  rw [fromOpening, List.dropWhile_append_of_pos skipped]
  rfl

theorem balancedObject?_append (first : '\x7b' ∉ before) :
    balancedObject? (before ++ '\x7b' :: rest) = balancedObject? ('\x7b' :: rest) := by
  rw [balancedObject?, fromOpening_append first]
  rfl

theorem balancedObject?_absent {text : List Char} (absent : '\x7b' ∉ text) :
    balancedObject? text = none := by
  have skipped : fromOpening text = [] := by
    refine List.dropWhile_eq_nil_iff.mpr fun c member => ?_
    simpa using fun same : c = '\x7b' => absent (same ▸ member)
  rw [balancedObject?, skipped]

theorem spanAt_first :
    SpanAt (before ++ '\x7b' :: rest) before.length span ↔
      balancedObject? ('\x7b' :: rest) = some span := by
  simp [SpanAt]

theorem spanAt_later (later : Nat) :
    SpanAt (before ++ '\x7b' :: rest) (before.length + (later + 1)) span ↔
      SpanAt rest later span := by
  have dropped : (before ++ '\x7b' :: rest).drop (before.length + (later + 1)) =
      rest.drop later := by
    rw [List.drop_length_add_append, List.drop_succ_cons]
  rw [SpanAt, SpanAt, dropped, List.getElem?_append_right (by omega)]
  simp

theorem opening_cases (first : '\x7b' ∉ before)
    (opening : (before ++ '\x7b' :: rest)[start]? = some '\x7b') :
    start = before.length ∨ ∃ later, start = before.length + (later + 1) := by
  have reached : before.length ≤ start := by
    by_contra early
    rw [List.getElem?_append_left (by omega)] at opening
    exact first (List.mem_of_getElem? opening)
  rcases Nat.eq_or_lt_of_le reached with same | behind
  · exact Or.inl same.symm
  · exact Or.inr ⟨start - before.length - 1, by omega⟩

theorem count_take_later (first : '\x7b' ∉ before) (later : Nat) :
    ((before ++ '\x7b' :: rest).take (before.length + (later + 1))).count '\x7b' =
      (rest.take later).count '\x7b' + 1 := by
  rw [List.take_length_add_append, List.take_succ_cons, List.count_append,
    List.count_eq_zero_of_not_mem first, List.count_cons_self, Nat.zero_add]

theorem brace_of_balancedObject? {text : List Char} (balanced : balancedObject? text = some span) :
    ∃ inside, span = '\x7b' :: inside := by
  by_cases opening : '\x7b' ∈ text
  · obtain ⟨before, rest, rfl, first⟩ := List.eq_append_cons_of_mem opening
    have start : fromOpening ('\x7b' :: rest) = '\x7b' :: rest := rfl
    rw [balancedObject?_append first, balancedObject?, start] at balanced
    obtain ⟨found, -, same⟩ := Option.map_eq_some_iff.mp balanced
    exact ⟨found.1, same.symm⟩
  · rw [balancedObject?_absent opening] at balanced
    cases balanced

theorem object_of_balancedObject? {text : List Char} {value : Json}
    (balanced : balancedObject? text = some span)
    (read : Json.read? (String.ofList span) = some value) : ∃ entries, value = .object entries := by
  obtain ⟨inside, rfl⟩ := brace_of_balancedObject? balanced
  exact Json.object_of_read?_brace read

theorem readAt_first (first : '\x7b' ∉ before) :
    ReadAt (tries + 1) (before ++ '\x7b' :: rest) before.length span entries ↔
      balancedObject? ('\x7b' :: rest) = some span ∧
        Json.read? (String.ofList span) = some (.object entries) := by
  constructor
  · rintro ⟨spans, valid, -, -⟩
    exact ⟨spanAt_first.mp spans, valid⟩
  · rintro ⟨balanced, valid⟩
    refine ⟨spanAt_first.mpr balanced, valid, ?_, ?_⟩
    · intro other earlier opening
      rcases opening_cases first opening with same | ⟨later, same⟩ <;> omega
    · rw [List.take_left, List.count_eq_zero_of_not_mem first]
      omega

/-- Candidates behind the first one are tried only if that is balanced and no JSON. -/
theorem readAt_later (first : '\x7b' ∉ before) (later : Nat) :
    ReadAt (tries + 1) (before ++ '\x7b' :: rest) (before.length + (later + 1)) span entries ↔
      (∃ outer, balancedObject? ('\x7b' :: rest) = some outer ∧
        Json.read? (String.ofList outer) = none) ∧ ReadAt tries rest later span entries := by
  have opened : (before ++ '\x7b' :: rest)[before.length]? = some '\x7b' := by simp
  constructor
  · rintro ⟨spans, valid, failed, early⟩
    obtain ⟨outer, outerSpans, broken⟩ := failed before.length (by omega) opened
    refine ⟨⟨outer, spanAt_first.mp outerSpans, broken⟩,
      (spanAt_later later).mp spans, valid, ?_, ?_⟩
    · intro other earlier opening
      have there : (before ++ '\x7b' :: rest)[before.length + (other + 1)]? = some '\x7b' := by
        rw [List.getElem?_append_right (by omega)]
        simpa using opening
      obtain ⟨outer, spans, broken⟩ := failed _ (by omega) there
      exact ⟨outer, (spanAt_later other).mp spans, broken⟩
    · rw [count_take_later first] at early
      omega
  · rintro ⟨⟨outer, balanced, broken⟩, spans, valid, failed, early⟩
    refine ⟨(spanAt_later later).mpr spans, valid, ?_, ?_⟩
    · intro other earlier opening
      rcases opening_cases first opening with rfl | ⟨inner, rfl⟩
      · exact ⟨outer, spanAt_first.mpr balanced, broken⟩
      · have there : rest[inner]? = some '\x7b' := by
          rw [List.getElem?_append_right (by omega)] at opening
          simpa using opening
        obtain ⟨outer, spans, broken⟩ := failed inner (by omega) there
        exact ⟨outer, (spanAt_later inner).mpr spans, broken⟩
    · rw [count_take_later first]
      omega

/-- Trying candidates reads the first balanced span that is JSON, if all before it are balanced
and there are not too many of them. -/
theorem firstObject_eq_ok_iff (tries : Nat) (failure : ReadFailure) (text : List Char)
    (entries : Entries) :
    firstObject tries failure text = .ok entries ↔
      ∃ start span, ReadAt tries text start span entries := by
  induction tries generalizing failure text with
  | zero =>
    refine iff_of_false ?_ ?_
    · intro read
      cases read
    · rintro ⟨start, span, readAt⟩
      exact absurd readAt.early (Nat.not_lt_zero _)
  | succ tries ih =>
    by_cases opening : '\x7b' ∈ text
    · obtain ⟨before, rest, rfl, first⟩ := List.eq_append_cons_of_mem opening
      have next : (fromOpening (before ++ '\x7b' :: rest)).drop 1 = rest := by
        rw [fromOpening_append first]
        rfl
      -- The read object starts at the first brace or behind it.
      have split :
          (∃ start span, ReadAt (tries + 1) (before ++ '\x7b' :: rest) start span entries) ↔
          (∃ span, balancedObject? ('\x7b' :: rest) = some span ∧
            Json.read? (String.ofList span) = some (.object entries)) ∨
          (∃ outer, balancedObject? ('\x7b' :: rest) = some outer ∧
            Json.read? (String.ofList outer) = none) ∧
            ∃ start span, ReadAt tries rest start span entries := by
        constructor
        · rintro ⟨start, span, readAt⟩
          rcases opening_cases first readAt.spans.1 with rfl | ⟨later, rfl⟩
          · exact Or.inl ⟨span, (readAt_first first).mp readAt⟩
          · obtain ⟨broken, readLater⟩ := (readAt_later first later).mp readAt
            exact Or.inr ⟨broken, later, span, readLater⟩
        · rintro (⟨span, read⟩ | ⟨broken, later, span, readLater⟩)
          · exact ⟨before.length, span, (readAt_first first).mpr read⟩
          · exact ⟨_, span, (readAt_later first later).mpr ⟨broken, readLater⟩⟩
      rw [split, firstObject, balancedObject?_append first, next]
      cases balanced : balancedObject? ('\x7b' :: rest) with
      | none => simp
      | some span =>
        cases read : Json.read? (String.ofList span) with
        | none => simp [read, ih]
        | some value =>
          obtain ⟨found, rfl⟩ := object_of_balancedObject? balanced read
          simp [read]
    · rw [firstObject, balancedObject?_absent opening]
      refine iff_of_false ?_ ?_
      · intro read
        cases read
      · rintro ⟨start, span, readAt⟩
        exact opening (List.mem_of_getElem? readAt.spans.1)

theorem readObject_of_brace {answer : String} (opening : '\x7b' ∈ answer.toList) :
    readObject answer = firstObject candidateLimit .unbalanced answer.toList := by
  have visible : Text.trimmed answer.toList ≠ [] := by
    intro blank
    exact absurd (Text.trimmed_eq_nil_iff.mp blank _ opening) (by decide)
  rw [readObject]
  simp [visible, opening]

theorem readObject_eq_ok_iff (answer : String) (entries : Entries) :
    readObject answer = .ok entries ↔
      ∃ start span, ReadAt candidateLimit answer.toList start span entries := by
  rw [← firstObject_eq_ok_iff candidateLimit .unbalanced]
  by_cases opening : '\x7b' ∈ answer.toList
  · rw [readObject_of_brace opening]
  · have nothing : firstObject candidateLimit .unbalanced answer.toList ≠ .ok entries := by
      intro read
      obtain ⟨start, span, readAt⟩ := (firstObject_eq_ok_iff _ _ _ _).mp read
      exact opening (List.mem_of_getElem? readAt.spans.1)
    rw [readObject]
    by_cases blank : Text.trimmed answer.toList = [] <;> simp [blank, opening, nothing]

/-- An answer is parsed if and only if an object is read somewhere in it. -/
theorem normalize_eq_parsed_iff (confidences : Confidences) (now : Calendar.Instant)
    (answer : String) (intent : Intent) :
    normalize confidences now answer = .parsed intent ↔
      ∃ start span entries, ReadAt candidateLimit answer.toList start span entries ∧
        intent = ofEntries confidences now entries := by
  have read := readObject_eq_ok_iff answer
  rw [normalize]
  cases outcome : readObject answer with
  | ok entries =>
    rw [outcome] at read
    simp only [Outcome.parsed.injEq]
    constructor
    · rintro rfl
      obtain ⟨start, span, readAt⟩ := (read entries).mp rfl
      exact ⟨start, span, entries, readAt, rfl⟩
    · rintro ⟨start, span, others, readAt, rfl⟩
      obtain ⟨⟩ := (read others).mpr ⟨start, span, readAt⟩
      rfl
  | error failure =>
    rw [outcome] at read
    refine iff_of_false (by rintro ⟨⟩) ?_
    rintro ⟨start, span, entries, readAt, -⟩
    cases (read entries).mpr ⟨start, span, readAt⟩

variable {text : List Char}

theorem SpanAt.unique {other : List Char} (first : SpanAt text start span)
    (second : SpanAt text start other) : span = other :=
  Option.some.inj (first.2.symm.trans second.2)

theorem ReadAt.broken (readAt : ReadAt tries text start span entries) {other : Nat}
    (earlier : other < start) {outer : List Char} (spans : SpanAt text other outer) :
    Json.read? (String.ofList outer) = none := by
  obtain ⟨same, there, broken⟩ := readAt.failed other earlier spans.1
  rwa [spans.unique there]

theorem ReadAt.start_le (first : ReadAt tries text start span entries) {other : Nat}
    {found : List Char} {others : Entries} (second : ReadAt tries text other found others) :
    start ≤ other := by
  by_contra earlier
  have broken := first.broken (Nat.lt_of_not_le earlier) second.spans
  rw [second.valid] at broken
  cases broken

/-- Whether what is read in text lies within an earlier balanced span that is no JSON. -/
def HalfRead (text : List Char) : Prop :=
  ∃ start span entries, ReadAt candidateLimit text start span entries ∧
    ∃ other outer, SpanAt text other outer ∧ Json.read? (String.ofList outer) = none ∧
      other < start ∧ start + span.length < other + outer.length

/-- An answer is parsed without half of a broken object being read if and only if an object is
read in it that does not end before any balanced span that begins earlier. -/
theorem parsed_whole_iff (confidences : Confidences) (now : Calendar.Instant) (answer : String) :
    ((∃ intent, normalize confidences now answer = .parsed intent) ∧
        ¬ HalfRead answer.toList) ↔
      ∃ start span entries, ReadAt candidateLimit answer.toList start span entries ∧
        ∀ other < start, ∀ outer, SpanAt answer.toList other outer →
          other + outer.length ≤ start + span.length := by
  constructor
  · rintro ⟨⟨intent, parsed⟩, whole⟩
    obtain ⟨start, span, entries, readAt, -⟩ :=
      (normalize_eq_parsed_iff confidences now answer intent).mp parsed
    refine ⟨start, span, entries, readAt, ?_⟩
    intro other earlier outer spans
    by_contra inside
    exact whole ⟨start, span, entries, readAt, other, outer, spans,
      readAt.broken earlier spans, earlier, Nat.lt_of_not_le inside⟩
  · rintro ⟨start, span, entries, readAt, ends⟩
    refine ⟨⟨_, (normalize_eq_parsed_iff confidences now answer _).mpr
      ⟨start, span, entries, readAt, rfl⟩⟩, ?_⟩
    rintro ⟨found, foundSpan, others, readThere, other, outer, spans, -, earlier, inside⟩
    obtain rfl := Nat.le_antisymm (readAt.start_le readThere) (readThere.start_le readAt)
    obtain rfl := readAt.spans.unique readThere.spans
    have ended := ends other earlier outer spans
    omega

/-- After a trailing comma the entities of an answer are read as the answer. -/
theorem entities_read_as_answer :
    ¬ ∀ (confidences : Confidences) (now : Calendar.Instant) (answer : String) (intent : Intent),
      normalize confidences now answer = .parsed intent → ¬ HalfRead answer.toList := by
  intro whole
  let entities := "\x7b\"channels\":[\"email\"]\x7d".toList
  let answer := "\x7b\"entities\":".toList ++ entities ++ ",\x7d".toList
  have outer : SpanAt answer 0 answer := ⟨by decide, by decide +kernel⟩
  have broken : Json.read? (String.ofList answer) = none :=
    Option.isNone_iff_eq_none.mp (by decide +kernel)
  have readable : (Json.read? (String.ofList entities)).isSome := by decide +kernel
  obtain ⟨value, read⟩ := Option.isSome_iff_exists.mp readable
  obtain ⟨inner, rfl⟩ := Json.object_of_read?_brace read
  have readAt : ReadAt candidateLimit answer 12 entities inner := by
    refine ⟨⟨by decide, by decide +kernel⟩, read, ?_, by decide⟩
    intro other earlier opening
    have only : ∀ position < 12, answer[position]? = some '\x7b' → position = 0 := by decide
    obtain rfl := only other earlier opening
    exact ⟨answer, outer, broken⟩
  have parsed := (normalize_eq_parsed_iff ⟨.zero, .zero⟩ .origin (String.ofList answer) _).mpr
    ⟨12, entities, _, (String.toList_ofList (l := answer)).symm ▸ readAt, rfl⟩
  refine whole _ _ _ _ parsed ?_
  rw [String.toList_ofList]
  exact ⟨12, entities, _, readAt, 0, answer, outer, broken, by decide, by decide⟩

end AnalystQuery.Intent
