import AnalystQuery.Proofs.Text.Blank

/-! The words of a text. White space between two parts keeps their words apart, and squashed or
trimmed text has the words of the text itself, so texts agree once they are squashed exactly when
they have the same words. -/

namespace AnalystQuery.Text

variable {c : Char} {text : List Char}

theorem wordsOf_eq_splitOnP (text : List Char) :
    wordsOf text = (text.splitOnP isBlank).filter (· ≠ []) := by
  induction text using wordsOf.induct with
  | case1 => simp [wordsOf, List.splitOnP_nil]
  | case2 c blank => simp [wordsOf, blank, List.splitOnP_cons_eq_if_modifyHead, List.splitOnP_nil]
  | case3 c visible =>
    simp [wordsOf, visible, List.splitOnP_cons_eq_if_modifyHead, List.splitOnP_nil]
  | case4 c next rest blank ih =>
    rw [List.splitOnP_cons_eq_if_modifyHead, if_pos blank, wordsOf, if_pos blank, ih]
    simp
  | case5 c next rest visible blank ih =>
    rw [wordsOf, if_neg visible, if_pos blank, ih]
    simp [visible, blank, List.splitOnP_cons_eq_if_modifyHead]
  | case6 c next rest visible follows word words split ih =>
    obtain ⟨first, others, pieces⟩ := List.exists_cons_of_ne_nil
      (List.splitOnP_ne_nil isBlank rest)
    rw [split] at ih
    rw [wordsOf, if_neg visible, if_neg follows, split]
    simp only [List.splitOnP_cons_eq_if_modifyHead, visible, follows, pieces,
      List.modifyHead_cons] at ih ⊢
    simp at ih ⊢
    exact ih
  | case7 c next rest visible follows split ih =>
    -- A visible character belongs to a word, so there is one.
    obtain ⟨first, others, pieces⟩ := List.exists_cons_of_ne_nil
      (List.splitOnP_ne_nil isBlank rest)
    rw [split] at ih
    simp [List.splitOnP_cons_eq_if_modifyHead, follows, pieces] at ih

theorem wordsOf_append_blank (blank : isBlank c = true) (first second : List Char) :
    wordsOf (first ++ c :: second) = wordsOf first ++ wordsOf second := by
  rw [wordsOf_eq_splitOnP, List.splitOnP_append_cons first second blank, List.filter_append,
    ← wordsOf_eq_splitOnP, ← wordsOf_eq_splitOnP]

theorem wordsOf_eq_nil (blank : ∀ c ∈ text, isBlank c = true) : wordsOf text = [] := by
  induction text with
  | nil => rfl
  | cons c rest ih =>
    have split := wordsOf_append_blank (blank c List.mem_cons_self) [] rest
    exact split.trans (ih fun other member => blank other (List.mem_cons_of_mem c member))

theorem wordsOf_append_of_blank {first last : List Char}
    (before : ∀ c ∈ first, isBlank c = true) (after : ∀ c ∈ last, isBlank c = true) :
    wordsOf (first ++ text ++ last) = wordsOf text := by
  have front : wordsOf (first ++ text) = wordsOf text := by
    rcases List.eq_nil_or_concat first with rfl | ⟨rest, c, rfl⟩
    · rfl
    · rw [List.concat_eq_append, List.append_assoc, List.singleton_append,
        wordsOf_append_blank (before c (by simp)),
        wordsOf_eq_nil fun other member => before other (by simp [member]), List.nil_append]
  cases last with
  | nil => rw [List.append_nil, front]
  | cons c rest =>
    rw [wordsOf_append_blank (after c List.mem_cons_self), front,
      wordsOf_eq_nil fun other member => after other (List.mem_cons_of_mem c member),
      List.append_nil]

theorem wordsOf_trimmed (text : List Char) : wordsOf (trimmed text) = wordsOf text := by
  let inner := text.dropWhile isBlank
  have whole : text = text.takeWhile isBlank ++ trimmed text ++ inner.rtakeWhile isBlank := by
    have ends : trimmed text ++ inner.rtakeWhile isBlank = inner :=
      List.rdropWhile_append_rtakeWhile
    rw [List.append_assoc, ends]
    exact List.takeWhile_append_dropWhile.symm
  have front : ∀ c ∈ text.takeWhile isBlank, isBlank c = true :=
    fun c member => List.mem_takeWhile_imp member
  have back : ∀ c ∈ inner.rtakeWhile isBlank, isBlank c = true :=
    fun c member => List.mem_rtakeWhile_imp member
  calc wordsOf (trimmed text)
      = wordsOf (text.takeWhile isBlank ++ trimmed text ++ inner.rtakeWhile isBlank) :=
        (wordsOf_append_of_blank front back).symm
    _ = wordsOf text := by rw [← whole]

theorem visible_of_mem_wordsOf :
    ∀ word ∈ wordsOf text, word ≠ [] ∧ ∀ c ∈ word, isBlank c = false := by
  induction text using wordsOf.induct with
  | case1 => exact List.forall_mem_nil _
  | case2 c blank => simp [wordsOf, blank]
  | case3 c visible => simp [wordsOf, visible]
  | case4 c next rest blank ih =>
    rw [wordsOf, if_pos blank]
    exact ih
  | case5 c next rest visible blank ih =>
    rw [wordsOf, if_neg visible, if_pos blank]
    exact List.forall_mem_cons.mpr ⟨by simpa using visible, ih⟩
  | case6 c next rest visible follows word words split ih =>
    rw [wordsOf, if_neg visible, if_neg follows, split]
    rw [split] at ih
    obtain ⟨⟨-, inner⟩, others⟩ := List.forall_mem_cons.mp ih
    refine List.forall_mem_cons.mpr ⟨⟨List.cons_ne_nil _ _, ?_⟩, others⟩
    exact List.forall_mem_cons.mpr ⟨by simpa using visible, inner⟩
  | case7 c next rest visible follows split ih =>
    rw [wordsOf, if_neg visible, if_neg follows, split]
    simpa using visible

theorem wordsOf_cons_visible (visible : isBlank c = false) (rest : List Char) :
    wordsOf (c :: rest) ≠ [] := by
  obtain ⟨first, others, pieces⟩ := List.exists_cons_of_ne_nil (List.splitOnP_ne_nil isBlank rest)
  rw [wordsOf_eq_splitOnP, List.splitOnP_cons_eq_if_modifyHead, visible, pieces]
  simp

theorem wordsOf_eq_nil_iff : wordsOf text = [] ↔ trimmed text = [] := by
  constructor
  · intro none
    rw [← wordsOf_trimmed] at none
    cases kept : trimmed text with
    | nil => rfl
    | cons c rest =>
      have visible := (isTrimmed_trimmed text).head c (by rw [kept]; rfl)
      rw [kept] at none
      exact absurd none (wordsOf_cons_visible visible rest)
  · intro empty
    rw [← wordsOf_trimmed, empty]
    rfl

theorem wordsOf_intercalate {words : List (List Char)}
    (each : ∀ word ∈ words, word ≠ [] ∧ ∀ c ∈ word, isBlank c = false) :
    wordsOf (List.intercalate [' '] words) = words := by
  induction words with
  | nil => rfl
  | cons word rest ih =>
    obtain ⟨⟨nonempty, visible⟩, others⟩ := List.forall_mem_cons.mp each
    have alone : wordsOf word = [word] := by
      rw [wordsOf_eq_splitOnP, List.splitOnP_eq_singleton visible]
      simp [nonempty]
    cases rest with
    | nil => rw [List.intercalate_singleton, alone]
    | cons second later =>
      have space : isBlank ' ' = true := by decide
      rw [List.intercalate_cons_cons, List.append_assoc, List.singleton_append,
        wordsOf_append_blank space, alone, ih others]
      rfl

theorem wordsOf_squash (text : String) : wordsOf (squash text).toList = wordsOf text.toList := by
  rw [squash, String.toList_ofList]
  exact wordsOf_intercalate visible_of_mem_wordsOf

theorem squash_eq_iff (first second : String) :
    squash first = squash second ↔ wordsOf first.toList = wordsOf second.toList := by
  constructor
  · intro same
    rw [← wordsOf_squash first, ← wordsOf_squash second, same]
  · intro same
    rw [squash, squash, same]

theorem squash_eq_empty_iff (text : String) : squash text = "" ↔ trim text = "" := by
  have empty : squash "" = "" := rfl
  have trimmedEmpty : trim text = "" ↔ trimmed text.toList = [] := by
    rw [trim, ← String.toList_inj, String.toList_ofList, String.toList_empty]
  rw [trimmedEmpty, ← wordsOf_eq_nil_iff]
  constructor
  · intro squashed
    exact (squash_eq_iff text "").mp (squashed.trans empty.symm)
  · intro none
    exact ((squash_eq_iff text "").mpr none).trans empty

/-- The words of what follows are apart from those of the text. -/
def EndsWord (text : String) : Prop :=
  ∀ rest : String, wordsOf (text ++ rest).toList = wordsOf text.toList ++ wordsOf rest.toList

theorem endsWord_empty : EndsWord "" := by
  intro rest
  rw [String.empty_append]
  rfl

theorem endsWord_of_last {text : String} (last : text.toList.getLast? = some c)
    (blank : isBlank c = true) : EndsWord text := by
  obtain ⟨front, whole⟩ := List.getLast?_eq_some_iff.mp last
  intro rest
  have split (behind : List Char) :
      wordsOf (text.toList ++ behind) = wordsOf front ++ wordsOf behind := by
    rw [whole, List.append_assoc, List.singleton_append, wordsOf_append_blank blank]
  have alone := split []
  rw [List.append_nil] at alone
  rw [String.toList_append, split, alone]
  exact congrArg (· ++ _) (List.append_nil _).symm

theorem endsWord_append_of_last {last : String} (text : String)
    (final : last.toList.getLast? = some c) (blank : isBlank c = true) :
    EndsWord (text ++ last) := by
  refine endsWord_of_last ?_ blank
  rw [String.toList_append, List.getLast?_append, final]
  rfl

theorem EndsWord.append {first second : String} (early : EndsWord first)
    (late : EndsWord second) : EndsWord (first ++ second) := by
  intro rest
  rw [String.append_assoc, early, late, early, List.append_assoc]

end AnalystQuery.Text
