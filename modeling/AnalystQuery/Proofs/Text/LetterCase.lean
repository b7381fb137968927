import AnalystQuery.Text.LetterCase
import AnalystQuery.Proofs.Text.Blank

/-! Small letters: no small letter has a smaller one, so that text which is lower-cased once stays
as it is, and lower-casing neither makes nor takes white space. -/

namespace AnalystQuery.Text

/-- No small letter of the first run is a capital of the second: their codes lie apart, or the
second takes every other code and the first has none of those. -/
def CaseRun.apart (run other : CaseRun) : Bool :=
  (run.last : Int) + run.shift < other.first || (other.last : Int) < run.first + run.shift ||
    other.step == 2 && (run.step == 2 || run.first == run.last) &&
      ((run.first : Int) + run.shift - other.first) % 2 == 1

/-- The capital I with a dot, which becomes two characters, as a run. -/
def dottedCapital : CaseRun := ⟨0x130, 0x130, 1, 0⟩

/-- The small letters of a run are characters, and neither capitals nor white space. -/
def CaseRun.sound (run : CaseRun) : Bool :=
  0 ≤ (run.first : Int) + run.shift &&
    ((run.last : Int) + run.shift < 0xD800 ||
      0xDFFF < (run.first : Int) + run.shift && (run.last : Int) + run.shift < 0x110000) &&
    caseRuns.all run.apart && run.apart dottedCapital &&
    blankRanges.all fun range =>
      (run.last : Int) + run.shift < range.1 || (range.2 : Int) < run.first + run.shift

theorem caseRuns_sound : caseRuns.all CaseRun.sound = true := by decide +kernel

def CaseRun.small (run : CaseRun) (code : Nat) : Nat := ((code : Int) + run.shift).toNat

variable {run : CaseRun} {code : Nat}

theorem CaseRun.contains_iff :
    run.contains code = true ↔
      run.first ≤ code ∧ code ≤ run.last ∧ (code - run.first) % run.step = 0 := by
  simp [CaseRun.contains, and_assoc]

theorem CaseRun.contains_small_of_apart {other : CaseRun} (within : run.contains code = true)
    (known : 0 ≤ (run.first : Int) + run.shift) (apart : run.apart other = true) :
    other.contains (run.small code) = false := by
  obtain ⟨above, below, step⟩ := CaseRun.contains_iff.mp within
  rw [← Bool.not_eq_true, CaseRun.contains_iff, CaseRun.small]
  rintro ⟨otherAbove, otherBelow, otherStep⟩
  simp only [CaseRun.apart, Bool.or_eq_true, Bool.and_eq_true, decide_eq_true_eq,
    beq_iff_eq] at apart
  rcases apart with (before | behind) | ⟨⟨otherTwo, twoOrOne⟩, odd⟩
  · omega
  · omega
  · rw [otherTwo] at otherStep
    rcases twoOrOne with two | one
    · rw [two] at step
      omega
    · omega

theorem CaseRun.small_sound (member : run ∈ caseRuns) (within : run.contains code = true) :
    (run.small code).isValidChar ∧ (∀ other ∈ caseRuns, other.contains (run.small code) = false) ∧
      dottedCapital.contains (run.small code) = false ∧
      inRanges blankRanges (run.small code) = false := by
  have sound := List.all_eq_true.mp caseRuns_sound run member
  obtain ⟨above, below, -⟩ := CaseRun.contains_iff.mp within
  simp only [CaseRun.sound, Bool.and_eq_true, Bool.or_eq_true, decide_eq_true_eq,
    List.all_eq_true] at sound
  obtain ⟨⟨⟨⟨known, valid⟩, apart⟩, undotted⟩, visible⟩ := sound
  refine ⟨?_, ?_, CaseRun.contains_small_of_apart within known undotted, ?_⟩
  · rw [CaseRun.small, Nat.isValidChar]
    omega
  · intro other otherMember
    exact CaseRun.contains_small_of_apart within known (apart other otherMember)
  · rw [inRanges, List.any_eq_false]
    intro range rangeMember
    have outside := visible range rangeMember
    intro inside
    obtain ⟨low, high⟩ := Bool.and_eq_true_iff.mp inside
    rw [decide_eq_true_eq, CaseRun.small] at low high
    omega

theorem toNat_ofNat_of_valid (valid : code.isValidChar) : (Char.ofNat code).toNat = code := by
  rw [Char.ofNat, dif_pos valid]
  rfl

/-- A character that lower-casing leaves as it is, wherever it stands. -/
def IsSmall (c : Char) : Prop := c ≠ 'Σ' ∧ lowerCharacter c = [c]

variable {c d : Char}

theorem isSmall_of_no_run (undotted : c ≠ 'İ')
    (free : ∀ run ∈ caseRuns, run.contains c.toNat = false) : IsSmall c := by
  have nothing : caseRuns.find? (·.contains c.toNat) = none := by
    simpa [List.find?_eq_none] using free
  refine ⟨?_, by rw [lowerCharacter, if_neg undotted, nothing]⟩
  rintro rfl
  exact absurd nothing (by decide +kernel)

/-- Lower-casing a character leads to small letters, and to white space only from white space. -/
theorem of_mem_lowerCharacter (member : d ∈ lowerCharacter c) :
    IsSmall d ∧ (isBlank c = false → isBlank d = false) := by
  rw [lowerCharacter] at member
  split at member
  · rename_i dotted
    have letters : ∀ letter ∈ ['i', '\u0307'], IsSmall letter ∧ isBlank letter = false := by
      unfold IsSmall
      rw [List.forall_mem_cons, List.forall_mem_singleton]
      decide +kernel
    exact ⟨(letters d member).1, fun _ => (letters d member).2⟩
  · rename_i undotted
    split at member
    · rename_i run found
      have within := List.find?_some found
      obtain ⟨valid, free, undotted, visible⟩ :=
        CaseRun.small_sound (List.mem_of_find?_eq_some found) within
      have code : d.toNat = run.small c.toNat := by
        rw [List.mem_singleton.mp member, ← CaseRun.small, toNat_ofNat_of_valid valid]
      refine ⟨isSmall_of_no_run ?_ (code ▸ free), fun _ => by rw [isBlank, code, visible]⟩
      rintro rfl
      rw [← code] at undotted
      cases undotted
    · rename_i nothing
      obtain rfl := List.mem_singleton.mp member
      exact ⟨isSmall_of_no_run undotted (by simpa [List.find?_eq_none] using nothing), id⟩

theorem lowerCharacter_ne_nil (c : Char) : lowerCharacter c ≠ [] := by
  rw [lowerCharacter]
  split
  · exact List.cons_ne_nil _ _
  · split <;> exact List.cons_ne_nil _ _

variable {text before : List Char}

theorem lowerAfter_cons (before : List Char) (c : Char) (rest : List Char) :
    ∃ letters, letters ≠ [] ∧
      (∀ d ∈ letters, IsSmall d ∧ (isBlank c = false → isBlank d = false)) ∧
      lowerAfter before (c :: rest) = letters ++ lowerAfter (c :: before) rest := by
  rw [lowerAfter]
  split
  · have final : IsSmall 'ς' ∧ isBlank 'ς' = false := by
      unfold IsSmall
      decide +kernel
    refine ⟨['ς'], List.cons_ne_nil _ _, ?_, rfl⟩
    intro d member
    obtain rfl := List.mem_singleton.mp member
    exact ⟨final.1, fun _ => final.2⟩
  · exact ⟨lowerCharacter c, lowerCharacter_ne_nil c, fun d => of_mem_lowerCharacter, rfl⟩

theorem isSmall_of_mem_lowerAfter (member : d ∈ lowerAfter before text) : IsSmall d := by
  induction text generalizing before with
  | nil => cases member
  | cons c rest ih =>
    obtain ⟨letters, -, small, split⟩ := lowerAfter_cons before c rest
    rw [split, List.mem_append] at member
    rcases member with here | later
    · exact (small d here).1
    · exact ih later

theorem lowerAfter_of_small (small : ∀ c ∈ text, IsSmall c) : lowerAfter before text = text := by
  induction text generalizing before with
  | nil => rfl
  | cons c rest ih =>
    obtain ⟨⟨noSigma, same⟩, others⟩ := List.forall_mem_cons.mp small
    rw [lowerAfter, ih others, same]
    simp [noSigma]

theorem lowerCase_lowerCase (text : String) : lowerCase (lowerCase text) = lowerCase text := by
  have small : ∀ c ∈ lowerAfter [] text.toList, IsSmall c := fun c => isSmall_of_mem_lowerAfter
  rw [lowerCase, lowerCase, String.toList_ofList, lowerAfter_of_small small]

theorem head_lowerAfter (bare : ∀ c ∈ text.head?, isBlank c = false) :
    ∀ d ∈ (lowerAfter before text).head?, isBlank d = false := by
  cases text with
  | nil => exact fun d first => nomatch first
  | cons c rest =>
    obtain ⟨letters, nonempty, small, split⟩ := lowerAfter_cons before c rest
    rw [split, List.head?_append_of_ne_nil _ nonempty]
    intro d first
    exact (small d (List.mem_of_mem_head? first)).2 (bare c rfl)

theorem last_lowerAfter (bare : ∀ c ∈ text.getLast?, isBlank c = false) :
    ∀ d ∈ (lowerAfter before text).getLast?, isBlank d = false := by
  induction text generalizing before with
  | nil => exact fun d last => nomatch last
  | cons c rest ih =>
    obtain ⟨letters, nonempty, small, split⟩ := lowerAfter_cons before c rest
    rw [split]
    intro d last
    cases rest with
    | nil =>
      rw [lowerAfter, List.append_nil] at last
      exact (small d (List.mem_of_mem_getLast? last)).2 (bare c rfl)
    | cons next rest =>
      obtain ⟨others, othersNonempty, -, othersSplit⟩ := lowerAfter_cons (c :: before) next rest
      have something : lowerAfter (c :: before) (next :: rest) ≠ [] := by
        rw [othersSplit]
        exact List.append_ne_nil_of_left_ne_nil othersNonempty _
      rw [List.getLast?_append_of_ne_nil _ something] at last
      exact ih bare d last

theorem trim_lowerCase_trim (text : String) :
    trim (lowerCase (trim text)) = lowerCase (trim text) := by
  have bare := isTrimmed_trimmed text.toList
  have lowered : IsTrimmed (lowerAfter [] (trimmed text.toList)) :=
    ⟨head_lowerAfter bare.head, last_lowerAfter bare.last⟩
  rw [trim, lowerCase, trim, String.toList_ofList, String.toList_ofList, lowered.trimmed_eq]

end AnalystQuery.Text
