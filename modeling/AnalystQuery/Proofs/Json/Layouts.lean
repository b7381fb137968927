import AnalystQuery.Proofs.Json.Numbers
import AnalystQuery.Proofs.Json.Strings
import Mathlib.Data.List.DropRight
import Mathlib.Data.List.Forall2

/-! Reading arrays and objects however they are laid out. The parts of a container may be set apart
by white space; each part is read wherever it stands, as long as no digit of a number follows and
no more containers nest than may. -/

namespace AnalystQuery.Json

/-- The text is read in an accepted way wherever it stands, where so many containers may still
nest. -/
structure Reads (depth : Nat) (text : List Char) (accepts : Raw → Prop) : Prop where
  opens : ∃ c rest, text = c :: rest ∧ isSpacing c = false ∧ c ≠ ']'
  reads : ∀ fuel rest, text.length ≤ fuel → Ends rest →
    ∃ raw, readRaw fuel depth (text ++ rest) = some (raw, rest) ∧ accepts raw

variable {depth fuel : Nat} {text rest gap : List Char} {accepts accepts' : Raw → Prop}

theorem Reads.imp (reads : Reads depth text accepts) (weaker : ∀ raw, accepts raw → accepts' raw) :
    Reads depth text accepts' := by
  refine ⟨reads.opens, fun fuel rest enough ends => ?_⟩
  obtain ⟨raw, found, accepted⟩ := reads.reads fuel rest enough ends
  exact ⟨raw, found, weaker raw accepted⟩

/-- A text that is read anywhere is read on its own, also with white space behind it. -/
theorem Reads.read? (reads : Reads nestingLimit text accepts)
    (blank : ∀ c ∈ gap, isSpacing c = true) (ends : Ends gap) :
    ∃ raw, Raw.read? (String.ofList (text ++ gap)) = some raw ∧ accepts raw := by
  obtain ⟨raw, found, accepted⟩ :=
    reads.reads ((text ++ gap).length + 1) gap (by simp; omega) ends
  have nothing : (skipSpacing gap).isEmpty = true := by
    rw [List.isEmpty_iff, skipSpacing, List.dropWhile_eq_nil_iff]
    exact blank
  refine ⟨raw, ?_, accepted⟩
  rw [Raw.read?, Raw.readWithin?, String.toList_ofList, found]
  exact if_pos nothing

theorem skipSpacing_append (blank : ∀ c ∈ gap, isSpacing c = true) (text : List Char) :
    skipSpacing (gap ++ text) = skipSpacing text :=
  List.dropWhile_append_of_pos blank

theorem skipSpacing_skipSpacing (text : List Char) :
    skipSpacing (skipSpacing text) = skipSpacing text :=
  List.dropWhile_idempotent isSpacing text

theorem readRaw_of_skipSpacing {text other : List Char}
    (same : skipSpacing text = skipSpacing other) (fuel depth : Nat) :
    readRaw fuel depth text = readRaw fuel depth other := by
  cases fuel with
  | zero => rfl
  | succ fuel => rw [readRaw, readRaw, same]

theorem readItems_of_skipSpacing {text other : List Char}
    (same : skipSpacing text = skipSpacing other) (fuel depth : Nat) :
    readItems fuel depth text = readItems fuel depth other := by
  cases fuel with
  | zero => rfl
  | succ fuel => rw [readItems, readItems, readRaw_of_skipSpacing same]

theorem readEntries_of_skipSpacing {text other : List Char}
    (same : skipSpacing text = skipSpacing other) (fuel depth : Nat) :
    readEntries fuel depth text = readEntries fuel depth other := by
  cases fuel with
  | zero => rfl
  | succ fuel => rw [readEntries, readEntries, same]

theorem ends_append (blank : ∀ c ∈ gap, isSpacing c = true) (ends : Ends rest) :
    Ends (gap ++ rest) := by
  cases gap with
  | nil => exact ends
  | cons first gap =>
    intro c same
    obtain rfl : first = c := Option.some.inj same
    have spacing := blank first List.mem_cons_self
    simp only [isSpacing, Bool.or_eq_true, beq_iff_eq] at spacing
    rcases spacing with ((rfl | rfl) | rfl) | rfl <;> decide

/-- The white space in front of each part of a container, behind the last part, and behind the
colon of an entry. -/
structure Spacing where
  before : List Char
  after : List Char
  colon : List Char
  blankBefore : ∀ c ∈ before, isSpacing c = true
  blankAfter : ∀ c ∈ after, isSpacing c = true
  blankColon : ∀ c ∈ colon, isSpacing c = true

variable {spacing : Spacing}

def laidItems (spacing : Spacing) : List (List Char) → List Char
  | [] => spacing.after ++ [']']
  | text :: rest =>
    spacing.before ++ text ++ (if rest.isEmpty then [] else [',']) ++ laidItems spacing rest

theorem readItems_laidItems {texts : List (List Char)} {accepted : List (Raw → Prop)}
    (nonempty : texts ≠ []) (each : List.Forall₂ (Reads depth) texts accepted)
    (enough : (laidItems spacing texts).length ≤ fuel) (rest : List Char) :
    ∃ raws, readItems fuel depth (laidItems spacing texts ++ rest) = some (raws, rest) ∧
      List.Forall₂ (fun accepts raw => accepts raw) accepted raws := by
  induction each generalizing fuel with
  | nil => exact absurd rfl nonempty
  | @cons text accepts texts accepted first others ih =>
    rw [laidItems] at enough ⊢
    obtain ⟨c, more, opens, -⟩ := first.opens
    rcases fuel with - | fuel
    · rw [opens] at enough
      simp at enough
    · simp only [List.append_assoc, List.length_append] at enough ⊢
      rw [readItems_of_skipSpacing (skipSpacing_append spacing.blankBefore _)]
      rcases texts with - | ⟨next, texts⟩
      · cases others
        have ends : Ends (spacing.after ++ ']' :: rest) :=
          ends_append spacing.blankAfter (ends_cons (by decide))
        have spaced : skipSpacing (spacing.after ++ ']' :: rest) = ']' :: rest :=
          skipSpacing_append spacing.blankAfter _
        simp only [laidItems, List.length_append, List.length_singleton] at enough
        obtain ⟨raw, found, accepted⟩ := first.reads fuel _ (by omega) ends
        exact ⟨[raw], by simp [laidItems, readItems, found, spaced], .cons accepted .nil⟩
      · rw [List.isEmpty_cons, if_neg Bool.false_ne_true] at enough ⊢
        have ends : Ends (',' :: (laidItems spacing (next :: texts) ++ rest)) :=
          ends_cons (by decide)
        have spaced : skipSpacing (',' :: (laidItems spacing (next :: texts) ++ rest)) =
            ',' :: (laidItems spacing (next :: texts) ++ rest) := rfl
        rw [List.length_singleton] at enough
        obtain ⟨raw, found, acceptedFirst⟩ := first.reads fuel _ (by omega) ends
        obtain ⟨raws, foundOthers, acceptedOthers⟩ :=
          @ih fuel (List.cons_ne_nil _ _) (by omega)
        exact ⟨raw :: raws, by simp [readItems, found, spaced, foundOthers],
          .cons acceptedFirst acceptedOthers⟩

theorem reads_array {texts : List (List Char)} {accepted : List (Raw → Prop)}
    (nonempty : texts ≠ []) (each : List.Forall₂ (Reads depth) texts accepted) :
    Reads (depth + 1) ('[' :: laidItems spacing texts) fun raw =>
      ∃ raws, raw = .array raws ∧ List.Forall₂ (fun accepts raw => accepts raw) accepted raws := by
  refine ⟨⟨'[', _, rfl, rfl, by decide⟩, ?_⟩
  rintro (- | fuel) rest enough -
  · cases enough
  · obtain ⟨raws, found, accepted⟩ :=
      readItems_laidItems nonempty each (Nat.le_of_succ_le_succ enough) rest
    refine ⟨.array raws, ?_, raws, rfl, accepted⟩
    have spaced (more : List Char) : skipSpacing ('[' :: more) = '[' :: more := rfl
    cases each with
    | nil => exact absurd rfl nonempty
    | @cons text accepts texts accepted first others =>
      obtain ⟨c, more, opens, visible, noBracket⟩ := first.opens
      obtain ⟨behind, begins⟩ :
          ∃ behind, skipSpacing (laidItems spacing (text :: texts) ++ rest) = c :: behind := by
        simp only [laidItems, List.append_assoc]
        rw [skipSpacing_append spacing.blankBefore, opens, List.cons_append,
          skipSpacing_of_not visible]
        exact ⟨_, rfl⟩
      rw [← readItems_of_skipSpacing (skipSpacing_skipSpacing _), begins] at found
      simp only [List.cons_append, readRaw, spaced, begins]
      split
      · rename_i bracket
        exact absurd (List.cons.inj bracket).1 noBracket
      · simp [found]

theorem reads_emptyArray : Reads (depth + 1) ['[', ']'] (· = .array []) := by
  refine ⟨⟨'[', _, rfl, rfl, by decide⟩, ?_⟩
  rintro (- | fuel) rest enough -
  · cases enough
  · exact ⟨.array [], by simp [readRaw, skipSpacing, isSpacing], rfl⟩

def laidEntries (spacing : Spacing) : List (String × List Char) → List Char
  | [] => spacing.after ++ ['\x7d']
  | (key, text) :: rest =>
    spacing.before ++ quoted key ++ ':' :: (spacing.colon ++ text) ++
      (if rest.isEmpty then [] else [',']) ++ laidEntries spacing rest

theorem quoted_append (text : String) (rest : List Char) :
    quoted text ++ rest = '"' :: (text.toList.flatMap escapeCharacter ++ '"' :: rest) := by
  simp [quoted]

theorem readEntries_laidEntries {entries : List (String × List Char)}
    {accepted : List (String × (Raw → Prop))} (nonempty : entries ≠ [])
    (each : List.Forall₂ (fun entry field => entry.1 = field.1 ∧ Reads depth entry.2 field.2)
      entries accepted)
    (enough : (laidEntries spacing entries).length ≤ fuel) (rest : List Char) :
    ∃ raws, readEntries fuel depth (laidEntries spacing entries ++ rest) = some (raws, rest) ∧
      List.Forall₂ (fun (field : String × (Raw → Prop)) (raw : Option String × Raw) =>
        raw.1 = some field.1 ∧ field.2 raw.2) accepted raws := by
  induction each generalizing fuel with
  | nil => exact absurd rfl nonempty
  | @cons entry field entries accepted first others ih =>
    obtain ⟨key, text⟩ := entry
    obtain ⟨key', accepts⟩ := field
    obtain ⟨sameKey, first⟩ := first
    dsimp only at sameKey first
    subst sameKey
    rw [laidEntries] at enough ⊢
    rcases fuel with - | fuel
    · simp at enough
    · have quote (more : List Char) : skipSpacing ('"' :: more) = '"' :: more := rfl
      have colon (more : List Char) : skipSpacing (':' :: more) = ':' :: more := rfl
      have behind (more : List Char) (fuel : Nat) :
          readRaw fuel depth (spacing.colon ++ more) = readRaw fuel depth more :=
        readRaw_of_skipSpacing (skipSpacing_append spacing.blankColon more) fuel depth
      simp only [List.append_assoc, List.cons_append, List.length_append,
        List.length_cons] at enough ⊢
      rw [readEntries_of_skipSpacing (skipSpacing_append spacing.blankBefore _)]
      rcases entries with - | ⟨next, entries⟩
      · cases others
        have ends : Ends (spacing.after ++ '\x7d' :: rest) :=
          ends_append spacing.blankAfter (ends_cons (by decide))
        have spaced : skipSpacing (spacing.after ++ '\x7d' :: rest) = '\x7d' :: rest :=
          skipSpacing_append spacing.blankAfter _
        simp only [laidEntries, List.length_append, List.length_singleton] at enough
        obtain ⟨raw, found, accepted⟩ := first.reads fuel _ (by omega) ends
        refine ⟨[(some key, raw)], ?_, .cons ⟨rfl, accepted⟩ .nil⟩
        simp [quoted_append, readEntries, quote, readString_escaped, colon, behind, laidEntries,
          found, spaced]
      · rw [List.isEmpty_cons, if_neg Bool.false_ne_true] at enough ⊢
        have ends : Ends (',' :: (laidEntries spacing (next :: entries) ++ rest)) :=
          ends_cons (by decide)
        have spaced : skipSpacing (',' :: (laidEntries spacing (next :: entries) ++ rest)) =
            ',' :: (laidEntries spacing (next :: entries) ++ rest) := rfl
        rw [List.length_singleton] at enough
        obtain ⟨raw, found, acceptedFirst⟩ := first.reads fuel _ (by omega) ends
        obtain ⟨raws, foundOthers, acceptedOthers⟩ :=
          @ih fuel (List.cons_ne_nil _ _) (by omega)
        refine ⟨(some key, raw) :: raws, ?_, .cons ⟨rfl, acceptedFirst⟩ acceptedOthers⟩
        simp [quoted_append, readEntries, quote, readString_escaped, colon, behind, found, spaced,
          foundOthers]

theorem reads_object {entries : List (String × List Char)}
    {accepted : List (String × (Raw → Prop))} (nonempty : entries ≠ [])
    (each : List.Forall₂ (fun entry field => entry.1 = field.1 ∧ Reads depth entry.2 field.2)
      entries accepted) :
    Reads (depth + 1) ('\x7b' :: laidEntries spacing entries) fun raw =>
      ∃ raws, raw = .object raws ∧
        List.Forall₂ (fun (field : String × (Raw → Prop)) (raw : Option String × Raw) =>
          raw.1 = some field.1 ∧ field.2 raw.2) accepted raws := by
  refine ⟨⟨'\x7b', _, rfl, rfl, by decide⟩, ?_⟩
  rintro (- | fuel) rest enough -
  · cases enough
  · obtain ⟨raws, found, accepted⟩ :=
      readEntries_laidEntries nonempty each (Nat.le_of_succ_le_succ enough) rest
    refine ⟨.object raws, ?_, raws, rfl, accepted⟩
    have spaced (more : List Char) : skipSpacing ('\x7b' :: more) = '\x7b' :: more := rfl
    have quote (more : List Char) : skipSpacing ('"' :: more) = '"' :: more := rfl
    cases each with
    | nil => exact absurd rfl nonempty
    | @cons entry field entries accepted first others =>
      obtain ⟨behind, begins⟩ : ∃ behind,
          skipSpacing (laidEntries spacing (entry :: entries) ++ rest) = '"' :: behind := by
        simp only [laidEntries, List.append_assoc]
        rw [skipSpacing_append spacing.blankBefore, quoted_append, quote]
        exact ⟨_, rfl⟩
      rw [← readEntries_of_skipSpacing (skipSpacing_skipSpacing _), begins] at found
      simp [readRaw, spaced, begins, found]

theorem reads_emptyObject : Reads (depth + 1) ['\x7b', '\x7d'] (· = .object []) := by
  refine ⟨⟨'\x7b', _, rfl, rfl, by decide⟩, ?_⟩
  rintro (- | fuel) rest enough -
  · cases enough
  · exact ⟨.object [], by simp [readRaw, skipSpacing, isSpacing], rfl⟩

end AnalystQuery.Json
