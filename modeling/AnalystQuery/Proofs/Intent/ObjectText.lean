import AnalystQuery.Proofs.Intent.Scanning
import AnalystQuery.Proofs.Json.Literals

/-! The texts of JSON objects, in whatever form JSON allows. Reading a value and scanning for braces
go over the same characters: behind a value that is read a scan stands as it stood in front of it.
So the text of an object is one balanced span, and none of its beginnings is balanced. -/

namespace AnalystQuery.Intent

open Json (Raw skipSpacing isSpacing readStringParts readString readFraction readPower readLiteral
  readRaw readItems readEntries splitSign)

/-- A scan that stands at a text gets to a later part of it with the same braces open. -/
def Passes (text rest : List Char) : Prop := ∃ front, text = front ++ rest ∧ Neutral .code front

variable {fuel depth : Nat} {text rest after front object suffix : List Char} {c : Char}

theorem Passes.refl (text : List Char) : Passes text text := ⟨[], rfl, neutral_nil⟩

theorem Passes.trans (early : Passes text rest) (late : Passes rest after) :
    Passes text after := by
  obtain ⟨first, rfl, neutral⟩ := early
  obtain ⟨second, rfl, neutralToo⟩ := late
  exact ⟨first ++ second, (List.append_assoc _ _ _).symm, neutral.append neutralToo⟩

def Unmarked (c : Char) : Prop := c ≠ '"' ∧ c ≠ '\x7b' ∧ c ≠ '\x7d'

instance (c : Char) : Decidable (Unmarked c) := inferInstanceAs (Decidable (_ ∧ _))

theorem passes_cons (unmarked : Unmarked c) (rest : List Char) : Passes (c :: rest) rest :=
  ⟨[c], rfl, neutral_plain unmarked.1 unmarked.2.1 unmarked.2.2⟩

theorem passes_append (unmarked : ∀ c ∈ front, Unmarked c) (rest : List Char) :
    Passes (front ++ rest) rest :=
  ⟨front, rfl, neutral_of_plain unmarked⟩

theorem passes_dropWhile {keeps : Char → Bool} (unmarked : ∀ c, keeps c = true → Unmarked c)
    (text : List Char) : Passes text (text.dropWhile keeps) := by
  refine ⟨text.takeWhile keeps, List.takeWhile_append_dropWhile.symm, neutral_of_plain ?_⟩
  intro c member
  exact unmarked c (List.mem_takeWhile_imp member)

theorem passes_skipSpacing (text : List Char) : Passes text (skipSpacing text) := by
  refine passes_dropWhile (fun c spacing => ?_) text
  simp only [isSpacing, Bool.or_eq_true, beq_iff_eq] at spacing
  rcases spacing with ((rfl | rfl) | rfl) | rfl <;> decide

theorem passes_digits (text : List Char) : Passes text (text.dropWhile Char.isDigit) := by
  refine passes_dropWhile (fun c digit => ⟨?_, ?_, ?_⟩) text <;>
    · rintro rfl
      exact absurd digit (by decide)

theorem passes_splitSign (text : List Char) : Passes text (splitSign text).2 := by
  unfold splitSign
  split
  · exact passes_cons (by decide) _
  · exact passes_cons (by decide) _
  · exact .refl _

theorem passes_readFraction {fraction : Option (List Char)}
    (read : readFraction text = some (fraction, rest)) : Passes text rest := by
  unfold readFraction at read
  split at read
  · dsimp only at read
    split at read
    · cases read
    · cases read
      exact (passes_cons (by decide) _).trans (passes_digits _)
  · cases read
    exact .refl _

theorem passes_readPower {power : Option (Bool × List Char)}
    (read : readPower text = some (power, rest)) : Passes text rest := by
  rcases text with - | ⟨c, text⟩
  · cases read
    exact .refl _
  · by_cases mark : c = 'e' ∨ c = 'E'
    · rw [Json.readPower_mark mark] at read
      split at read
      · cases read
      · cases read
        have unmarked : Unmarked c := by
          rcases mark with rfl | rfl <;> decide
        exact ((passes_cons unmarked _).trans (passes_splitSign text)).trans (passes_digits _)
    · rw [Json.readPower_unmarked mark] at read
      cases read
      exact .refl _

theorem passes_readLiteral {negative : Bool} {literal : Json.Literal}
    (read : readLiteral negative text = some (literal, rest)) : Passes text rest := by
  rw [readLiteral] at read
  split at read
  · cases read
  · obtain ⟨⟨fraction, afterFraction⟩, readFirst, read⟩ := Option.bind_eq_some_iff.mp read
    obtain ⟨⟨power, afterPower⟩, readSecond, same⟩ := Option.bind_eq_some_iff.mp read
    cases same
    exact ((passes_digits _).trans (passes_readFraction readFirst)).trans
      (passes_readPower readSecond)

theorem neutral_of_hexValue? {value : Nat} (digit : Text.hexValue? c = some value) :
    Neutral .string [c] := by
  have quote : Text.hexValue? '"' = none := by decide
  have backslash : Text.hexValue? '\\' = none := by decide
  refine neutral_string_plain ?_ ?_
  · rintro rfl
    cases quote.symm.trans digit
  · rintro rfl
    cases backslash.symm.trans digit

theorem neutral_hexDigits {letters : List Char} {start value : Nat}
    (digits : letters.foldlM (fun value c => (Text.hexValue? c).map (16 * value + ·)) start =
      some value) : Neutral .string letters := by
  induction letters generalizing start with
  | nil => exact neutral_nil
  | cons c letters ih =>
    rw [List.foldlM_cons] at digits
    obtain ⟨between, first, others⟩ := Option.bind_eq_some_iff.mp digits
    obtain ⟨digit, valued, -⟩ := Option.map_eq_some_iff.mp first
    exact (neutral_of_hexValue? valued).append (ih others)

/-- A string is read up to the quote at which a scan leaves it. -/
theorem neutral_readStringParts {parts : List Json.StringPart}
    (read : readStringParts text = some (parts, rest)) :
    ∃ inside, text = inside ++ '"' :: rest ∧ Neutral .string inside := by
  have extend {more inside : List Char} (opening : List Char) (same : more = inside ++ '"' :: rest)
      (first : Neutral .string opening) (later : Neutral .string inside) :
      ∃ inside, opening ++ more = inside ++ '"' :: rest ∧ Neutral .string inside :=
    ⟨opening ++ inside, by rw [same, List.append_assoc], first.append later⟩
  induction text using Json.readStringParts.induct generalizing parts with
  | case1 => cases read
  | case2 more =>
    cases read
    exact ⟨[], rfl, neutral_nil⟩
  | case3 a b c d more ih =>
    rw [readStringParts] at read
    obtain ⟨value, digits, read⟩ := Option.bind_eq_some_iff.mp read
    obtain ⟨⟨others, behind⟩, readOthers, same⟩ := Option.bind_eq_some_iff.mp read
    cases same
    obtain ⟨inside, same, neutral⟩ := ih readOthers
    exact extend ['\\', 'u', a, b, c, d] same
      ((neutral_escape 'u').append (neutral_hexDigits digits)) neutral
  | case4 letter more noUnit ih =>
    rw [readStringParts] at read
    · obtain ⟨named, -, read⟩ := Option.bind_eq_some_iff.mp read
      obtain ⟨⟨others, behind⟩, readOthers, same⟩ := Option.bind_eq_some_iff.mp read
      cases same
      obtain ⟨inside, same, neutral⟩ := ih readOthers
      exact extend ['\\', letter] same (neutral_escape letter) neutral
    · exact noUnit
  | case5 c more noQuote _ noEscape bare =>
    rw [readStringParts, if_pos bare] at read
    · cases read
    all_goals assumption
  | case6 c more noQuote _ noEscape plain ih =>
    rw [readStringParts, if_neg plain] at read
    · obtain ⟨⟨others, behind⟩, readOthers, same⟩ := Option.bind_eq_some_iff.mp read
      cases same
      obtain ⟨inside, same, neutral⟩ := ih readOthers
      have noBackslash : c ≠ '\\' := by
        rintro rfl
        exact plain rfl
      exact extend [c] same (neutral_string_plain noQuote noBackslash) neutral
    all_goals assumption

theorem passes_readString {string : Option String} (read : readString text = some (string, rest)) :
    Passes ('"' :: text) rest := by
  obtain ⟨⟨parts, behind⟩, readParts, same⟩ := Option.bind_eq_some_iff.mp read
  cases same
  obtain ⟨inside, rfl, neutral⟩ := neutral_readStringParts readParts
  exact ⟨'"' :: (inside ++ ['"']), by simp, neutral_quotes neutral⟩

theorem passes_braces (inside : Passes text ('\x7d' :: rest)) : Passes ('\x7b' :: text) rest := by
  obtain ⟨front, rfl, neutral⟩ := inside
  exact ⟨'\x7b' :: (front ++ ['\x7d']), by simp, neutral_braces neutral⟩

/-- What is read with so much fuel is passed, by values, items and entries alike. -/
structure PassedBy (fuel : Nat) : Prop where
  raw : ∀ {depth text raw rest}, readRaw fuel depth text = some (raw, rest) → Passes text rest
  items : ∀ {depth text raws rest}, readItems fuel depth text = some (raws, rest) →
    Passes text rest
  entries : ∀ {depth text raws rest}, readEntries fuel depth text = some (raws, rest) →
    Passes text ('\x7d' :: rest)

theorem PassedBy.inside (known : PassedBy fuel) {raw : Raw}
    (read : readRaw (fuel + 1) depth ('\x7b' :: text) = some (raw, rest)) :
    Passes text ('\x7d' :: rest) := by
  have spaced : skipSpacing ('\x7b' :: text) = '\x7b' :: text := rfl
  simp only [readRaw, spaced] at read
  apply (passes_skipSpacing text).trans
  split at read
  · rename_i closing
    rw [closing]
    cases read
    exact .refl _
  · obtain ⟨⟨raws, after⟩, readEntries, pure⟩ := Option.bind_eq_some_iff.mp read
    cases pure
    exact known.entries readEntries

theorem PassedBy.succ_raw (known : PassedBy fuel) {raw : Raw}
    (read : readRaw (fuel + 1) depth text = some (raw, rest)) : Passes text rest := by
  apply (passes_skipSpacing text).trans
  rw [readRaw] at read
  split at read
  · rename_i same
    rw [same]
    cases read
    exact passes_append (by simp [Unmarked] : ∀ c ∈ ['n', 'u', 'l', 'l'], Unmarked c) _
  · rename_i same
    rw [same]
    cases read
    exact passes_append (by simp [Unmarked] : ∀ c ∈ ['t', 'r', 'u', 'e'], Unmarked c) _
  · rename_i same
    rw [same]
    cases read
    exact passes_append (by simp [Unmarked] : ∀ c ∈ ['f', 'a', 'l', 's', 'e'], Unmarked c) _
  · rename_i same
    rw [same]
    obtain ⟨⟨found, after⟩, readFound, pure⟩ := Option.bind_eq_some_iff.mp read
    cases pure
    exact passes_readString readFound
  · rename_i more same
    rw [same]
    apply ((passes_cons (by decide) _).trans (passes_skipSpacing more)).trans
    split at read
    · rename_i closing
      rw [closing]
      cases read
      exact passes_cons (by decide) _
    · obtain ⟨⟨raws, after⟩, readItems, pure⟩ := Option.bind_eq_some_iff.mp read
      cases pure
      exact known.items readItems
  · rename_i more same
    rw [same]
    exact passes_braces (known.inside read)
  · rename_i same
    rw [same]
    obtain ⟨⟨literal, after⟩, readNumber, pure⟩ := Option.bind_eq_some_iff.mp read
    cases pure
    exact (passes_cons (by decide) _).trans (passes_readLiteral readNumber)
  · obtain ⟨⟨literal, after⟩, readNumber, pure⟩ := Option.bind_eq_some_iff.mp read
    cases pure
    exact passes_readLiteral readNumber

theorem PassedBy.succ_items (known : PassedBy fuel) {raws : List Raw}
    (read : readItems (fuel + 1) depth text = some (raws, rest)) : Passes text rest := by
  obtain ⟨⟨raw, after⟩, readFirst, read⟩ := Option.bind_eq_some_iff.mp read
  apply ((known.raw readFirst).trans (passes_skipSpacing after)).trans
  dsimp only at read
  split at read
  · rename_i same
    rw [same]
    cases read
    exact passes_cons (by decide) _
  · rename_i same
    rw [same]
    obtain ⟨⟨others, behind⟩, readOthers, pure⟩ := Option.bind_eq_some_iff.mp read
    cases pure
    exact (passes_cons (by decide) _).trans (known.items readOthers)
  · cases read

theorem PassedBy.succ_entries (known : PassedBy fuel) {raws : List (Option String × Raw)}
    (read : readEntries (fuel + 1) depth text = some (raws, rest)) :
    Passes text ('\x7d' :: rest) := by
  apply (passes_skipSpacing text).trans
  rw [readEntries] at read
  split at read
  · rename_i same
    rw [same]
    obtain ⟨⟨key, afterKey⟩, readKey, read⟩ := Option.bind_eq_some_iff.mp read
    apply ((passes_readString readKey).trans (passes_skipSpacing afterKey)).trans
    dsimp only at read
    split at read
    · rename_i colon
      rw [colon]
      obtain ⟨⟨raw, after⟩, readFirst, read⟩ := Option.bind_eq_some_iff.mp read
      have value := (known.raw readFirst).trans (passes_skipSpacing after)
      apply ((passes_cons (by decide) _).trans value).trans
      dsimp only at read
      split at read
      · rename_i closing
        rw [closing]
        cases read
        exact .refl _
      · rename_i comma
        rw [comma]
        obtain ⟨⟨others, behind⟩, readOthers, pure⟩ := Option.bind_eq_some_iff.mp read
        cases pure
        exact (passes_cons (by decide) _).trans (known.entries readOthers)
      · cases read
    · cases read
  · cases read

theorem passedBy (fuel : Nat) : PassedBy fuel := by
  induction fuel with
  | zero => exact ⟨(nomatch ·), (nomatch ·), (nomatch ·)⟩
  | succ fuel ih => exact ⟨ih.succ_raw, ih.succ_items, ih.succ_entries⟩

/-- The text of a JSON object from its opening to its closing brace: no matter how deep it nests,
and whether all of its numbers and strings have a value. -/
structure ObjectText (text : List Char) : Prop where
  opened : text.head? = some '\x7b'
  closed : text.getLast? = some '\x7d'
  readable : (Raw.read? (String.ofList text)).isSome

theorem ObjectText.split (written : ObjectText object) :
    ∃ inside, object = '\x7b' :: (inside ++ ['\x7d']) ∧ Neutral .code inside := by
  obtain ⟨opened, closed, readable⟩ := written
  obtain ⟨text, rfl⟩ := List.head?_eq_some_iff.mp opened
  obtain ⟨raw, read⟩ := Option.isSome_iff_exists.mp readable
  rw [Raw.read?, Raw.readWithin?, String.toList_ofList] at read
  obtain ⟨⟨found, after⟩, readFound, ended⟩ := Option.bind_eq_some_iff.mp read
  obtain ⟨inside, rfl, neutral⟩ := (passedBy _).inside readFound
  have spacing : ∀ c ∈ after, isSpacing c = true := by
    dsimp only at ended
    split at ended
    · rename_i skipped
      exact List.dropWhile_eq_nil_iff.mp (List.isEmpty_iff.mp skipped)
    · cases ended
  -- Behind the closing brace only spacing could follow, but the text ends with a brace.
  obtain rfl : after = [] := by
    rcases List.eq_nil_or_concat after with rfl | ⟨front, last, rfl⟩
    · rfl
    · have regrouped : '\x7b' :: (inside ++ '\x7d' :: (front ++ [last])) =
          ('\x7b' :: (inside ++ '\x7d' :: front)) ++ [last] := by simp
      rw [List.concat_eq_append, regrouped, List.getLast?_concat] at closed
      obtain rfl := Option.some.inj closed
      exact absurd (spacing '\x7d' (by simp)) (by decide)
  exact ⟨inside, rfl, neutral⟩

theorem closeObject?_append {state : ScanState} {found : List Char × List Char}
    (closes : closeObject? depth state text = some found) (more : List Char) :
    closeObject? depth state (text ++ more) = some (found.1, found.2 ++ more) := by
  induction text generalizing depth state found with
  | nil => cases closes
  | cons c text ih =>
    have follow {depth : Nat} {state : ScanState} {found : List Char × List Char}
        (closes : (closeObject? depth state text).map (prepend [c]) = some found) :
        (closeObject? depth state (text ++ more)).map (prepend [c]) =
          some (found.1, found.2 ++ more) := by
      obtain ⟨later, closesLater, rfl⟩ := Option.map_eq_some_iff.mp closes
      rw [ih closesLater]
      rfl
    rw [List.cons_append]
    rw [closeObject?.eq_def] at closes ⊢
    cases state with
    | escape => exact follow closes
    | string =>
      dsimp only at closes ⊢
      split_ifs at closes ⊢
      all_goals exact follow closes
    | code =>
      dsimp only at closes ⊢
      split_ifs at closes ⊢
      · exact follow closes
      · exact follow closes
      · cases depth with
        | zero =>
          cases closes
          rfl
        | succ depth => exact follow closes
      · exact follow closes

theorem balancedObject?_cons_append {rest : List Char}
    (balanced : balancedObject? ('\x7b' :: rest) = some object) (more : List Char) :
    balancedObject? ('\x7b' :: rest ++ more) = some object := by
  have opened (text : List Char) : fromOpening ('\x7b' :: text) = '\x7b' :: text := rfl
  rw [balancedObject?, opened] at balanced
  obtain ⟨found, closes, rfl⟩ := Option.map_eq_some_iff.mp balanced
  rw [List.cons_append, balancedObject?, opened]
  dsimp only
  rw [closeObject?_append closes]
  rfl

theorem ObjectText.balanced (written : ObjectText object) :
    balancedObject? object = some object := by
  obtain ⟨inside, rfl, neutral⟩ := written.split
  exact balancedObject?_braces neutral

theorem ObjectText.balancedObject?_cut (written : ObjectText object) (cut : front <+: object)
    (proper : front ≠ object) : balancedObject? front = none := by
  obtain ⟨inside, rfl, neutral⟩ := written.split
  rcases List.prefix_cons_iff.mp cut with rfl | ⟨opened, rfl, within⟩
  · rfl
  · have early : opened <+: inside := by
      rcases List.prefix_concat_iff.mp within with rfl | early
      · exact absurd rfl proper
      · exact early
    have never : closeObject? 0 .code opened = none := by
      obtain ⟨rest, rfl⟩ := early
      -- What closes a part of the inside would close the whole there too.
      refine Option.eq_none_iff_forall_ne_some.mpr fun found closes => ?_
      have whole := neutral 0 []
      rw [List.append_nil, closeObject?_append closes] at whole
      cases whole
    have start : fromOpening ('\x7b' :: opened) = '\x7b' :: opened := rfl
    rw [balancedObject?, start]
    dsimp only
    rw [never]
    rfl

end AnalystQuery.Intent
