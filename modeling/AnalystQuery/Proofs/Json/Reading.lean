import AnalystQuery.Json.Reader

/-! What is read from JSON text. -/

namespace AnalystQuery.Json

theorem readRaw_brace {fuel depth : Nat} {text rest : List Char} {raw : Raw}
    (read : readRaw fuel depth ('\x7b' :: text) = some (raw, rest)) :
    raw = .tooDeep ∨ ∃ entries, raw = .object entries := by
  cases fuel with
  | zero => cases read
  | succ fuel =>
    have spaced : skipSpacing ('\x7b' :: text) = '\x7b' :: text := rfl
    simp only [readRaw, spaced] at read
    split at read
    · cases read
      by_cases shallow : depth = 0 <;> simp [shallow]
    · obtain ⟨⟨entries, after⟩, -, same⟩ := Option.bind_eq_some_iff.mp read
      cases same
      by_cases shallow : depth = 0 <;> simp [shallow]

theorem object_of_read?_brace {text : List Char} {value : Json}
    (read : read? (String.ofList ('\x7b' :: text)) = some value) :
    ∃ entries, value = .object entries := by
  obtain ⟨raw, rawRead, valued⟩ := Option.bind_eq_some_iff.mp read
  rw [Raw.read?, Raw.readWithin?, String.toList_ofList] at rawRead
  obtain ⟨⟨found, after⟩, foundRead, same⟩ := Option.bind_eq_some_iff.mp rawRead
  obtain rfl : found = raw := by
    dsimp only at same
    split at same
    · exact Option.some.inj same
    · cases same
  rcases readRaw_brace foundRead with rfl | ⟨entries, rfl⟩
  · cases valued
  · obtain ⟨values, -, rfl⟩ := Option.map_eq_some_iff.mp valued
    exact ⟨_, rfl⟩

end AnalystQuery.Json
