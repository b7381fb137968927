import AnalystQuery.IntentCache

/-! The entries of a cache. Each key has at most one, so what is alive at some time is what lived
earlier and is not dead yet. -/

namespace AnalystQuery.IntentCache

variable {cache : IntentCache} {key other : String} {intent : Intent} {now later life : Nat}

def Distinct (cache : IntentCache) : Prop := cache.entries.Pairwise (·.key ≠ ·.key)

theorem distinct_empty (enabled : Bool) : Distinct (.empty enabled) := .nil

theorem Distinct.set (distinct : cache.Distinct) : (cache.set now key intent life).Distinct := by
  rw [IntentCache.set]
  split
  · refine List.pairwise_cons.mpr ⟨fun entry member same => ?_, distinct.filter _⟩
    exact bne_iff_ne.mp (List.mem_filter.mp member).2 same.symm
  · exact distinct

theorem enabled_set : (cache.set now key intent life).enabled = cache.enabled := by
  rw [IntentCache.set]
  split <;> rfl

theorem living?_later (distinct : cache.Distinct) (order : now ≤ later) :
    cache.living? later key = (cache.living? now key).filter (later < ·.expiry) := by
  rw [living?, living?]
  rw [Distinct] at distinct
  generalize cache.entries = entries at distinct ⊢
  induction entries with
  | nil => rfl
  | cons entry rest ih =>
    obtain ⟨apart, others⟩ := List.pairwise_cons.mp distinct
    by_cases same : entry.key = key
    · have absent (time : Nat) :
          rest.find? (fun entry => entry.key == key && time < entry.expiry) = none := by
        refine List.find?_eq_none.mpr fun another member found => apart another member ?_
        rw [Bool.and_eq_true, beq_iff_eq] at found
        exact same.trans found.1.symm
      by_cases alive : later < entry.expiry
      · rw [List.find?_cons_of_pos (by simp [same, alive]),
          List.find?_cons_of_pos (by simp [same, Nat.lt_of_le_of_lt order alive]),
          Option.filter_some,
          if_pos (decide_eq_true alive)]
      · rw [List.find?_cons_of_neg (by simp [alive]), absent]
        by_cases before : now < entry.expiry
        · rw [List.find?_cons_of_pos (by simp [same, before]), Option.filter_some,
            if_neg (by simpa using alive)]
        · rw [List.find?_cons_of_neg (by simp [before]), absent]
          rfl
    · rw [List.find?_cons_of_neg (by simp [same]), List.find?_cons_of_neg (by simp [same])]
      exact ih others

theorem expiry_of_living? {entry : Entry} (found : cache.living? now key = some entry) :
    now < entry.expiry := by
  have living := List.find?_some found
  rw [Bool.and_eq_true, decide_eq_true_eq] at living
  exact living.2

theorem living?_set_self (enabled : cache.enabled = true) (lasting : 0 < life) :
    (cache.set now key intent life).living? now key =
      some ⟨key, intent, ((cache.living? now key).map Entry.expiry).getD (now + life)⟩ := by
  have alive : now < ((cache.living? now key).map Entry.expiry).getD (now + life) := by
    cases found : cache.living? now key with
    | none => exact Nat.lt_add_of_pos_right lasting
    | some entry => exact expiry_of_living? found
  rw [IntentCache.set, if_pos (by simp [enabled, lasting])]
  dsimp only
  rw [living?]
  exact List.find?_cons_of_pos (by simpa using alive)

theorem find?_filter_of_ne (different : other ≠ key) (entries : List Entry) :
    (entries.filter (·.key != other)).find? (fun entry => entry.key == key && later < entry.expiry)
      = entries.find? fun entry => entry.key == key && later < entry.expiry := by
  induction entries with
  | nil => rfl
  | cons entry rest ih =>
    by_cases replaced : entry.key = other
    · rw [List.filter_cons_of_neg (by simp [replaced]), ih,
        List.find?_cons_of_neg (by simp [replaced, different])]
    · rw [List.filter_cons_of_pos (by simp [replaced]), List.find?_cons, List.find?_cons, ih]

theorem living?_set_of_ne (different : other ≠ key) :
    (cache.set now other intent life).living? later key = cache.living? later key := by
  rw [IntentCache.set]
  split
  · rw [living?, List.find?_cons_of_neg (by simp [different]), find?_filter_of_ne different,
      living?]
  · rfl

end AnalystQuery.IntentCache
