import AnalystQuery.Json.Basic
import Mathlib.Data.List.Basic
import Mathlib.Data.List.Induction
import Mathlib.Data.List.Nodup

/-! Sorting entries by key: the result is sorted, holds each key once, and keeps of the entries
with one key the last. -/

namespace AnalystQuery.Json

variable {key : String} {value : Json} {entry : String × Json} {entries : List (String × Json)}

def SortedByKey (entries : List (String × Json)) : Prop :=
  entries.Pairwise fun first second => first.1 < second.1

private theorem lt_of_not_lt_of_ne {first second : String} (notBelow : ¬ first < second)
    (distinct : first ≠ second) : second < first := by
  by_contra notAbove
  exact distinct (String.le_antisymm notAbove notBelow)

theorem SortedByKey.nodup_keys (sorted : SortedByKey entries) : (entries.map Prod.fst).Nodup := by
  refine List.pairwise_map.mpr (sorted.imp ?_)
  intro first second below same
  exact String.lt_irrefl second.1 (same ▸ below)

theorem mem_insertEntry_subset (member : entry ∈ insertEntry key value entries) :
    entry = (key, value) ∨ entry ∈ entries := by
  induction entries with
  | nil => exact Or.inl (List.mem_singleton.mp member)
  | cons head rest ih =>
    rw [insertEntry] at member
    split at member
    · exact List.mem_cons.mp member
    · split at member
      · exact (List.mem_cons.mp member).imp_right (List.mem_cons_of_mem head)
      · rcases List.mem_cons.mp member with same | later
        · exact Or.inr (same ▸ List.mem_cons_self)
        · exact (ih later).imp_right (List.mem_cons_of_mem head)

theorem sortedByKey_insertEntry (sorted : SortedByKey entries) :
    SortedByKey (insertEntry key value entries) := by
  induction entries with
  | nil => exact List.pairwise_singleton _ _
  | cons head rest ih =>
    obtain ⟨above, sortedRest⟩ := List.pairwise_cons.mp sorted
    rw [insertEntry]
    split
    · rename_i below
      refine List.pairwise_cons.mpr ⟨?_, sorted⟩
      intro other member
      rcases List.mem_cons.mp member with rfl | later
      · exact below
      · exact String.lt_trans below (above other later)
    · split
      · rename_i same
        exact List.pairwise_cons.mpr ⟨fun other later => same ▸ above other later, sortedRest⟩
      · rename_i notBelow distinct
        refine List.pairwise_cons.mpr ⟨?_, ih sortedRest⟩
        intro other member
        rcases mem_insertEntry_subset member with rfl | later
        · exact lt_of_not_lt_of_ne notBelow distinct
        · exact above other later

theorem mem_insertEntry (sorted : SortedByKey entries) :
    entry ∈ insertEntry key value entries ↔
      entry = (key, value) ∨ entry ∈ entries ∧ entry.1 ≠ key := by
  induction entries with
  | nil => simp [insertEntry]
  | cons head rest ih =>
    obtain ⟨above, sortedRest⟩ := List.pairwise_cons.mp sorted
    have apart {bound : String} (other : String × Json) (below : bound < other.1) :
        other.1 ≠ bound := by
      intro same
      exact String.lt_irrefl bound (same ▸ below)
    rw [insertEntry]
    split
    · rename_i below
      rw [List.mem_cons]
      refine or_congr_right (iff_self_and.mpr ?_)
      intro member
      rcases List.mem_cons.mp member with rfl | later
      · exact apart _ below
      · exact apart entry (String.lt_trans below (above entry later))
    · split
      · rename_i same
        subst same
        rw [List.mem_cons, List.mem_cons]
        refine or_congr_right ⟨fun later => ⟨Or.inr later, apart entry (above entry later)⟩, ?_⟩
        rintro ⟨rfl | later, distinct⟩
        · exact absurd rfl distinct
        · exact later
      · rename_i distinct
        rw [List.mem_cons, List.mem_cons, ih sortedRest]
        constructor
        · rintro (rfl | rfl | ⟨later, other⟩)
          · exact Or.inr ⟨Or.inl rfl, fun same => distinct same.symm⟩
          · exact Or.inl rfl
          · exact Or.inr ⟨Or.inr later, other⟩
        · rintro (rfl | ⟨rfl | later, other⟩)
          · exact Or.inr (Or.inl rfl)
          · exact Or.inl rfl
          · exact Or.inr (Or.inr ⟨later, other⟩)

theorem sortEntries_snoc (entries : List (String × Json)) (last : String × Json) :
    sortEntries (entries ++ [last]) = insertEntry last.1 last.2 (sortEntries entries) := by
  rw [sortEntries, List.foldl_append]
  rfl

theorem sortedByKey_sortEntries (entries : List (String × Json)) :
    SortedByKey (sortEntries entries) := by
  induction entries using List.reverseRecOn with
  | nil => exact List.Pairwise.nil
  | append_singleton rest last ih =>
    rw [sortEntries_snoc]
    exact sortedByKey_insertEntry ih

/-- An entry lasts if no later one has its key. -/
def Lasting (entries : List (String × Json)) (entry : String × Json) : Prop :=
  ∃ before after, entries = before ++ entry :: after ∧ ∀ other ∈ after, other.1 ≠ entry.1

theorem lasting_snoc (last : String × Json) :
    Lasting (entries ++ [last]) entry ↔
      entry = last ∨ Lasting entries entry ∧ entry.1 ≠ last.1 := by
  constructor
  · rintro ⟨before, after, split, distinct⟩
    rcases List.eq_nil_or_concat after with rfl | ⟨front, final, rfl⟩
    · obtain ⟨-, same⟩ := List.append_inj' split rfl
      exact Or.inl (List.cons.inj same).1.symm
    · rw [List.concat_eq_append, ← List.cons_append, ← List.append_assoc] at split
      obtain ⟨front_eq, same⟩ := List.append_inj' split rfl
      have lastEq : last = final := (List.cons.inj same).1
      rw [List.concat_eq_append] at distinct
      refine Or.inr ⟨⟨before, front, front_eq, fun other member => ?_⟩, fun equal => ?_⟩
      · exact distinct other (List.mem_append_left _ member)
      · exact distinct final (by simp) (lastEq ▸ equal.symm)
  · rintro (rfl | ⟨⟨before, after, rfl, distinct⟩, different⟩)
    · exact ⟨entries, [], rfl, List.forall_mem_nil _⟩
    · refine ⟨before, after ++ [last], by simp, fun other member => ?_⟩
      rcases List.mem_append.mp member with early | final
      · exact distinct other early
      · rw [List.mem_singleton.mp final]
        exact Ne.symm different

theorem mem_sortEntries : entry ∈ sortEntries entries ↔ Lasting entries entry := by
  induction entries using List.reverseRecOn with
  | nil =>
    refine ⟨fun member => absurd member List.not_mem_nil, ?_⟩
    rintro ⟨before, after, split, -⟩
    simp at split
  | append_singleton rest last ih =>
    rw [sortEntries_snoc, mem_insertEntry (sortedByKey_sortEntries rest), lasting_snoc, ih]

theorem Lasting.mem (lasting : Lasting entries entry) : entry ∈ entries := by
  obtain ⟨before, after, rfl, -⟩ := lasting
  simp

theorem lasting_of_nodup_keys (distinct : (entries.map Prod.fst).Nodup) (member : entry ∈ entries) :
    Lasting entries entry := by
  obtain ⟨before, after, rfl⟩ := List.append_of_mem member
  refine ⟨before, after, rfl, fun other later same => ?_⟩
  rw [List.map_append, List.map_cons] at distinct
  have fresh := (List.nodup_cons.mp (List.nodup_append.mp distinct).2.1).1
  exact fresh (same ▸ List.mem_map_of_mem later)

/-- Sorting loses no entry exactly when no key is given twice. -/
theorem sortEntries_perm_iff :
    (sortEntries entries).Perm entries ↔ (entries.map Prod.fst).Nodup := by
  have keysOnce := (sortedByKey_sortEntries entries).nodup_keys
  constructor
  · intro permuted
    exact (permuted.map Prod.fst).nodup_iff.mp keysOnce
  · intro distinct
    have sortedOnce := List.Nodup.of_map Prod.fst keysOnce
    have givenOnce := List.Nodup.of_map Prod.fst distinct
    -- Both lists hold no entry twice, so they need only hold the same entries.
    refine (List.perm_ext_iff_of_nodup sortedOnce givenOnce).mpr ?_
    intro entry
    rw [mem_sortEntries]
    exact ⟨Lasting.mem, lasting_of_nodup_keys distinct⟩

end AnalystQuery.Json
