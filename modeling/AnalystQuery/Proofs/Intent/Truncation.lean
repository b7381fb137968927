import AnalystQuery.Proofs.Intent.Candidates
import AnalystQuery.Proofs.Intent.ObjectText

/-! Answers that break off within their object. The brace that opens the object is never closed, so
nothing is read from such an answer, complete objects within the beginning included. -/

namespace AnalystQuery.Intent

variable {text prose front object : List Char}

theorem readObject_of_absent (absent : '\x7b' ∉ text) :
    ∃ failure, readObject (String.ofList text) = .error failure := by
  rw [readObject, String.toList_ofList]
  split
  · exact ⟨.emptyText, rfl⟩
  · rw [if_pos (by simpa using absent)]
    exact ⟨.noObject, rfl⟩

theorem readObject_of_unbalanced (opening : '\x7b' ∈ text)
    (unbalanced : balancedObject? text = none) :
    readObject (String.ofList text) = .error .unbalanced := by
  rw [readObject_of_brace (by rwa [String.toList_ofList]), String.toList_ofList, candidateLimit,
    firstObject, unbalanced]

theorem readObject_of_truncated (written : ObjectText object) (cut : front <+: object)
    (proper : front ≠ object) (absent : '\x7b' ∉ prose) :
    ∃ failure, readObject (String.ofList (prose ++ front)) = .error failure ∧
      (front ≠ [] → failure = .unbalanced) := by
  have unbalanced := written.balancedObject?_cut cut proper
  obtain ⟨inside, rfl, -⟩ := written.split
  rcases List.prefix_cons_iff.mp cut with rfl | ⟨opened, rfl, -⟩
  · rw [List.append_nil]
    obtain ⟨failure, read⟩ := readObject_of_absent absent
    exact ⟨failure, read, fun some => absurd rfl some⟩
  · refine ⟨.unbalanced, readObject_of_unbalanced (by simp) ?_, fun _ => rfl⟩
    rw [balancedObject?_append absent]
    exact unbalanced

/-- An answer that breaks off within its object is degraded: a search for nothing in particular
that tells why it stands there. -/
theorem truncated_answer_degraded (confidences : Confidences) (now : Calendar.Instant)
    (written : ObjectText object) (cut : front <+: object) (proper : front ≠ object)
    (absent : '\x7b' ∉ prose) :
    ∃ failure,
      normalize confidences now (String.ofList (prose ++ front)) =
        .degraded failure confidences.degraded ∧
      (front ≠ [] → failure = .unbalanced) ∧
      (normalize confidences now (String.ofList (prose ++ front))).intent =
        { kind := .search
          entities := ⟨[], [], [], [], [], [], [], [], []⟩
          filters := []
          aggregations := []
          timeRange := none
          sort := none
          size := none
          offset := none
          confidence := confidences.degraded
          parseFailed := true
          failureReason := some failure.reason } := by
  obtain ⟨failure, read, reason⟩ := readObject_of_truncated written cut proper absent
  have degraded : normalize confidences now (String.ofList (prose ++ front)) =
      .degraded failure confidences.degraded := by
    rw [normalize, read]
  refine ⟨failure, degraded, reason, ?_⟩
  rw [degraded]
  rfl

private def mailAnswer : List Char := "\x7b\"entities\":\x7b\"channels\":[\"email\"]\x7d\x7d".toList

/-- The inner object is complete, and yet nothing is read. -/
theorem mail_answer_cut_degraded :
    '\x7b' ∉ "Sure: ".toList ∧ ObjectText mailAnswer ∧ mailAnswer.dropLast <+: mailAnswer ∧
      mailAnswer.dropLast ≠ mailAnswer ∧
      normalize ⟨.zero, .zero⟩ .origin (String.ofList ("Sure: ".toList ++ mailAnswer.dropLast)) =
        .degraded .unbalanced .zero := by
  have written : ObjectText mailAnswer := ⟨rfl, rfl, by decide +kernel⟩
  have cut : mailAnswer.dropLast <+: mailAnswer := List.dropLast_prefix _
  have proper : mailAnswer.dropLast ≠ mailAnswer := by decide
  have absent : '\x7b' ∉ "Sure: ".toList := by decide
  obtain ⟨failure, degraded, reason, -⟩ :=
    truncated_answer_degraded ⟨.zero, .zero⟩ .origin written cut proper absent
  obtain rfl := reason (by decide)
  exact ⟨absent, written, cut, proper, degraded⟩

end AnalystQuery.Intent
