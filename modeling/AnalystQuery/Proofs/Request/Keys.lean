import AnalystQuery.Proofs.Request.Identity
import Mathlib.Data.List.DropRight

/-! When two requests have one key. The text that is digested is the same exactly for requests that
are alike: in their words, in their context and time zone where these say something, in their index
and in the earlier questions that still count. So is the key, as far as digests do not collide. -/

namespace AnalystQuery.Request

open Text (squash trim)

/-- What is left of a text that may be absent; one that is blank says nothing. -/
def told (reduce : String → String) (text : Option String) : Option String :=
  (text.map reduce).filter (· != "")

/-- Up to white space both requests ask the same: a blank context or time zone counts as an absent
one, and of the earlier questions only the last few count. -/
structure Alike (window : Nat) (first second : Request) : Prop where
  question : squash first.question = squash second.question
  context : told squash first.context = told squash second.context
  index : trim first.index = trim second.index
  timezone : told trim first.timezone = told trim second.timezone
  history : (first.history.rtake window).map squash = (second.history.rtake window).map squash

theorem told_eq_bind (reduce : String → String) (text : Option String) :
    told reduce text = text.bind fun text => present? (reduce text) := by
  cases text with
  | none => rfl
  | some text =>
    rw [told, Option.map_some, Option.bind_some, present?]
    by_cases blank : reduce text = "" <;> simp [Option.filter, blank]

theorem identity_eq_iff_alike (window : Nat) (first second : Request) :
    first.identity window = second.identity window ↔ Alike window first second := by
  rw [identity, identity, Identity.mk.injEq, ← told_eq_bind, ← told_eq_bind, ← told_eq_bind,
    ← told_eq_bind]
  constructor
  · rintro ⟨question, context, index, timezone, history⟩
    exact ⟨question, context, index, timezone, history⟩
  · intro alike
    exact ⟨alike.question, alike.context, alike.index, alike.timezone, alike.history⟩

/-- Requests that are not alike never share the text that is digested; where the two texts do not
collide, they do not share a key, and requests that are alike always do. -/
theorem cacheKey_eq_iff_alike (window : Nat) (first second : Request) :
    ((first.identity window).canonicalText = (second.identity window).canonicalText ↔
        Alike window first second) ∧
      (CollisionFree window [first, second] →
        (first.cacheKey window = second.cacheKey window ↔ Alike window first second)) := by
  constructor
  · rw [Identity.canonicalText_injective.eq_iff, identity_eq_iff_alike]
  · intro free
    have one : first ∈ [first, second] := List.mem_cons_self
    have other : second ∈ [first, second] := List.mem_cons_of_mem first List.mem_cons_self
    rw [free.cacheKey_eq_iff one other, identity_eq_iff_alike]

theorem collisionFree_pair {window : Nat} {first second : Request}
    (apart : Digest.sha256 (first.identity window).canonicalText.toUTF8.toList ≠
      Digest.sha256 (second.identity window).canonicalText.toUTF8.toList) :
    CollisionFree window [first, second] := by
  intro one oneListed other otherListed same
  rcases List.mem_pair.mp oneListed with rfl | rfl <;>
    rcases List.mem_pair.mp otherListed with rfl | rfl
  · rfl
  · exact absurd same apart
  · exact absurd same.symm apart
  · rfl

private def askedWithin (context : Option String) : Request :=
  { ask "angry mails" "communications" with context := context }

/-- A context that reads `null` is not taken for an absent one. -/
theorem null_context_has_own_key :
    CollisionFree 5 [askedWithin (some "null"), askedWithin none] ∧
      (askedWithin (some "null")).cacheKey 5 ≠ (askedWithin none).cacheKey 5 := by
  have free : CollisionFree 5 [askedWithin (some "null"), askedWithin none] :=
    collisionFree_pair (by decide +kernel)
  refine ⟨free, fun oneKey => ?_⟩
  have alike := ((cacheKey_eq_iff_alike 5 _ _).2 free).mp oneKey
  exact absurd alike.context (by decide)

end AnalystQuery.Request
