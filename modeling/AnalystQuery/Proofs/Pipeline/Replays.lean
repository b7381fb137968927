import AnalystQuery.Proofs.Pipeline.Compiles

/-! Runs with the same replies. Such runs of one plan are the same run. A run of an operation is one
of another operation too if the parts that are reached can be exchanged. -/

namespace AnalystQuery.Pipeline

variable {α β : Type} {before after : Session} {contacts others : List Contact}

def Contact.SameCall : Contact → Contact → Prop
  | .asked call _, .asked other _ => call = other
  | .searched call _, .searched other _ => call = other
  | _, _ => False

/-- While the same calls were made, they got the same replies. -/
def SameReplies : List Contact → List Contact → Prop
  | contact :: rest, other :: others =>
    contact.SameCall other → contact = other ∧ SameReplies rest others
  | _, _ => True

theorem Plan.Runs.unique {plan : Plan α} {value other : α} (runs : plan.Runs contacts value)
    (also : plan.Runs others other) (same : SameReplies contacts others) :
    others = contacts ∧ other = value := by
  induction runs generalizing others with
  | done value => exact runs_done_iff.mp also
  | ask call next reply later ih =>
    cases also with
    | ask _ _ answer laterToo =>
      obtain ⟨alike, rest⟩ := same rfl
      obtain ⟨-, rfl⟩ := Contact.asked.inj alike
      obtain ⟨rfl, rfl⟩ := ih laterToo rest
      exact ⟨rfl, rfl⟩
  | search call next reply later ih =>
    cases also with
    | search _ _ answer laterToo =>
      obtain ⟨alike, rest⟩ := same rfl
      obtain ⟨-, rfl⟩ := Contact.searched.inj alike
      obtain ⟨rfl, rfl⟩ := ih laterToo rest
      exact ⟨rfl, rfl⟩

theorem sameReplies_of_follows {ask : Reasoning.Call → Reasoning.Reply}
    {search : Search.Call → Search.Reply}
    (follow : ∀ contact ∈ contacts, contact.Follows ask search)
    (followToo : ∀ contact ∈ others, contact.Follows ask search) :
    SameReplies contacts others := by
  induction contacts generalizing others with
  | nil => exact True.intro
  | cons contact rest ih =>
    cases others with
    | nil => exact True.intro
    | cons other others =>
      obtain ⟨here, later⟩ := List.forall_mem_cons.mp follow
      obtain ⟨hereToo, laterToo⟩ := List.forall_mem_cons.mp followToo
      refine fun same => ⟨?_, ih later laterToo⟩
      cases contact with
      | asked call reply =>
        cases other with
        | asked _ answer =>
          obtain rfl : call = _ := same
          obtain rfl : reply = ask call := here
          obtain rfl : answer = ask call := hereToo
          rfl
        | searched => exact same.elim
      | searched call reply =>
        cases other with
        | asked => exact same.elim
        | searched _ answer =>
          obtain rfl : call = _ := same
          obtain rfl : reply = search call := here
          obtain rfl : answer = search call := hereToo
          rfl

namespace Operation

variable {operation exchanged : Operation α} {continuation other : α → Operation β}
  {outcome : Except Error β}

theorem Runs.bind_exchange (runs : Runs (operation >>= continuation) before contacts outcome after)
    (start : ∀ first result between second, contacts = first ++ second →
      Runs operation before first result between → Runs exchanged before first result between)
    (next : ∀ first value between second, contacts = first ++ second →
      Runs operation before first (.ok value) between →
      Runs (continuation value) between second outcome after →
      Runs (other value) between second outcome after) :
    Runs (exchanged >>= other) before contacts outcome after := by
  rcases runs_bind_iff.mp runs with ⟨error, rfl, fails⟩ |
      ⟨first, second, value, between, rfl, early, late⟩
  · have failed := start contacts _ after [] (List.append_nil contacts).symm fails
    exact runs_bind_iff.mpr (Or.inl ⟨error, rfl, failed⟩)
  · have passed := start first _ between second rfl early
    have rest := next first value between second rfl early late
    exact runs_bind_iff.mpr (Or.inr ⟨first, second, value, between, rfl, passed, rest⟩)

theorem Runs.next_exchange (runs : Runs (operation >>= continuation) before contacts outcome after)
    (next : ∀ first value between second, contacts = first ++ second →
      Runs operation before first (.ok value) between →
      Runs (continuation value) between second outcome after →
      Runs (other value) between second outcome after) :
    Runs (operation >>= other) before contacts outcome after :=
  runs.bind_exchange (fun _ _ _ _ _ => id) next

theorem Immediate.exchange {result : Except Error α} (immediate : Immediate operation result)
    (runs : Runs (operation >>= continuation) before contacts outcome after)
    (exchange : ∀ value between, result = .ok value → Alike before between →
      Runs (continuation value) between contacts outcome after →
      Runs (other value) between contacts outcome after) :
    Runs (operation >>= other) before contacts outcome after := by
  refine runs.next_exchange fun first value between second split passes late => ?_
  obtain ⟨rfl, given, alike⟩ := immediate.runs passes
  obtain rfl : contacts = second := split
  exact exchange value between given.symm alike late

theorem Runs.map_exchange {change : α → β} (runs : Runs (change <$> operation) before contacts
      outcome after)
    (exchange : ∀ result, Runs operation before contacts result after →
      Runs exchanged before contacts result after) :
    Runs (change <$> exchanged) before contacts outcome after := by
  obtain ⟨result, rfl, inner⟩ := runs_map_iff.mp runs
  exact runs_map_iff.mpr ⟨result, rfl, exchange result inner⟩

theorem Runs.recordingFailure_exchange {result : Except Error α}
    (runs : Runs (recordingFailure operation) before contacts result after)
    (exchange : ∀ result between, Runs operation before contacts result between →
      Runs exchanged before contacts result between) :
    Runs (recordingFailure exchanged) before contacts result after := by
  rcases runs_tryCatch_iff.mp runs with ⟨value, rfl, passed⟩ |
      ⟨first, second, error, between, rfl, failed, rest⟩
  · exact runs_tryCatch_iff.mpr (Or.inl ⟨value, rfl, exchange _ _ passed⟩)
  · obtain ⟨rfl, -, -⟩ := runs_throw_iff.mp (runs_enter_bind_iff.mp rest)
    rw [List.append_nil] at exchange
    exact runs_tryCatch_iff.mpr
      (Or.inr ⟨first, [], error, between, rfl, exchange _ _ failed, rest⟩)

theorem Runs.timing_exchange {kind : Timing} {result : Except Error α}
    (runs : Runs (timing kind operation) before contacts result after)
    (exchange : ∀ between, Runs operation before contacts result between →
      Runs exchanged before contacts result between) :
    Runs (timing kind exchanged) before contacts result after := by
  obtain ⟨_, _, session, _, rfl, reads, timed⟩ := Activity.runs_bind_iff.mp runs
  obtain ⟨own, rest, inner, between, rfl, operates, recording⟩ := Activity.runs_bind_iff.mp timed
  obtain ⟨rfl, rfl, rfl⟩ := Activity.runs_get_iff.mp reads
  obtain ⟨rfl, finished⟩ := Plan.runs_done_iff.mp recording
  obtain rfl := congrArg Prod.fst finished
  rw [List.nil_append, List.append_nil] at exchange
  refine Activity.runs_bind_iff.mpr ⟨[], own ++ [], _, _, rfl, reads, ?_⟩
  exact Activity.runs_bind_iff.mpr ⟨own, [], _, between, rfl, exchange between operates, recording⟩

theorem Immediate.absorbs {error : Error} (fails : Immediate operation (.error error))
    (continuation other : α → Operation β) : operation >>= continuation = operation >>= other := by
  obtain ⟨events, done⟩ := fails
  funext session
  change Plan.andThen (operation.run.run session) _ = Plan.andThen (operation.run.run session) _
  rw [done]
  rfl

end Operation

end AnalystQuery.Pipeline
