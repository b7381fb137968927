import AnalystQuery.Pipeline.Session

/-! Runs of plans, activities and operations: the calls that are made, with what is answered, and
how the run ends. For each way of composing there is a lemma that takes a run apart. Relations
between the sessions before and after a run that hold of the parts hold of the whole. -/

namespace AnalystQuery.Pipeline

inductive Contact where
  | asked (call : Reasoning.Call) (reply : Reasoning.Reply)
  | searched (call : Search.Call) (reply : Search.Reply)

/-- The reply is the one that the functions give. -/
def Contact.Follows (ask : Reasoning.Call → Reasoning.Reply)
    (search : Search.Call → Search.Reply) : Contact → Prop
  | .asked call reply => reply = ask call
  | .searched call reply => reply = search call

variable {α β : Type} {contacts : List Contact}

namespace Plan

/-- A plan can make these calls, and with these replies it gives this value. -/
inductive Runs : Plan α → List Contact → α → Prop where
  | done (value : α) : Runs (.done value) [] value
  | ask (call : Reasoning.Call) (next : Reasoning.Reply → Plan α) (reply : Reasoning.Reply)
      {contacts : List Contact} {value : α} (later : Runs (next reply) contacts value) :
      Runs (.ask call next) (.asked call reply :: contacts) value
  | search (call : Search.Call) (next : Search.Reply → Plan α) (reply : Search.Reply)
      {contacts : List Contact} {value : α} (later : Runs (next reply) contacts value) :
      Runs (.search call next) (.searched call reply :: contacts) value

theorem runs_done_iff {value other : α} :
    (Plan.done value).Runs contacts other ↔ contacts = [] ∧ other = value := by
  constructor
  · intro runs
    cases runs
    exact ⟨rfl, rfl⟩
  · rintro ⟨rfl, rfl⟩
    exact .done other

theorem runs_andThen_iff {plan : Plan α} {continuation : α → Plan β} {value : β} :
    (plan.andThen continuation).Runs contacts value ↔
      ∃ first second middle, contacts = first ++ second ∧ plan.Runs first middle ∧
        (continuation middle).Runs second value := by
  constructor
  · intro runs
    induction plan generalizing contacts with
    | done middle => exact ⟨[], contacts, middle, rfl, .done middle, runs⟩
    | ask call next ih =>
      cases runs with
      | ask _ _ reply later =>
        obtain ⟨first, second, middle, rfl, before, after⟩ := ih reply later
        exact ⟨_ :: first, second, middle, rfl, .ask call next reply before, after⟩
    | search call next ih =>
      cases runs with
      | search _ _ reply later =>
        obtain ⟨first, second, middle, rfl, before, after⟩ := ih reply later
        exact ⟨_ :: first, second, middle, rfl, .search call next reply before, after⟩
  · rintro ⟨first, second, middle, rfl, before, after⟩
    induction before with
    | done middle => exact after
    | ask call next reply later ih => exact .ask call _ reply (ih after)
    | search call next reply later ih => exact .search call _ reply (ih after)

/-- What a plan gives where replies are functions of the calls. -/
def answered (plan : Plan α) (ask : Reasoning.Call → Reasoning.Reply)
    (search : Search.Call → Search.Reply) : α :=
  Id.run (plan.perform (fun call => pure (ask call)) fun call => pure (search call))

theorem runs_answered (plan : Plan α) (ask : Reasoning.Call → Reasoning.Reply)
    (search : Search.Call → Search.Reply) :
    ∃ contacts, plan.Runs contacts (plan.answered ask search) ∧
      ∀ contact ∈ contacts, contact.Follows ask search := by
  induction plan with
  | done value => exact ⟨[], .done value, List.forall_mem_nil _⟩
  | ask call next ih =>
    obtain ⟨contacts, runs, follow⟩ := ih (ask call)
    exact ⟨_, .ask call next (ask call) runs, List.forall_mem_cons.mpr ⟨rfl, follow⟩⟩
  | search call next ih =>
    obtain ⟨contacts, runs, follow⟩ := ih (search call)
    exact ⟨_, .search call next (search call) runs, List.forall_mem_cons.mpr ⟨rfl, follow⟩⟩

theorem answered_andThen (plan : Plan α) (continuation : α → Plan β)
    (ask : Reasoning.Call → Reasoning.Reply) (search : Search.Call → Search.Reply) :
    (plan.andThen continuation).answered ask search =
      (continuation (plan.answered ask search)).answered ask search := by
  induction plan with
  | done value => rfl
  | ask call next ih => exact ih (ask call)
  | search call next ih => exact ih (search call)

end Plan

variable {before after : Session}

namespace Activity

def Runs (activity : Activity α) (before : Session) (contacts : List Contact) (value : α)
    (after : Session) : Prop :=
  (activity.run before).Runs contacts (value, after)

variable {activity : Activity α} {value : α}

theorem runs_pure_iff {other : α} :
    Runs (pure value : Activity α) before contacts other after ↔
      contacts = [] ∧ other = value ∧ after = before := by
  rw [Runs]
  change (Plan.done (value, before)).Runs contacts (other, after) ↔ _
  rw [Plan.runs_done_iff, Prod.mk.injEq]

theorem runs_bind_iff {continuation : α → Activity β} {result : β} :
    Runs (activity >>= continuation) before contacts result after ↔
      ∃ first second middle between, contacts = first ++ second ∧
        Runs activity before first middle between ∧
        Runs (continuation middle) between second result after := by
  rw [Runs]
  change Plan.Runs (Plan.andThen (activity.run before) fun outcome =>
    (continuation outcome.1).run outcome.2) _ _ ↔ _
  rw [Plan.runs_andThen_iff]
  simp only [Prod.exists, Runs]

theorem runs_get_iff {session : Session} :
    Runs get before contacts session after ↔
      contacts = [] ∧ session = before ∧ after = before := by
  rw [Runs]
  change (Plan.done (before, before)).Runs contacts (session, after) ↔ _
  rw [Plan.runs_done_iff, Prod.mk.injEq]

theorem runs_modify_iff {change : Session → Session} {nothing : Unit} :
    Runs (modify change) before contacts nothing after ↔ contacts = [] ∧ after = change before := by
  rw [Runs]
  change (Plan.done ((), change before)).Runs contacts (nothing, after) ↔ _
  rw [Plan.runs_done_iff, Prod.mk.injEq]
  simp

theorem runs_ask_iff {call : Reasoning.Call} {reply : Reasoning.Reply} :
    Runs (ask call) before contacts reply after ↔
      contacts = [.asked call reply] ∧ after = before := by
  rw [Runs]
  change (Plan.ask call fun reply => Plan.done (reply, before)).Runs contacts (reply, after) ↔ _
  constructor
  · intro runs
    cases runs with
    | ask _ _ given later =>
      cases later
      exact ⟨rfl, rfl⟩
  · rintro ⟨rfl, rfl⟩
    exact .ask call _ reply (.done _)

theorem runs_startSearch_iff {call : Search.Call} {reply : Search.Reply} :
    Runs (startSearch call) before contacts reply after ↔
      contacts = [.searched call reply] ∧ after = before := by
  rw [Runs]
  change (Plan.search call fun reply => Plan.done (reply, before)).Runs contacts
    (reply, after) ↔ _
  constructor
  · intro runs
    cases runs with
    | search _ _ given later =>
      cases later
      exact ⟨rfl, rfl⟩
  · rintro ⟨rfl, rfl⟩
    exact .search call _ reply (.done _)

theorem exists_runs (activity : Activity α) (before : Session)
    (ask : Reasoning.Call → Reasoning.Reply) (search : Search.Call → Search.Reply) :
    ∃ contacts value after, Runs activity before contacts value after ∧
      ∀ contact ∈ contacts, contact.Follows ask search := by
  obtain ⟨contacts, runs, follow⟩ := Plan.runs_answered (activity.run before) ask search
  exact ⟨contacts, _, _, runs, follow⟩

end Activity

namespace Operation

def Runs (operation : Operation α) (before : Session) (contacts : List Contact)
    (outcome : Except Error α) (after : Session) : Prop :=
  Activity.Runs operation.run before contacts outcome after

variable {operation : Operation α} {outcome : Except Error α}

theorem runs_pure_iff {value : α} :
    Runs (pure value : Operation α) before contacts outcome after ↔
      contacts = [] ∧ outcome = .ok value ∧ after = before := Activity.runs_pure_iff

theorem runs_throw_iff {error : Error} :
    Runs (throw error : Operation α) before contacts outcome after ↔
      contacts = [] ∧ outcome = .error error ∧ after = before := Activity.runs_pure_iff

theorem runs_lift_iff {activity : Activity α} :
    Runs (activity : Operation α) before contacts outcome after ↔
      ∃ value, outcome = .ok value ∧ activity.Runs before contacts value after := by
  rw [Runs]
  change Activity.Runs (activity >>= fun value => pure (Except.ok value)) _ _ _ _ ↔ _
  rw [Activity.runs_bind_iff]
  simp only [Activity.runs_pure_iff]
  constructor
  · rintro ⟨first, second, value, between, rfl, runs, rfl, rfl, rfl⟩
    exact ⟨value, rfl, (List.append_nil first).symm ▸ runs⟩
  · rintro ⟨value, rfl, runs⟩
    exact ⟨contacts, [], value, after, (List.append_nil _).symm, runs, rfl, rfl, rfl⟩

/-- How a composed operation ends: as its first part fails, or as the rest ends. -/
theorem runs_bind_iff {continuation : α → Operation β} {result : Except Error β} :
    Runs (operation >>= continuation) before contacts result after ↔
      (∃ error, result = .error error ∧ operation.Runs before contacts (.error error) after) ∨
      ∃ first second value between, contacts = first ++ second ∧
        operation.Runs before first (.ok value) between ∧
        (continuation value).Runs between second result after := by
  rw [Runs]
  change Activity.Runs (operation.run >>= ExceptT.bindCont continuation) _ _ _ _ ↔ _
  rw [Activity.runs_bind_iff]
  constructor
  · rintro ⟨first, second, outcome, between, rfl, runs, rest⟩
    cases outcome with
    | error error =>
      obtain ⟨rfl, rfl, rfl⟩ := Activity.runs_pure_iff.mp rest
      exact Or.inl ⟨error, rfl, (List.append_nil first).symm ▸ runs⟩
    | ok value => exact Or.inr ⟨first, second, value, between, rfl, runs, rest⟩
  · rintro (⟨error, rfl, runs⟩ | ⟨first, second, value, between, rfl, runs, rest⟩)
    · exact ⟨contacts, [], .error error, after, (List.append_nil _).symm, runs,
        Activity.runs_pure_iff.mpr ⟨rfl, rfl, rfl⟩⟩
    · exact ⟨first, second, .ok value, between, rfl, runs, rest⟩

theorem runs_map_iff {change : α → β} {result : Except Error β} :
    Runs (change <$> operation) before contacts result after ↔
      ∃ outcome, result = outcome.map change ∧ operation.Runs before contacts outcome after := by
  refine Plan.runs_andThen_iff.trans ?_
  constructor
  · rintro ⟨first, second, ⟨outcome, between⟩, rfl, runs, rest⟩
    refine ⟨outcome, ?_⟩
    cases outcome with
    | ok value =>
      obtain ⟨rfl, rfl, rfl⟩ := runs_pure_iff.mp rest
      exact ⟨rfl, (List.append_nil first).symm ▸ runs⟩
    | error error =>
      obtain ⟨rfl, rfl, rfl⟩ := runs_throw_iff.mp rest
      exact ⟨rfl, (List.append_nil first).symm ▸ runs⟩
  · rintro ⟨outcome, rfl, runs⟩
    refine ⟨contacts, [], (outcome, after), (List.append_nil _).symm, runs, ?_⟩
    cases outcome with
    | ok value => exact runs_pure_iff.mpr ⟨rfl, rfl, rfl⟩
    | error error => exact runs_throw_iff.mpr ⟨rfl, rfl, rfl⟩

theorem runs_tryCatch_iff {handler : Error → Operation α} :
    Runs (tryCatch operation handler) before contacts outcome after ↔
      (∃ value, outcome = .ok value ∧ operation.Runs before contacts (.ok value) after) ∨
      ∃ first second error between, contacts = first ++ second ∧
        operation.Runs before first (.error error) between ∧
        (handler error).Runs between second outcome after := by
  rw [Runs]
  refine Plan.runs_andThen_iff.trans ?_
  constructor
  · rintro ⟨first, second, ⟨inner, between⟩, rfl, runs, rest⟩
    cases inner with
    | ok value =>
      obtain ⟨rfl, rfl, rfl⟩ := runs_pure_iff.mp rest
      exact Or.inl ⟨value, rfl, (List.append_nil first).symm ▸ runs⟩
    | error error => exact Or.inr ⟨first, second, error, between, rfl, runs, rest⟩
  · rintro (⟨value, rfl, runs⟩ | ⟨first, second, error, between, rfl, runs, rest⟩)
    · exact ⟨contacts, [], (.ok value, after), (List.append_nil _).symm, runs,
        runs_pure_iff.mpr ⟨rfl, rfl, rfl⟩⟩
    · exact ⟨first, second, (.error error, between), rfl, runs, rest⟩

theorem exists_runs (operation : Operation α) (before : Session)
    (ask : Reasoning.Call → Reasoning.Reply) (search : Search.Call → Search.Reply) :
    ∃ contacts outcome after, Runs operation before contacts outcome after ∧
      ∀ contact ∈ contacts, contact.Follows ask search :=
  Activity.exists_runs operation.run before ask search

end Operation

/-- A relation between sessions along the contacts between them. -/
abbrev Passage := Session → List Contact → Session → Prop

/-- The relation holds where nothing happens, and of a run if it holds of the parts. -/
structure Passage.Composes (passage : Passage) : Prop where
  stay : ∀ session, passage session [] session
  join : ∀ {before between after : Session} {first second : List Contact},
    passage before first between → passage between second after →
      passage before (first ++ second) after

namespace Activity

def Obeys (passage : Passage) (activity : Activity α) : Prop :=
  ∀ before contacts value after, activity.Runs before contacts value after →
    passage before contacts after

variable {passage : Passage} {activity : Activity α}

variable (composes : passage.Composes)
include composes

theorem obeys_pure (value : α) : Obeys passage (pure value : Activity α) := by
  intro before contacts other after runs
  obtain ⟨rfl, -, rfl⟩ := runs_pure_iff.mp runs
  exact composes.stay after

theorem obeys_get : Obeys passage get := by
  intro before contacts session after runs
  obtain ⟨rfl, -, rfl⟩ := runs_get_iff.mp runs
  exact composes.stay after

theorem obeys_bind {continuation : α → Activity β} (first : Obeys passage activity)
    (later : ∀ value, Obeys passage (continuation value)) :
    Obeys passage (activity >>= continuation) := by
  intro before contacts result after runs
  obtain ⟨_, _, value, between, rfl, early, late⟩ := runs_bind_iff.mp runs
  exact composes.join (first _ _ _ _ early) (later value _ _ _ _ late)

end Activity

namespace Operation

def Obeys (passage : Passage) (operation : Operation α) : Prop :=
  Activity.Obeys passage operation.run

variable {passage : Passage} (composes : passage.Composes) {operation : Operation α}
include composes

theorem obeys_pure (value : α) : Obeys passage (pure value : Operation α) :=
  Activity.obeys_pure composes _

theorem obeys_throw (error : Error) : Obeys passage (throw error : Operation α) :=
  Activity.obeys_pure composes _

theorem obeys_lift {activity : Activity α} (obeys : activity.Obeys passage) :
    Obeys passage (activity : Operation α) :=
  Activity.obeys_bind composes obeys fun _ => Activity.obeys_pure composes _

theorem obeys_bind {continuation : α → Operation β} (first : Obeys passage operation)
    (later : ∀ value, Obeys passage (continuation value)) :
    Obeys passage (operation >>= continuation) := by
  refine Activity.obeys_bind composes first fun outcome => ?_
  cases outcome with
  | ok value => exact later value
  | error error => exact Activity.obeys_pure composes _

omit composes in
theorem obeys_map (change : α → β) (obeys : Obeys passage operation) :
    Obeys passage (change <$> operation) := by
  intro before contacts result after runs
  obtain ⟨outcome, -, runs⟩ := runs_map_iff.mp runs
  exact obeys _ _ _ _ runs

theorem obeys_tryCatch {handler : Error → Operation α} (body : Obeys passage operation)
    (handled : ∀ error, Obeys passage (handler error)) :
    Obeys passage (tryCatch operation handler) := by
  intro before contacts outcome after runs
  rcases runs_tryCatch_iff.mp runs with ⟨value, rfl, passed⟩ |
      ⟨first, second, error, between, rfl, failed, rest⟩
  · exact body _ _ _ _ passed
  · exact composes.join (body _ _ _ _ failed) (handled error _ _ _ _ rest)

end Operation

end AnalystQuery.Pipeline
