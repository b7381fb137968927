import AnalystQuery.Pipeline.Session

/-! The search calls that plans make. `Ensures` is a calculus for them: it says of a plan, whatever
is answered, that each of its search calls is permitted and that its value satisfies a
postcondition, with one rule for each way in which activities and operations are composed. -/

namespace AnalystQuery.Pipeline

variable {α β : Type} {permitted : Search.Call → Prop}

namespace Plan

/-- Some answers of the language model and the search engine lead a plan to make a search call. -/
inductive Issues : Plan α → Search.Call → Prop where
  | now (call : Search.Call) (next : Search.Reply → Plan α) : Issues (.search call next) call
  | afterAsk (asked : Reasoning.Call) (next : Reasoning.Reply → Plan α) (reply : Reasoning.Reply)
      {call : Search.Call} (later : Issues (next reply) call) : Issues (.ask asked next) call
  | afterSearch (searched : Search.Call) (next : Search.Reply → Plan α) (reply : Search.Reply)
      {call : Search.Call} (later : Issues (next reply) call) : Issues (.search searched next) call

/-- Whatever is answered, a plan makes permitted search calls only and its value satisfies the
postcondition. -/
def Ensures (permitted : Search.Call → Prop) (post : α → Prop) : Plan α → Prop
  | .done value => post value
  | .ask _ next => ∀ reply, (next reply).Ensures permitted post
  | .search call next => permitted call ∧ ∀ reply, (next reply).Ensures permitted post

theorem Ensures.permitted_of_issues {post : α → Prop} {plan : Plan α} {call : Search.Call}
    (ensures : plan.Ensures permitted post) (issues : plan.Issues call) : permitted call := by
  induction issues with
  | now call next => exact ensures.1
  | afterAsk asked next reply later ih => exact ih (ensures reply)
  | afterSearch searched next reply later ih => exact ih (ensures.2 reply)

theorem Ensures.mono {first second : α → Prop} {plan : Plan α}
    (ensures : plan.Ensures permitted first) (weaker : ∀ value, first value → second value) :
    plan.Ensures permitted second := by
  induction plan with
  | done value => exact weaker value ensures
  | ask call next ih => exact fun reply => ih reply (ensures reply)
  | search call next ih => exact ⟨ensures.1, fun reply => ih reply (ensures.2 reply)⟩

theorem Ensures.weaken {stricter : Search.Call → Prop} {post : α → Prop} {plan : Plan α}
    (ensures : plan.Ensures stricter post) (weaker : ∀ call, stricter call → permitted call) :
    plan.Ensures permitted post := by
  induction plan with
  | done value => exact ensures
  | ask call next ih => exact fun reply => ih reply (ensures reply)
  | search call next ih =>
    exact ⟨weaker call ensures.1, fun reply => ih reply (ensures.2 reply)⟩

theorem Ensures.andThen {middle : α → Prop} {post : β → Prop} {plan : Plan α}
    {continuation : α → Plan β} (first : plan.Ensures permitted middle)
    (later : ∀ value, middle value → (continuation value).Ensures permitted post) :
    (plan.andThen continuation).Ensures permitted post := by
  induction plan with
  | done value => exact later value first
  | ask call next ih => exact fun reply => ih reply (first reply)
  | search call next ih => exact ⟨first.1, fun reply => ih reply (first.2 reply)⟩

end Plan

namespace Activity

/-- In every session, an activity makes permitted search calls only and gives a value that
satisfies the postcondition. -/
structure Ensures (permitted : Search.Call → Prop) (activity : Activity α) (post : α → Prop) :
    Prop where
  inSession : ∀ session, (activity.run session).Ensures permitted fun outcome => post outcome.1

variable {activity : Activity α} {post : α → Prop}

theorem Ensures.mono {weaker : α → Prop} (ensures : Ensures permitted activity post)
    (weakens : ∀ value, post value → weaker value) : Ensures permitted activity weaker :=
  ⟨fun session => (ensures.inSession session).mono fun outcome => weakens outcome.1⟩

theorem ensures_pure {value : α} (holds : post value) :
    Ensures permitted (pure value : Activity α) post := ⟨fun _ => holds⟩

theorem ensures_bind {middle : α → Prop} {post : β → Prop} {continuation : α → Activity β}
    (first : Ensures permitted activity middle)
    (later : ∀ value, middle value → Ensures permitted (continuation value) post) :
    Ensures permitted (activity >>= continuation) post :=
  ⟨fun session => (first.inSession session).andThen fun outcome holds =>
    (later outcome.1 holds).inSession outcome.2⟩

theorem ensures_get : Ensures permitted (get : Activity Session) fun _ => True :=
  ⟨fun _ => True.intro⟩

theorem ensures_modify (change : Session → Session) :
    Ensures permitted (modify change : Activity Unit) fun _ => True := ⟨fun _ => True.intro⟩

theorem ensures_ask (call : Reasoning.Call) :
    Ensures permitted (ask call) fun _ => True := ⟨fun _ _ => True.intro⟩

theorem ensures_startSearch {call : Search.Call} (holds : permitted call) :
    Ensures permitted (startSearch call) fun _ => True :=
  ⟨fun _ => ⟨holds, fun _ => True.intro⟩⟩

theorem ensures_forM {items : List α} {body : α → Activity Unit}
    (each : ∀ item ∈ items, Ensures permitted (body item) fun _ => True) :
    Ensures permitted (items.forM body) fun _ => True := by
  induction items with
  | nil => exact ensures_pure True.intro
  | cons item rest ih =>
    refine ensures_bind (each item List.mem_cons_self) fun _ _ => ?_
    exact ih fun other member => each other (List.mem_cons_of_mem item member)

def Quiet (activity : Activity α) : Prop := Ensures (fun _ => False) activity fun _ => True

theorem Quiet.ensures (quiet : Quiet activity) : Ensures permitted activity fun _ => True :=
  ⟨fun session => (quiet.inSession session).weaken fun _ never => never.elim⟩

theorem quiet_pure (value : α) : Quiet (pure value : Activity α) := ensures_pure True.intro

theorem quiet_bind {continuation : α → Activity β} (first : Quiet activity)
    (later : ∀ value, Quiet (continuation value)) : Quiet (activity >>= continuation) :=
  ensures_bind first fun value _ => later value

theorem quiet_ite {condition : Prop} [Decidable condition] {first second : Activity α}
    (holds : Quiet first) (fails : Quiet second) : Quiet (if condition then first else second) := by
  split
  · exact holds
  · exact fails

end Activity

namespace Operation

/-- In every session, an operation makes permitted search calls only and, unless it fails, gives a
value that satisfies the postcondition. -/
def Ensures (permitted : Search.Call → Prop) (operation : Operation α) (post : α → Prop) : Prop :=
  Activity.Ensures permitted operation.run fun outcome => ∀ value, outcome = .ok value → post value

variable {operation : Operation α} {post : α → Prop}

theorem Ensures.mono {weaker : α → Prop} (ensures : Ensures permitted operation post)
    (weakens : ∀ value, post value → weaker value) : Ensures permitted operation weaker :=
  Activity.Ensures.mono ensures fun _ holds value same => weakens value (holds value same)

theorem ensures_pure {value : α} (holds : post value) :
    Ensures permitted (pure value : Operation α) post :=
  Activity.ensures_pure fun _ same => Except.ok.inj same ▸ holds

theorem ensures_throw (error : Error) : Ensures permitted (throw error : Operation α) post :=
  Activity.ensures_pure fun _ same => by cases same

theorem ensures_bind {middle : α → Prop} {post : β → Prop} {continuation : α → Operation β}
    (first : Ensures permitted operation middle)
    (later : ∀ value, middle value → Ensures permitted (continuation value) post) :
    Ensures permitted (operation >>= continuation) post := by
  refine Activity.ensures_bind first fun outcome holds => ?_
  cases outcome with
  | error error => exact Activity.ensures_pure fun _ same => by cases same
  | ok value => exact later value (holds value rfl)

theorem ensures_lift {activity : Activity α} (ensures : Activity.Ensures permitted activity post) :
    Ensures permitted (activity : Operation α) post := by
  refine ⟨fun session => (ensures.inSession session).andThen fun outcome holds => ?_⟩
  exact fun _ same => Except.ok.inj same ▸ holds

theorem ensures_map {result : β → Prop} (change : α → β)
    (ensures : Ensures permitted operation post)
    (holds : ∀ value, post value → result (change value)) :
    Ensures permitted (change <$> operation) result := by
  refine ⟨fun session => (ensures.inSession session).andThen ?_⟩
  rintro ⟨outcome, after⟩ valued
  cases outcome with
  | error error => exact fun _ same => by cases same
  | ok value => exact fun _ same => Except.ok.inj same ▸ holds value (valued value rfl)

theorem ensures_tryCatch {handler : Error → Operation α} (body : Ensures permitted operation post)
    (handled : ∀ error, Ensures permitted (handler error) post) :
    Ensures permitted (tryCatch operation handler) post := by
  refine ⟨fun session => (body.inSession session).andThen ?_⟩
  rintro ⟨outcome, after⟩ holds
  cases outcome with
  | error error => exact (handled error).inSession after
  | ok value => exact holds

def Quiet (operation : Operation α) : Prop := Ensures (fun _ => False) operation fun _ => True

theorem Quiet.ensures (quiet : Quiet operation) : Ensures permitted operation fun _ => True :=
  ⟨fun session => (quiet.inSession session).weaken fun _ never => never.elim⟩

theorem quiet_pure (value : α) : Quiet (pure value : Operation α) := ensures_pure True.intro

theorem quiet_throw (error : Error) : Quiet (throw error : Operation α) := ensures_throw error

theorem quiet_bind {continuation : α → Operation β} (first : Quiet operation)
    (later : ∀ value, Quiet (continuation value)) : Quiet (operation >>= continuation) :=
  ensures_bind first fun value _ => later value

theorem quiet_lift {activity : Activity α} (quiet : Activity.Quiet activity) :
    Quiet (activity : Operation α) := ensures_lift quiet

end Operation

end AnalystQuery.Pipeline
