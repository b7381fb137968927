import AnalystQuery.Reasoning.Call
import AnalystQuery.Search.Basic

/-! Plans: what is done in terms of calls to the language model and the search engine, whatever
these answer. A plan that is carried out gives the same calls to any pair of them. -/

namespace AnalystQuery.Pipeline

/-- A computation that may ask the language model and the search engine. -/
inductive Plan (α : Type) where
  | done (value : α)
  | ask (call : Reasoning.Call) (next : Reasoning.Reply → Plan α)
  | search (call : Search.Call) (next : Search.Reply → Plan α)

namespace Plan

variable {α β : Type}

def andThen : Plan α → (α → Plan β) → Plan β
  | done value, continuation => continuation value
  | ask call next, continuation => ask call fun reply => (next reply).andThen continuation
  | search call next, continuation => search call fun reply => (next reply).andThen continuation

instance : Monad Plan where
  pure := done
  bind := andThen

/-- Carries out a plan with the means to make its calls. -/
def perform {m : Type → Type} [Monad m] (ask : Reasoning.Call → m Reasoning.Reply)
    (search : Search.Call → m Search.Reply) : Plan α → m α
  | .done value => pure value
  | .ask call next => do (next (← ask call)).perform ask search
  | .search call next => do (next (← search call)).perform ask search

end Plan

end AnalystQuery.Pipeline
