import AnalystQuery.Pipeline.Plan
import AnalystQuery.Reasoning.ChatModel
import AnalystQuery.Search.Engine

/-! Carrying out plans over the network: every call becomes one request. -/

namespace AnalystQuery.Pipeline

/-- How a request ended, and after how many milliseconds. -/
structure Exchange where
  delay : Nat
  reply : Http.Reply

/-- Sends a request unless it cannot be sent. `post` waits at most for the milliseconds given. -/
def send {m : Type → Type} [Monad m] (post : Http.Request → Nat → m Exchange)
    (request : Http.Request) (patience : Nat) : m Exchange :=
  match request.fault? with
  | some fault => pure ⟨0, .unsendable fault⟩
  | none => post request patience

def askModel {m : Type → Type} [Monad m] (post : Http.Request → Nat → m Exchange)
    (model : Reasoning.ChatModel) (choices : Reasoning.Choices) (call : Reasoning.Call) :
    m Reasoning.Reply := do
  let request := model.request call choices
  let exchange ← send post request model.patience
  pure ⟨exchange.delay, Reasoning.ChatModel.outcome request exchange.reply⟩

def askEngine {m : Type → Type} [Monad m] (post : Http.Request → Nat → m Exchange)
    (settings : Settings.Search) (call : Search.Call) : m Search.Reply := do
  let request := call.request settings
  let exchange ← send post request (1000 * settings.timeoutSeconds)
  pure ⟨exchange.delay, Search.outcome settings request exchange.reply⟩

/-- The model of the settings. An answer behind the longest deadline is of no use, so it is not
waited for. -/
def modelOf (settings : Settings) (environmentKey : Option String) : Reasoning.ChatModel :=
  let deadlines := settings.reasoning
  { Reasoning.ChatModel.ofSettings deadlines environmentKey with
    patience := max deadlines.timeoutMillis deadlines.summaryTimeoutMillis }

def Plan.performOverNetwork {m : Type → Type} [Monad m] {α : Type}
    (post : Http.Request → Nat → m Exchange) (settings : Settings)
    (environmentKey : Option String) (plan : Plan α) : m α :=
  plan.perform (askModel post (modelOf settings environmentKey) .none)
    (askEngine post settings.search)

end AnalystQuery.Pipeline
