import AnalystQuery.Error
import AnalystQuery.Number.Binary

/-! Calls of the language model, each with a deadline. -/

namespace AnalystQuery.Reasoning

open Number (Single)

structure Call where
  prompt : String
  instructions : Option String
  rateLimitKey : Option String
  deriving DecidableEq, Repr

structure Choices where
  temperature : Option Single
  maxTokens : Option Nat
  deriving DecidableEq, Repr

def Choices.none : Choices := ⟨Option.none, Option.none⟩

/-- How a call settles: after how many milliseconds, and with what. -/
structure Reply where
  delay : Nat
  outcome : Except ReasoningError String

/-- What the caller sees of a reply: one that is not there before the deadline is never used. -/
def Reply.within (reply : Reply) (deadline : Nat) : Except ReasoningError String :=
  if reply.delay < deadline then reply.outcome else .error (.timeout deadline)

def Reply.isLate (reply : Reply) (deadline : Nat) : Bool := deadline ≤ reply.delay

end AnalystQuery.Reasoning
