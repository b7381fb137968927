import AnalystQuery.Proofs.Pipeline.Runs
import Mathlib.Data.List.Forall2

/-! How the language model is asked. Calls that were postponed begin as soon as something is waited
for, each once and in order. A call is made behind them, or is postponed itself where there is no
time to wait for its answer. -/

namespace AnalystQuery.Pipeline

variable {contacts : List Contact} {before after : Session}

/-- These calls begin in this order, each with some reply. -/
def Begun (calls : List Reasoning.Call) (contacts : List Contact) : Prop :=
  List.Forall₂ (fun call contact => ∃ reply, contact = .asked call reply) calls contacts

theorem Begun.exists_call {calls : List Reasoning.Call} (begun : Begun calls contacts) :
    ∀ contact ∈ contacts, ∃ call ∈ calls, ∃ reply, contact = .asked call reply := by
  induction begun with
  | nil => exact List.forall_mem_nil _
  | @cons call _ _ _ first rest ih =>
    obtain ⟨reply, rfl⟩ := first
    intro contact member
    rcases List.mem_cons.mp member with rfl | later
    · exact ⟨call, List.mem_cons_self, reply, rfl⟩
    · obtain ⟨other, listed, given⟩ := ih contact later
      exact ⟨other, List.mem_cons_of_mem call listed, given⟩

/-- Whether the postponed calls begin: the contacts, and the calls that are postponed afterwards. -/
inductive Catches (postponed : List Reasoning.Call) :
    List Contact → List Reasoning.Call → Prop where
  | none : Catches postponed [] postponed
  | all {contacts : List Contact} (begun : Begun postponed contacts) :
      Catches postponed contacts []

theorem Catches.of_nil {left : List Reasoning.Call} (catches : Catches [] contacts left) :
    contacts = [] ∧ left = [] := by
  cases catches with
  | none => exact ⟨rfl, rfl⟩
  | all begun => exact ⟨List.forall₂_nil_left_iff.mp begun, rfl⟩

/-- What becomes of a call with a deadline: the contacts, what is heard, and the calls that are
postponed afterwards. -/
inductive Asks (deadline : Nat) (call : Reasoning.Call) (postponed : List Reasoning.Call) :
    List Contact → Except ReasoningError String → List Reasoning.Call → Prop where
  | givenUp (timeless : deadline = 0) :
      Asks deadline call postponed [] (.error (.timeout 0)) (postponed ++ [call])
  | made {contacts : List Contact} (reply : Reasoning.Reply) (hopeful : 0 < deadline)
      (begun : Begun postponed contacts) :
      Asks deadline call postponed (contacts ++ [.asked call reply]) (reply.within deadline) []

theorem Asks.asked_of_ok {deadline : Nat} {call : Reasoning.Call}
    {postponed left : List Reasoning.Call} {answer : String}
    (asks : Asks deadline call postponed contacts (.ok answer) left) :
    ∃ reply, .asked call reply ∈ contacts ∧ reply.within deadline = .ok answer := by
  generalize given : (.ok answer : Except ReasoningError String) = heard at asks
  cases asks with
  | givenUp => cases given
  | made reply => exact ⟨reply, List.mem_append_right _ List.mem_cons_self, rfl⟩

/-- Two calls with one deadline are heard alike if their replies are, where both are made. -/
theorem Asks.heard_eq {deadline : Nat} {call other : Reasoning.Call}
    {postponed waiting left remaining : List Reasoning.Call} {others : List Contact}
    {heard given : Except ReasoningError String}
    (asks : Asks deadline call postponed contacts heard left)
    (also : Asks deadline other waiting others given remaining)
    (alike : ∀ reply answer, contacts.getLast? = some (.asked call reply) →
      others.getLast? = some (.asked other answer) →
      reply.within deadline = answer.within deadline) : heard = given := by
  cases asks with
  | givenUp timeless =>
    cases also with
    | givenUp => rfl
    | made reply hopeful => exact absurd timeless (Nat.ne_of_gt hopeful)
  | made reply hopeful =>
    cases also with
    | givenUp timeless => exact absurd timeless (Nat.ne_of_gt hopeful)
    | made answer => exact alike reply answer List.getLast?_concat List.getLast?_concat

namespace Activity

theorem begun_of_calls {calls : List Reasoning.Call} {nothing : Unit}
    (runs : Runs (calls.forM fun call => do let _ ← ask call) before contacts nothing after) :
    after = before ∧ Begun calls contacts := by
  induction calls generalizing before contacts with
  | nil =>
    obtain ⟨rfl, -, rfl⟩ := runs_pure_iff.mp runs
    exact ⟨rfl, .nil⟩
  | cons call rest ih =>
    obtain ⟨first, second, _, between, rfl, early, late⟩ := runs_bind_iff.mp runs
    obtain ⟨asked, none, reply, _, rfl, asking, finished⟩ := runs_bind_iff.mp early
    obtain ⟨rfl, rfl⟩ := runs_ask_iff.mp asking
    obtain ⟨rfl, -, rfl⟩ := runs_pure_iff.mp finished
    obtain ⟨rfl, others⟩ := ih late
    exact ⟨rfl, .cons ⟨reply, rfl⟩ others⟩

theorem runs_beginPostponed {nothing : Unit}
    (runs : Runs beginPostponed before contacts nothing after) :
    after = { before with postponed := [] } ∧ Begun before.postponed contacts := by
  obtain ⟨_, _, session, _, rfl, read, rest⟩ := runs_bind_iff.mp runs
  obtain ⟨rfl, rfl, rfl⟩ := runs_get_iff.mp read
  obtain ⟨_, _, _, _, rfl, emptied, begun⟩ := runs_bind_iff.mp rest
  obtain ⟨rfl, rfl⟩ := runs_modify_iff.mp emptied
  exact begun_of_calls begun

theorem catches_wait {millis : Nat} {nothing : Unit}
    (runs : Runs (wait millis) before contacts nothing after) :
    Catches before.postponed contacts after.postponed := by
  unfold wait at runs
  split at runs
  · obtain ⟨first, _, _, _, rfl, begins, waits⟩ := runs_bind_iff.mp runs
    obtain ⟨rfl, rfl⟩ := runs_modify_iff.mp waits
    obtain ⟨rfl, begun⟩ := runs_beginPostponed begins
    rw [List.append_nil]
    exact .all begun
  · obtain ⟨rfl, rfl⟩ := runs_modify_iff.mp runs
    exact .none

theorem asks_askWithin {call : Reasoning.Call} {deadline : Nat}
    {heard : Except ReasoningError String}
    (runs : Runs (askWithin deadline call) before contacts heard after) :
    Asks deadline call before.postponed contacts heard after.postponed := by
  unfold askWithin at runs
  obtain ⟨_, _, _, _, rfl, counts, body⟩ := runs_bind_iff.mp runs
  obtain ⟨rfl, rfl⟩ := runs_modify_iff.mp counts
  by_cases timeless : deadline = 0
  · rw [if_pos timeless] at body
    obtain ⟨rfl, same⟩ := Plan.runs_done_iff.mp body
    obtain ⟨rfl, rfl⟩ := Prod.mk.inj same
    exact .givenUp timeless
  · rw [if_neg timeless] at body
    obtain ⟨begun, _, _, _, rfl, begins, asking⟩ := runs_bind_iff.mp body
    obtain ⟨rfl, begun⟩ := runs_beginPostponed begins
    obtain ⟨_, _, reply, _, rfl, asks, waiting⟩ := runs_bind_iff.mp asking
    obtain ⟨rfl, rfl⟩ := runs_ask_iff.mp asks
    obtain ⟨caught, last, _, waited, rfl, waits, settling⟩ := runs_bind_iff.mp waiting
    -- Nothing is postponed any more when the answer is waited for.
    obtain ⟨rfl, none⟩ : caught = [] ∧ waited.postponed = [] := by
      exact (catches_wait waits).of_nil
    have settled : last = [] ∧ heard = reply.within deadline ∧
        after.postponed = waited.postponed := by
      split at settling
      · obtain ⟨rfl, same⟩ := Plan.runs_done_iff.mp settling
        obtain ⟨rfl, rfl⟩ := Prod.mk.inj same
        exact ⟨rfl, rfl, rfl⟩
      · obtain ⟨rfl, same⟩ := Plan.runs_done_iff.mp settling
        obtain ⟨rfl, rfl⟩ := Prod.mk.inj same
        exact ⟨rfl, rfl, rfl⟩
    obtain ⟨rfl, rfl, same⟩ := settled
    rw [same, none]
    exact .made reply (Nat.pos_of_ne_zero timeless) begun

end Activity

end AnalystQuery.Pipeline
