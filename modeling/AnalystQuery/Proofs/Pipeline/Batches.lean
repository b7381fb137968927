import AnalystQuery.Proofs.Pipeline.CallBudget
import AnalystQuery.Proofs.Pipeline.Tallies

/-! What is counted of queries that are executed side by side. Every call is counted when it is
started. A failure is counted if the call returns it before the first failure that is noticed ends
them all. -/

namespace AnalystQuery.Pipeline

open Operation (Runs Tallied)

variable {β : Type} {pipeline : Pipeline} {counter : Counter} {found : Search.Reply → Bool}
  {before after : Session} {contacts : List Contact} {branches : List Branch}
  {settled : List (Branch × Search.Reply)}

/-- The failures that are returned where results are looked at in order, those in front being there
after `latest`: the one that is listed first, and those that come before it is noticed. -/
def errorsInOrder (latest : Nat) : List Search.Reply → Nat
  | [] => 0
  | reply :: rest =>
    if fails reply then
      1 + rest.countP fun other => fails other && decide (other.delay < max latest reply.delay)
    else errorsInOrder (max latest reply.delay) rest

/-- How many of the calls of a batch return a failure. Where all are looked at as they come, the
first one ends the batch. -/
def errorsReturned (inOrder : Bool) (replies : List Search.Reply) : Nat :=
  if inOrder then errorsInOrder 0 replies else if replies.any fails then 1 else 0

theorem failuresUntil_of_sound {limit : Nat} {branch : Branch} {reply : Search.Reply}
    (sound : fails reply = false) :
    failuresUntil limit ((branch, reply) :: settled) = failuresUntil limit settled := by
  rw [failuresUntil, failuresUntil, List.filter_cons_of_neg (by simp [sound])]

theorem failuresUntil_of_fails {limit : Nat} {branch : Branch} {reply : Search.Reply}
    (failed : fails reply = true) :
    failuresUntil limit ((branch, reply) :: settled) =
      1 + (settled.map (·.2)).countP fun other => fails other && decide (other.delay < limit) := by
  have others : (settled.filter fun pair => fails pair.2).countP
      (fun pair => decide (pair.2.delay < limit)) =
        (settled.map (·.2)).countP fun other => fails other && decide (other.delay < limit) := by
    rw [List.countP_filter, List.countP_map]
    exact List.countP_congr fun pair _ => by simp [and_comm]
  rw [failuresUntil, List.filter_cons_of_pos (by simpa using failed), List.countP_cons, others]
  by_cases early : reply.delay < limit
  · simp only [early, if_true, decide_true]
    omega
  · simp only [early, if_false, decide_false, Bool.false_eq_true]
    omega

theorem failuresUntil_leadingFailure? {latest delay : Nat} {cause : ExecutionError}
    (noticed : leadingFailure? latest settled = some (delay, cause)) :
    failuresUntil delay settled = errorsInOrder latest (settled.map (·.2)) := by
  induction settled generalizing latest with
  | nil => cases noticed
  | cons first rest ih =>
    obtain ⟨branch, reply⟩ := first
    rw [leadingFailure?] at noticed
    rw [List.map_cons, errorsInOrder]
    split at noticed
    · rename_i own outcome
      obtain ⟨rfl, rfl⟩ := Prod.mk.inj (Option.some.inj noticed)
      have failed : fails reply = true := by rw [fails, outcome]
      rw [if_pos failed, failuresUntil_of_fails failed]
    · rename_i response outcome
      have sound : fails reply = false := by rw [fails, outcome]
      rw [failuresUntil_of_sound sound, ih noticed, if_neg (by simp [sound])]

theorem least_of_firstFailure? {delay : Nat} {cause : ExecutionError}
    (noticed : firstFailure? settled = some (delay, cause)) :
    ∀ pair ∈ settled, fails pair.2 = true → delay ≤ pair.2.delay := by
  induction settled generalizing delay cause with
  | nil => cases noticed
  | cons first rest ih =>
    obtain ⟨branch, reply⟩ := first
    rw [firstFailure?] at noticed
    refine List.forall_mem_cons.mpr ?_
    split at noticed
    · rename_i own time later outcome others
      split at noticed
      · rename_i early
        obtain ⟨rfl, -⟩ := Prod.mk.inj (Option.some.inj noticed)
        refine ⟨fun _ => Nat.le_refl _, fun pair member failed => ?_⟩
        exact Nat.le_trans early (ih others pair member failed)
      · rename_i late
        obtain ⟨rfl, -⟩ := Prod.mk.inj (Option.some.inj noticed)
        exact ⟨fun _ => Nat.le_of_not_le late, ih others⟩
    · rename_i own outcome others
      obtain ⟨rfl, -⟩ := Prod.mk.inj (Option.some.inj noticed)
      refine ⟨fun _ => Nat.le_refl _, fun pair member failed => ?_⟩
      rw [sound_of_finds (finds_of_firstFailure? others) pair member] at failed
      cases failed
    · rename_i response outcome
      refine ⟨fun failed => ?_, ih noticed⟩
      rw [fails, outcome] at failed
      cases failed

theorem failuresUntil_of_least {delay : Nat} {branch : Branch} {reply : Search.Reply}
    (member : (branch, reply) ∈ settled) (failed : fails reply = true)
    (least : ∀ pair ∈ settled, fails pair.2 = true → delay ≤ pair.2.delay) :
    failuresUntil delay settled = 1 := by
  induction settled with
  | nil => cases member
  | cons first rest ih =>
    obtain ⟨own, given⟩ := first
    obtain ⟨bound, others⟩ := List.forall_mem_cons.mp least
    cases fate : fails given with
    | true =>
      have none : (rest.map (·.2)).countP
          (fun other => fails other && decide (other.delay < delay)) = 0 := by
        rw [List.countP_map, List.countP_eq_zero]
        intro pair inside
        simpa using others pair inside
      rw [failuresUntil_of_fails fate, none]
    | false =>
      rw [failuresUntil_of_sound fate]
      refine ih ((List.mem_cons.mp member).resolve_left ?_) others
      rintro same
      rw [(Prod.mk.inj same).2, fate] at failed
      cases failed

theorem errorsInOrder_of_sound {replies : List Search.Reply} {latest : Nat}
    (sound : ∀ reply ∈ replies, fails reply = false) : errorsInOrder latest replies = 0 := by
  induction replies generalizing latest with
  | nil => rfl
  | cons reply rest ih =>
    obtain ⟨first, others⟩ := List.forall_mem_cons.mp sound
    rw [errorsInOrder, if_neg (by simp [first]), ih others]

theorem errorsReturned_of_sound {inOrder : Bool} {replies : List Search.Reply}
    (sound : ∀ reply ∈ replies, fails reply = false) : errorsReturned inOrder replies = 0 := by
  have none : replies.any fails = false := List.any_eq_false.mpr fun reply member => by
    simp [sound reply member]
  rw [errorsReturned, errorsInOrder_of_sound sound, none]
  exact ite_self 0

theorem failuresUntil_noticedFailure? {inOrder : Bool} {delay : Nat} {cause : ExecutionError}
    (noticed : noticedFailure? inOrder settled = some (delay, cause)) :
    failuresUntil delay settled = errorsReturned inOrder (settled.map (·.2)) := by
  cases inOrder with
  | true => exact failuresUntil_leadingFailure? noticed
  | false =>
    obtain ⟨branch, reply, member, outcome⟩ := failsWith_of_firstFailure? noticed
    have failed : fails reply = true := by rw [fails, outcome]
    have some : (settled.map (·.2)).any fails = true :=
      List.any_eq_true.mpr ⟨reply, List.mem_map_of_mem member, failed⟩
    rw [failuresUntil_of_least member failed (least_of_firstFailure? noticed), errorsReturned, some]
    rfl

def repliesOf (contacts : List Contact) : List Search.Reply :=
  (contacts.filterMap Contact.search?).map (·.2)

theorem repliesOf_searches {postponed left : List Reasoning.Call} {begun : List Contact}
    (catches : Catches postponed begun left) :
    repliesOf (searches settled ++ begun) = settled.map (·.2) := by
  have spends := (spends_searches postponed settled).join catches.spends
  rw [repliesOf, spends.searched, List.append_nil, List.map_map]
  rfl

namespace Operation

theorem tallied_wait (millis : Nat) : Tallied pipeline counter found (liftM (wait millis)) := by
  intro before contacts outcome after runs givenUp
  obtain ⟨nothing, rfl, waits⟩ := runs_lift_iff.mp runs
  exact Activity.balance_wait waits givenUp

theorem tallied_startExecution (started : ∀ reply, found reply = decide (counter = .executions))
    (query : GeneratedQuery) : Tallied pipeline counter found (pipeline.startExecution query) := by
  intro before contacts outcome after runs givenUp
  rcases tallies_startExecution runs givenUp counter found with ⟨error, -, rfl, tallies⟩ |
      ⟨reply, rfl, rfl, tallies⟩
  · exact tallies
  · refine ⟨tallies.givenUp, ?_⟩
    have balance := tallies.balance
    have searched : [Contact.searched (searchCall query) reply].countP
        (pipeline.counts counter found) = countOf [.counted .executions] counter := by
      rw [List.countP_singleton, counts, started, countOf_counted]
      by_cases same : counter = .executions <;> simp [same]
    rw [List.countP_nil] at balance
    rw [searched, refusals]
    omega

/-- Counters that have nothing to do with failures are counted call by call. -/
theorem tallied_executeAll (others : counter ≠ .executionErrors) (branches : List Branch) :
    Tallied pipeline counter (replyCounts counter) (pipeline.executeAll branches) := by
  have started (reply : Search.Reply) :
      replyCounts counter reply = decide (counter = .executions) := by
    cases counter <;> first | rfl | exact absurd rfl others
  have waiting : pipeline.Waiting (Tallied pipeline counter (replyCounts counter)) :=
    { closed_tallied with
      wait := tallied_wait
      countError := tallied_count others
      fail := fun _ => tallied_throw rfl }
  exact waiting.executeAll (tallied_startExecution started) branches

theorem tallies_countAll {event : Counter} {times : List Nat} {outcome : Except Error Unit}
    (runs : Runs (times.forM fun _ => liftM (count event)) before contacts outcome after)
    (givenUp : pipeline.GivenUp before) :
    contacts = [] ∧ pipeline.Tallies counter found before [] after
      (times.length * countOf [.counted event] counter) := by
  induction times generalizing before with
  | nil =>
    obtain ⟨rfl, -, rfl⟩ := runs_pure_iff.mp runs
    rw [List.length_nil, Nat.zero_mul]
    exact ⟨rfl, givenUp, rfl⟩
  | cons time rest ih =>
    have first : pipeline.Tallies counter found before [] _ _ := tallies_counted givenUp event
    obtain ⟨rfl, others⟩ := ih (runs_count_bind_iff.mp runs) first.givenUp
    rw [List.length_cons, Nat.succ_mul, Nat.add_comm]
    exact ⟨rfl, first.join others⟩

theorem tallies_failing {event : Counter} {times : List Nat} {error : Error}
    {outcome : Except Error β}
    (runs : Runs ((times.forM fun _ => liftM (count event)) >>= fun _ => throw error) before
      contacts outcome after)
    (givenUp : pipeline.GivenUp before) :
    contacts = [] ∧ pipeline.Tallies counter found before [] after
      (times.length * countOf [.counted event] counter) := by
  rcases runs_bind_iff.mp runs with ⟨cause, rfl, failed⟩ |
      ⟨_, _, _, counted, rfl, counts, throws⟩
  · exact tallies_countAll failed givenUp
  · obtain ⟨rfl, rfl, rfl⟩ := runs_throw_iff.mp throws
    obtain ⟨rfl, tallies⟩ := tallies_countAll counts givenUp
    exact ⟨rfl, tallies⟩

theorem tallies_settling {limit : Nat} {continuation : Unit → Operation β}
    {outcome : Except Error β}
    (runs : Runs (liftM (wait limit) >>= fun _ => timeAll limit settled >>= continuation) before
      contacts outcome after)
    (givenUp : pipeline.GivenUp before) (found : Search.Reply → Bool) :
    ∃ begun rest between, contacts = begun ++ rest ∧
      Catches before.postponed begun between.postponed ∧
      pipeline.Tallies counter found before begun between 0 ∧
      Runs (continuation ()) between rest outcome after := by
  obtain ⟨begun, _, _, waited, rfl, waits, timing⟩ := runs_lift_bind_iff.mp runs
  have early : pipeline.Tallies counter found before begun waited 0 :=
    Activity.balance_wait waits givenUp
  have times := immediate_timeAll limit settled
  rcases runs_bind_iff.mp timing with ⟨error, rfl, failed⟩ |
      ⟨_, rest, _, between, rfl, timed, continues⟩
  · cases (times.runs failed).2.1
  · obtain ⟨rfl, -, alike⟩ := times.runs timed
    have late : pipeline.Tallies counter found waited [] between 0 :=
      closed_tallied.timeAll limit settled _ _ _ _ timed early.givenUp
    have catches := Activity.catches_wait waits
    rw [← alike.postponed] at catches
    have whole := early.next late
    rw [List.append_nil] at whole
    exact ⟨begun, rest, between, rfl, catches, whole, continues⟩

theorem tallies_executeAll {outcome : Except Error (List BranchFindings)}
    (runs : Runs (pipeline.executeAll branches) before contacts outcome after)
    (givenUp : pipeline.GivenUp before) :
    pipeline.Tallies .executionErrors (fun _ => false) before contacts after
      (errorsReturned (decide (promptBranches < branches.length)) (repliesOf contacts)) := by
  have closed : pipeline.Closed (Tallied pipeline .executionErrors fun _ => false) :=
    closed_tallied
  have starts (query : GeneratedQuery) :
      Tallied pipeline .executionErrors (fun _ => false) (pipeline.startExecution query) :=
    tallied_startExecution (fun _ => rfl) query
  have checks := immediate_checkAll pipeline branches
  have checking : Tallied pipeline .executionErrors (fun _ => false)
      (branches.forM fun branch => pipeline.checkExecutable branch.query) :=
    closed.forM fun branch => closed.checkExecutable branch.query
  rcases runs_bind_iff.mp runs with ⟨error, rfl, refused⟩ |
      ⟨_, _, _, checked, rfl, passes, starting⟩
  · obtain ⟨rfl, -, -⟩ := checks.runs refused
    rw [repliesOf, List.filterMap_nil, List.map_nil, errorsReturned_of_sound (by simp)]
    exact checking _ _ _ _ refused givenUp
  obtain ⟨rfl, passed, -⟩ := checks.runs passes
  have early := checking _ _ _ _ passes givenUp
  have admits : ∀ branch ∈ branches, pipeline.executionError? branch.query = none :=
    List.findSome?_eq_none_iff.mp (eq_none_of_judgement passed.symm)
  rcases runs_bind_iff.mp starting with ⟨error, rfl, failed⟩ |
      ⟨_, _, settled, started, rfl, begins, settling⟩
  · obtain ⟨settled, same, -⟩ := runs_startBranches admits failed
    cases same
  -- What the branches themselves count is over; only the noticed failure is still to come.
  have beginning : Tallied pipeline .executionErrors (fun _ => false)
      (pipeline.startBranches (decide (promptBranches < branches.length)) false branches) :=
    closed.startBranches (fun branch _ => starts branch.query) _ _
  have middle := early.next (beginning _ _ _ _ begins early.givenUp)
  obtain ⟨_, same, rfl, -⟩ := runs_startBranches admits begins
  obtain rfl := Except.ok.inj same
  cases noticed : noticedFailure? (decide (promptBranches < branches.length)) settled with
  | some failure =>
    obtain ⟨delay, cause⟩ := failure
    rw [noticed] at settling
    dsimp only at settling
    obtain ⟨begun, rest, between, rfl, catches, late, counting⟩ :=
      tallies_settling settling middle.givenUp _
    have whole := middle.next late
    obtain ⟨rfl, tallies⟩ := tallies_failing counting whole.givenUp
    have returned : failuresUntil delay settled =
        errorsReturned (decide (promptBranches < branches.length))
          (repliesOf (searches settled ++ begun)) := by
      rw [failuresUntil_noticedFailure? noticed, repliesOf_searches catches]
    rw [List.length_range, countOf_counted, if_pos rfl, Nat.mul_one, returned] at tallies
    simpa using whole.next tallies
  | none =>
    rw [noticed] at settling
    dsimp only at settling
    obtain ⟨begun, rest, between, rfl, catches, late, giving⟩ :=
      tallies_settling settling middle.givenUp _
    obtain ⟨rfl, rfl, rfl⟩ := runs_pure_iff.mp giving
    have sound : ∀ reply ∈ settled.map (·.2), fails reply = false :=
      List.forall_mem_map.mpr (sound_of_finds (finds_of_noticedFailure? noticed))
    have none : errorsReturned (decide (promptBranches < branches.length))
        (repliesOf (searches settled ++ begun)) = 0 := by
      rw [repliesOf_searches catches, errorsReturned_of_sound sound]
    have whole := middle.next late
    simpa [none] using whole

end Operation

end AnalystQuery.Pipeline
