import AnalystQuery.Proofs.Pipeline.Executions

/-! Executing several queries side by side. Either every branch finds something and the findings
stand in the order of the branches, or one failure is the outcome of all of them. In which order
the calls settle has no part in it. -/

namespace AnalystQuery.Pipeline

open Operation (Runs)

variable {pipeline : Pipeline} {before after : Session} {contacts : List Contact}
  {branches : List Branch} {settled : List (Branch × Search.Reply)}

/-- Why the first branch is refused that may not be executed. -/
def branchesError? (pipeline : Pipeline) (branches : List Branch) : Option ValidationError :=
  branches.findSome? fun branch => pipeline.executionError? branch.query

/-- The calls of the branches that were started, with their replies. -/
def searches (settled : List (Branch × Search.Reply)) : List Contact :=
  settled.map fun (branch, reply) => .searched (searchCall branch.query) reply

/-- What a branch found, if its reply says so. -/
def Finds : Branch × Search.Reply → BranchFindings → Prop
  | (branch, reply), findings => ∃ response, reply.outcome = .ok response ∧
    findings = ⟨branch.label, branch.query.index, response.total, response.aggregations⟩

theorem sound_of_finds {findings : List BranchFindings}
    (finds : List.Forall₂ Finds settled findings) : ∀ pair ∈ settled, fails pair.2 = false := by
  induction finds with
  | nil => exact List.forall_mem_nil _
  | @cons pair _ _ _ first _ ih =>
    obtain ⟨response, outcome, -⟩ := first
    refine List.forall_mem_cons.mpr ⟨?_, ih⟩
    rw [fails, outcome]

def FailsWith (settled : List (Branch × Search.Reply)) (cause : ExecutionError) : Prop :=
  ∃ branch reply, (branch, reply) ∈ settled ∧ reply.outcome = .error cause

theorem FailsWith.cons {cause : ExecutionError} (fails : FailsWith settled cause)
    (first : Branch × Search.Reply) : FailsWith (first :: settled) cause := by
  obtain ⟨branch, reply, member, outcome⟩ := fails
  exact ⟨branch, reply, List.mem_cons_of_mem first member, outcome⟩

theorem failsWith_cons {branch : Branch} {reply : Search.Reply} {cause : ExecutionError}
    (outcome : reply.outcome = .error cause) : FailsWith ((branch, reply) :: settled) cause :=
  ⟨branch, reply, List.mem_cons_self, outcome⟩

theorem finds_of_firstFailure? (none : firstFailure? settled = none) :
    List.Forall₂ Finds settled (branchFindings settled) := by
  induction settled with
  | nil => exact .nil
  | cons first rest ih =>
    obtain ⟨branch, reply⟩ := first
    rw [firstFailure?] at none
    rw [branchFindings]
    split at none
    · split at none <;> cases none
    · cases none
    · rename_i response outcome
      rw [outcome]
      exact .cons ⟨response, outcome, rfl⟩ (ih none)

theorem failsWith_of_firstFailure? {delay : Nat} {cause : ExecutionError}
    (noticed : firstFailure? settled = some (delay, cause)) : FailsWith settled cause := by
  induction settled generalizing delay cause with
  | nil => cases noticed
  | cons first rest ih =>
    obtain ⟨branch, reply⟩ := first
    rw [firstFailure?] at noticed
    split at noticed
    · rename_i own time later outcome others
      split at noticed
      · cases noticed
        exact failsWith_cons outcome
      · cases noticed
        exact (ih others).cons _
    · rename_i own outcome others
      cases noticed
      exact failsWith_cons outcome
    · exact (ih noticed).cons _

theorem finds_of_leadingFailure? {latest : Nat} (none : leadingFailure? latest settled = none) :
    List.Forall₂ Finds settled (branchFindings settled) := by
  induction settled generalizing latest with
  | nil => exact .nil
  | cons first rest ih =>
    obtain ⟨branch, reply⟩ := first
    rw [leadingFailure?] at none
    rw [branchFindings]
    split at none
    · cases none
    · rename_i response outcome
      rw [outcome]
      exact .cons ⟨response, outcome, rfl⟩ (ih none)

theorem failsWith_of_leadingFailure? {latest delay : Nat} {cause : ExecutionError}
    (noticed : leadingFailure? latest settled = some (delay, cause)) :
    FailsWith settled cause := by
  induction settled generalizing latest with
  | nil => cases noticed
  | cons first rest ih =>
    obtain ⟨branch, reply⟩ := first
    rw [leadingFailure?] at noticed
    split at noticed
    · rename_i own outcome
      cases noticed
      exact failsWith_cons outcome
    · exact (ih noticed).cons _

theorem finds_of_noticedFailure? {inOrder : Bool}
    (none : noticedFailure? inOrder settled = none) :
    List.Forall₂ Finds settled (branchFindings settled) := by
  cases inOrder with
  | true => exact finds_of_leadingFailure? none
  | false => exact finds_of_firstFailure? none

theorem failsWith_of_noticedFailure? {inOrder : Bool} {delay : Nat} {cause : ExecutionError}
    (noticed : noticedFailure? inOrder settled = some (delay, cause)) :
    FailsWith settled cause := by
  cases inOrder with
  | true => exact failsWith_of_leadingFailure? noticed
  | false => exact failsWith_of_firstFailure? noticed

namespace Operation

theorem immediate_checkAll (pipeline : Pipeline) (branches : List Branch) :
    Immediate (branches.forM fun branch => pipeline.checkExecutable branch.query)
      (judgement (pipeline.branchesError? branches)) :=
  immediate_forM fun branch => immediate_checkExecutable pipeline branch.query

theorem immediate_executeAll {cause : ValidationError}
    (refusal : pipeline.branchesError? branches = some cause) :
    Immediate (pipeline.executeAll branches) (.error (.validation cause)) := by
  have checks := immediate_checkAll pipeline branches
  rw [refusal] at checks
  exact checks.fail

theorem runs_startBranches {inOrder underWay : Bool}
    {outcome : Except Error (List (Branch × Search.Reply))}
    (admitted : ∀ branch ∈ branches, pipeline.executionError? branch.query = none)
    (runs : Runs (pipeline.startBranches inOrder underWay branches) before contacts outcome after) :
    ∃ settled, outcome = .ok settled ∧ contacts = searches settled ∧
      settled.map (·.1) <+: branches ∧
      (settled.map (·.1) = branches ∨ ∃ pair ∈ settled, fails pair.2 = true) ∧
      Alike before after := by
  induction branches generalizing underWay before after contacts outcome with
  | nil =>
    obtain ⟨rfl, rfl, rfl⟩ := runs_pure_iff.mp runs
    exact ⟨[], rfl, rfl, List.nil_prefix, Or.inl rfl, rfl, rfl, rfl⟩
  | cons branch rest ih =>
    obtain ⟨admits, others⟩ := List.forall_mem_cons.mp admitted
    rcases runs_bind_iff.mp runs with ⟨error, rfl, failed⟩ |
        ⟨_, second, reply, between, rfl, starts, going⟩
    · obtain ⟨reply, -, same, -⟩ := runs_startExecution admits failed
      cases same
    obtain ⟨_, rfl, same, early⟩ := runs_startExecution admits starts
    obtain rfl := Except.ok.inj same
    split at going
    · rename_i ends
      obtain ⟨rfl, rfl, rfl⟩ := runs_pure_iff.mp going
      rw [Bool.and_eq_true, Bool.and_eq_true] at ends
      refine ⟨[(branch, reply)], rfl, rfl, ?_, Or.inr ?_, early⟩
      · exact List.prefix_append [branch] rest
      · exact ⟨(branch, reply), List.mem_singleton_self _, ends.1.1⟩
    · rcases runs_bind_iff.mp going with ⟨error, rfl, failed⟩ |
          ⟨_, _, started, _, rfl, starting, giving⟩
      · obtain ⟨settled, same, -⟩ := ih others failed
        cases same
      · obtain ⟨settled, same, rfl, listed, complete, late⟩ := ih others starting
        obtain rfl := Except.ok.inj same
        obtain ⟨rfl, rfl, rfl⟩ := runs_pure_iff.mp giving
        refine ⟨(branch, reply) :: started, rfl, ?_, ?_, ?_, early.trans late⟩
        · rw [List.append_nil]
          rfl
        · exact (List.prefix_cons_inj branch).mpr listed
        · rcases complete with all | ⟨pair, member, failed⟩
          · exact Or.inl (congrArg (branch :: ·) all)
          · exact Or.inr ⟨pair, List.mem_cons_of_mem _ member, failed⟩

theorem immediate_timeAll (limit : Nat) (settled : List (Branch × Search.Reply)) :
    Immediate (timeAll limit settled) (.ok ()) :=
  immediate_forM_ok fun pair => ⟨[.timed .execution (min pair.2.delay limit)], fun _ => rfl⟩

theorem immediate_countAll (counter : Counter) (times : List Nat) :
    Immediate (times.forM fun _ => liftM (count counter)) (.ok ()) :=
  immediate_forM_ok fun _ => ⟨[.counted counter], fun _ => rfl⟩

/-- The ways in which branches that may be executed are: all of them find something, or one of
those that were started fails. -/
theorem runs_executeAll {outcome : Except Error (List BranchFindings)}
    (admitted : pipeline.branchesError? branches = none)
    (runs : Runs (pipeline.executeAll branches) before contacts outcome after) :
    ∃ settled begun, contacts = searches settled ++ begun ∧
      Catches before.postponed begun after.postponed ∧ settled.map (·.1) <+: branches ∧
      ((settled.map (·.1) = branches ∧
          ∃ findings, outcome = .ok findings ∧ List.Forall₂ Finds settled findings) ∨
        ∃ cause, FailsWith settled cause ∧ outcome = .error (.execution cause)) := by
  have checks := immediate_checkAll pipeline branches
  rw [admitted] at checks
  have admits := List.findSome?_eq_none_iff.mp admitted
  obtain ⟨checked, early, starting⟩ := checks.runs_next runs
  rcases runs_bind_iff.mp starting with ⟨error, rfl, failed⟩ |
      ⟨_, _, settled, started, rfl, starts, settling⟩
  · obtain ⟨settled, same, -⟩ := runs_startBranches admits failed
    cases same
  obtain ⟨_, same, rfl, listed, complete, next⟩ := runs_startBranches admits starts
  obtain rfl := Except.ok.inj same
  have begun := early.trans next
  cases noticed : noticedFailure? (decide (promptBranches < branches.length)) settled with
  | some failure =>
    obtain ⟨delay, cause⟩ := failure
    rw [noticed] at settling
    obtain ⟨begins, _, _, waited, rfl, waits, timing⟩ := runs_lift_bind_iff.mp settling
    obtain ⟨timed, still, counting⟩ := (immediate_timeAll delay settled).runs_next timing
    obtain ⟨counted, quiet, throwing⟩ := (immediate_countAll _ _).runs_next counting
    obtain ⟨rfl, rfl, rfl⟩ := runs_throw_iff.mp throwing
    have catches := Activity.catches_wait waits
    rw [begun.postponed, ← still.postponed, ← quiet.postponed] at catches
    refine ⟨settled, begins, ?_, catches, listed, Or.inr ⟨cause, ?_, rfl⟩⟩
    · rw [List.append_nil]
    · exact failsWith_of_noticedFailure? noticed
  | none =>
    rw [noticed] at settling
    obtain ⟨begins, _, _, waited, rfl, waits, timing⟩ := runs_lift_bind_iff.mp settling
    obtain ⟨timed, still, giving⟩ :=
      (immediate_timeAll (longestDelay settled) settled).runs_next timing
    obtain ⟨rfl, rfl, rfl⟩ := runs_pure_iff.mp giving
    have catches := Activity.catches_wait waits
    rw [begun.postponed, ← still.postponed] at catches
    have finds := finds_of_noticedFailure? noticed
    have all : settled.map (·.1) = branches := by
      refine complete.resolve_right fun ⟨pair, member, failed⟩ => ?_
      rw [sound_of_finds finds pair member] at failed
      cases failed
    refine ⟨settled, begins, ?_, catches, listed, Or.inl ⟨all, _, rfl, finds⟩⟩
    rw [List.append_nil]

end Operation

/-- Branches are executed all or not at all. If one may not be executed, then no call is made and
the first of those is the reason. Otherwise all calls find something, and then so does each branch
in its place, or the outcome is one of their failures. -/
theorem executed_all_or_none {outcome : Except Error (List BranchFindings)}
    (runs : Runs (pipeline.executeAll branches) before contacts outcome after) :
    (∀ cause, pipeline.branchesError? branches = some cause →
        contacts = [] ∧ outcome = .error (.validation cause)) ∧
      (pipeline.branchesError? branches = none →
        ∃ settled begun, contacts = searches settled ++ begun ∧
          Catches before.postponed begun after.postponed ∧ settled.map (·.1) <+: branches ∧
          ((∀ pair ∈ settled, fails pair.2 = false) →
            settled.map (·.1) = branches ∧
              ∃ findings, outcome = .ok findings ∧ List.Forall₂ Finds settled findings) ∧
          (∀ pair ∈ settled, fails pair.2 = true →
            ∃ cause, FailsWith settled cause ∧ outcome = .error (.execution cause))) := by
  constructor
  · intro cause refusal
    obtain ⟨none, same, -⟩ := (Operation.immediate_executeAll refusal).runs runs
    exact ⟨none, same⟩
  · intro admitted
    obtain ⟨settled, begun, rfl, catches, listed, ends⟩ :=
      Operation.runs_executeAll admitted runs
    refine ⟨settled, begun, rfl, catches, listed, ?_, ?_⟩
    · intro sound
      rcases ends with found | ⟨cause, ⟨branch, reply, member, outcome⟩, -⟩
      · exact found
      · have well : fails reply = false := sound _ member
        rw [fails, outcome] at well
        cases well
    · intro pair member failed
      rcases ends with ⟨-, findings, -, finds⟩ | failure
      · rw [sound_of_finds finds pair member] at failed
        cases failed
      · exact failure

private def mailAndPosts : Pipeline :=
  ⟨{ Settings.default with
    pipeline := { Settings.default.pipeline with
      executableIndexes := ["communications", "social"] } }, [], .origin⟩

private def matchAll (index : String) : GeneratedQuery :=
  ⟨index, .object [("query", .object [("match_all", .object [])])], "", .plain .search .zero⟩

-- The branch that is listed first settles last.
private def slowMail (call : Search.Call) : Search.Reply :=
  if call.index = "social" then ⟨5, .ok ⟨7, [], none⟩⟩ else ⟨80, .ok ⟨3, [], none⟩⟩

theorem slow_mail_executed :
    ∃ contacts outcome after,
      Runs (mailAndPosts.executeAll [⟨"mail", matchAll "communications"⟩,
        ⟨"posts", matchAll "social"⟩]) (.fresh true) contacts outcome after ∧
      (∀ contact ∈ contacts, contact.Follows (fun _ => ⟨0, .error .emptyResponse⟩) slowMail) ∧
      outcome = .ok [⟨"mail", "communications", 3, none⟩, ⟨"posts", "social", 7, none⟩] := by
  obtain ⟨contacts, outcome, after, runs, follow⟩ := Operation.exists_runs
    (mailAndPosts.executeAll [⟨"mail", matchAll "communications"⟩, ⟨"posts", matchAll "social"⟩])
    (.fresh true) (fun _ => ⟨0, .error .emptyResponse⟩) slowMail
  refine ⟨contacts, outcome, after, runs, follow, ?_⟩
  obtain ⟨settled, begun, rfl, -, -, found, -⟩ :=
    (executed_all_or_none runs).2 (by decide +kernel)
  have given : ∀ pair ∈ settled, pair.2 = slowMail (searchCall pair.1.query) := fun pair member =>
    follow _ (List.mem_append_left _ (List.mem_map_of_mem member))
  have sound : ∀ pair ∈ settled, fails pair.2 = false := by
    intro pair member
    rw [given pair member, slowMail]
    split <;> rfl
  obtain ⟨all, findings, rfl, finds⟩ := found sound
  obtain ⟨⟨mail, first⟩, _, rfl, rfl, rest⟩ := List.map_eq_cons_iff.mp all
  obtain ⟨⟨posts, second⟩, _, rfl, rfl, empty⟩ := List.map_eq_cons_iff.mp rest
  obtain rfl := List.map_eq_nil_iff.mp empty
  obtain ⟨mailReply, others⟩ := List.forall_mem_cons.mp given
  obtain ⟨postsReply, -⟩ := List.forall_mem_cons.mp others
  obtain rfl : first = ⟨80, .ok ⟨3, [], none⟩⟩ := mailReply
  obtain rfl : second = ⟨5, .ok ⟨7, [], none⟩⟩ := postsReply
  cases finds with
  | cons mailFinds others =>
    cases others with
    | cons postsFinds others =>
      cases others
      obtain ⟨response, outcome, rfl⟩ := mailFinds
      obtain ⟨answer, given, rfl⟩ := postsFinds
      cases outcome
      cases given
      rfl

end AnalystQuery.Pipeline
