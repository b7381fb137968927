import AnalystQuery.Proofs.Pipeline.Compiles

/-! Refining a question. The feedback and the earlier query reach the language model and nothing
else: what is made of its answer is what is made of an answer to the question itself, with every
check. -/

namespace AnalystQuery.Pipeline

open Operation (Runs)
open Prompt (intentInstructions)

variable {pipeline : Pipeline} {request : Request} {schema : Schema} {feedback : String}
  {earlier : GeneratedQuery} {before after : Session} {contacts : List Contact}

def refinementCall (pipeline : Pipeline) (request : Request) (feedback : String)
    (earlier : GeneratedQuery) (schema : Schema) (elapsed : Nat) : Reasoning.Call :=
  ⟨Prompt.refinement request feedback earlier schema (pipeline.moment request elapsed).render,
    some intentInstructions, request.rateLimitKey⟩

def refinementRefusal? (pipeline : Pipeline) (request : Request) (feedback : String) :
    Option Error :=
  match pipeline.requestError? request false with
  | some cause => some (.validation cause)
  | none =>
    if Text.trim feedback = "" then some (.validation .emptyQuery)
    else
      match pipeline.schema? request.index with
      | none => some (.validation (.missingSchema request.index))
      | some _ => none

theorem requestError?_of_execute {execute : Bool}
    (flawless : pipeline.requestError? request execute = none) :
    pipeline.requestError? request false = none := by
  rw [requestError?] at flawless ⊢
  split at flawless
  · cases flawless
  · rename_i words
    rw [if_neg words]
    split at flawless
    · cases flawless
    · rename_i known
      rw [if_neg known]
      rfl

theorem accepted_of_refinementRefusal?
    (pass : pipeline.refinementRefusal? request feedback = none) :
    ∃ schema, pipeline.requestError? request false = none ∧ Text.trim feedback ≠ "" ∧
      pipeline.schema? request.index = some schema := by
  rw [refinementRefusal?] at pass
  split at pass
  · cases pass
  · rename_i flawless
    split at pass
    · cases pass
    · rename_i words
      split at pass
      · cases pass
      · rename_i schema described
        exact ⟨schema, flawless, words, described⟩

namespace Operation

theorem immediate_refine {error : Error}
    (refusal : pipeline.refinementRefusal? request feedback = some error) :
    Immediate (pipeline.refine request feedback earlier) (.error error) := by
  refine Immediate.recordingFailure (Immediate.recording (.entered .validating) ?_)
  have checks := immediate_checkRequest pipeline request false
  have describes := immediate_requireSchema pipeline request.index
  rw [refinementRefusal?] at refusal
  split at refusal
  · rename_i flaw
    obtain rfl := Option.some.inj refusal
    rw [flaw] at checks
    exact checks.fail
  · rename_i flawless
    rw [flawless] at checks
    refine checks.next ?_
    split at refusal
    · rename_i blank
      obtain rfl := Option.some.inj refusal
      rw [if_pos blank]
      exact (immediate_reject .emptyQuery).fail
    · rename_i words
      rw [if_neg words]
      split at refusal
      · rename_i undescribed
        obtain rfl := Option.some.inj refusal
        rw [undescribed] at describes
        exact describes.fail
      · cases refusal

theorem runs_refine {outcome : Except Error GeneratedQuery}
    (flawless : pipeline.requestError? request false = none)
    (words : Text.trim feedback ≠ "") (described : pipeline.schema? request.index = some schema)
    (runs : Runs (pipeline.refine request feedback earlier) before contacts outcome after) :
    ∃ heard, Asks pipeline.settings.reasoning.timeoutMillis
        (pipeline.refinementCall request feedback earlier schema before.elapsed) before.postponed
        contacts heard after.postponed ∧
      outcome = pipeline.response request schema before.elapsed heard ∧
      after.elapsed = before.elapsed ∧ after.cache = before.cache := by
  obtain ⟨recorded, records, last⟩ := runs_recordingFailure runs
  have passes := immediate_checkRequest pipeline request false
  rw [flawless] at passes
  have describes := immediate_requireSchema pipeline request.index
  rw [described] at describes
  obtain ⟨checked, early, minding⟩ := passes.runs_next (runs_enter_bind_iff.mp records)
  rw [if_neg words] at minding
  obtain ⟨start, next, presenting⟩ := describes.runs_next minding
  have begun := ((alike_noting before (.entered .validating)).trans early).trans next
  have reasoning := runs_present_bind_iff.mp presenting
  have entered := begun.trans (alike_noting start (.entered .reasoning))
  obtain ⟨first, second, heard, between, rfl, asks, cache, elapsed, ends⟩ :=
    runs_reading (runs_enter_bind_iff.mp reasoning)
  suffices settled : second = [] ∧ outcome = pipeline.response request schema before.elapsed heard ∧
      Alike between recorded by
    obtain ⟨rfl, given, alike⟩ := settled
    have ended := alike.trans last
    rw [begun.elapsed, entered.postponed, ← ended.postponed] at asks
    rw [List.append_nil]
    exact ⟨heard, asks, given, (ended.elapsed.trans elapsed).trans entered.elapsed,
      (ended.cache.trans cache).trans entered.cache⟩
  cases heard with
  | error cause => exact ends
  | ok answer =>
    dsimp only at ends
    rw [response, ← begun.elapsed]
    exact (immediate_compileIntent pipeline request schema _).runs ends

/-- The cases of a refinement: it is refused, or the language model is asked and what is heard
decides. -/
theorem refine_cases {outcome : Except Error GeneratedQuery}
    (runs : Runs (pipeline.refine request feedback earlier) before contacts outcome after) :
    (∃ error, pipeline.refinementRefusal? request feedback = some error ∧ contacts = [] ∧
        outcome = .error error ∧ Alike before after) ∨
      ∃ schema heard, pipeline.refinementRefusal? request feedback = none ∧
        pipeline.schema? request.index = some schema ∧
        Asks pipeline.settings.reasoning.timeoutMillis
          (pipeline.refinementCall request feedback earlier schema before.elapsed) before.postponed
          contacts heard after.postponed ∧
        outcome = pipeline.response request schema before.elapsed heard ∧
        after.elapsed = before.elapsed ∧ after.cache = before.cache := by
  cases refusal : pipeline.refinementRefusal? request feedback with
  | some error =>
    obtain ⟨rfl, rfl, alike⟩ := (immediate_refine refusal).runs runs
    exact Or.inl ⟨error, rfl, rfl, rfl, alike⟩
  | none =>
    obtain ⟨schema, flawless, words, described⟩ := accepted_of_refinementRefusal? refusal
    obtain ⟨heard, asks, given, same⟩ := runs_refine flawless words described runs
    exact Or.inr ⟨schema, heard, rfl, described, asks, given, same⟩

end Operation

/-- A request that may be compiled is refused a refinement only where compiling refuses it too. -/
theorem refinementRefusal?_eq (flawless : pipeline.requestError? request request.execute = none)
    (words : Text.trim feedback ≠ "") :
    pipeline.refinementRefusal? request feedback = pipeline.refusal? request := by
  rw [refinementRefusal?, refusal?, requestError?_of_execute flawless, flawless]
  dsimp only
  rw [if_neg words]
  cases pipeline.schema? request.index <;> rfl

/-- The last calls are answered alike: what is heard of them before a deadline is the same. -/
def AnsweredAlike (deadline : Nat) (first second : List Contact) : Prop :=
  ∀ call reply other given, first.getLast? = some (.asked call reply) →
    second.getLast? = some (.asked other given) → reply.within deadline = given.within deadline

theorem refined_as_refined {remark : String} {prior : GeneratedQuery} {start final : Session}
    {others : List Contact} {refined again : Except Error GeneratedQuery}
    (flawless : pipeline.requestError? request request.execute = none)
    (words : Text.trim feedback ≠ "") (wordsToo : Text.trim remark ≠ "")
    (refines : Runs (pipeline.refine request feedback earlier) start others refined final)
    (refinesToo : Runs (pipeline.refine request remark prior) before contacts again after)
    (sameTime : before.elapsed = start.elapsed)
    (alike : AnsweredAlike pipeline.settings.reasoning.timeoutMillis contacts others) :
    refined = again := by
  have sameRefusal := (refinementRefusal?_eq flawless words).trans
    (refinementRefusal?_eq flawless wordsToo).symm
  rcases Operation.refine_cases refines with ⟨error, refusal, -, rfl, -⟩ |
      ⟨schema, heard, passes, described, asks, rfl, -⟩
  · rw [sameRefusal] at refusal
    exact ((Operation.immediate_refine refusal).runs refinesToo).2.1.symm
  · rw [sameRefusal] at passes
    rcases Operation.refine_cases refinesToo with ⟨error, refusal, -⟩ |
        ⟨other, given, -, also, asksToo, rfl, -⟩
    · cases passes.symm.trans refusal
    · obtain rfl := Option.some.inj (described.symm.trans also)
      rw [asksToo.heard_eq asks fun reply answer => alike _ reply _ answer, sameTime]

theorem refined_as_missed {start final : Session} {others : List Contact}
    {refined compiled : Except Error GeneratedQuery}
    (flawless : pipeline.requestError? request request.execute = none)
    (words : Text.trim feedback ≠ "")
    (refines : Runs (pipeline.refine request feedback earlier) start others refined final)
    (compiles : Runs (pipeline.compile request) before contacts compiled after)
    (sameTime : before.elapsed = start.elapsed)
    (missed : before.recalled? (pipeline.key request) = none)
    (alike : AnsweredAlike pipeline.settings.reasoning.timeoutMillis contacts others) :
    refined = compiled := by
  rcases Operation.refine_cases refines with ⟨error, refusal, -, rfl, -⟩ |
      ⟨schema, heard, passes, described, asks, rfl, -⟩
  · rw [refinementRefusal?_eq flawless words] at refusal
    exact ((Operation.immediate_compile refusal).runs compiles).2.1.symm
  · rw [refinementRefusal?_eq flawless words] at passes
    rcases Operation.compile_cases compiles with ⟨error, refusal, -⟩ |
        ⟨other, accepts, ⟨intent, found, -⟩ | ⟨-, given, asksToo, rfl, -⟩⟩
    · cases passes.symm.trans refusal
    · cases missed.symm.trans found
    · obtain rfl := accepts.schema_eq ⟨flawless, described⟩
      rw [asksToo.heard_eq asks fun reply answer => alike _ reply _ answer, sameTime]

/-- Whatever the feedback and the earlier query are, refining a question gives what compiling it
gives at the same time when nothing is remembered, if both hear the same of the language model. So
two refinements that hear the same give the same. -/
theorem refined_as_compiled (flawless : pipeline.requestError? request request.execute = none)
    (words : Text.trim feedback ≠ "")
    {start final : Session} {others : List Contact} {refined : Except Error GeneratedQuery}
    (refines : Runs (pipeline.refine request feedback earlier) start others refined final) :
    (∀ {before after : Session} {contacts : List Contact} {compiled : Except Error GeneratedQuery},
        Runs (pipeline.compile request) before contacts compiled after →
        before.elapsed = start.elapsed → before.recalled? (pipeline.key request) = none →
        AnsweredAlike pipeline.settings.reasoning.timeoutMillis contacts others →
        refined = compiled) ∧
      ∀ {remark : String} {prior : GeneratedQuery} {before after : Session}
        {contacts : List Contact} {again : Except Error GeneratedQuery}, Text.trim remark ≠ "" →
        Runs (pipeline.refine request remark prior) before contacts again after →
        before.elapsed = start.elapsed →
        AnsweredAlike pipeline.settings.reasoning.timeoutMillis contacts others →
        refined = again :=
  ⟨fun compiles => refined_as_missed flawless words refines compiles,
    fun wordsToo refinesToo => refined_as_refined flawless words wordsToo refines refinesToo⟩

theorem answeredAlike_of_follows {deadline : Nat} {reply : Reasoning.Reply}
    {search other : Search.Call → Search.Reply} {others : List Contact}
    (follow : ∀ contact ∈ contacts, contact.Follows (fun _ => reply) search)
    (followToo : ∀ contact ∈ others, contact.Follows (fun _ => reply) other) :
    AnsweredAlike deadline contacts others := by
  intro call given otherCall otherGiven last lastToo
  have same : given = reply := follow _ (List.mem_of_getLast? last)
  have sameToo : otherGiven = reply := followToo _ (List.mem_of_getLast? lastToo)
  rw [same, sameToo]

private def mailRequest : Request := .ask "all mail" "communications"

private def wildcardQuery : GeneratedQuery :=
  ⟨"any", .object [("script", .string "*")], "", .plain .search .zero⟩

private def readableAnswer : Reasoning.Reply := ⟨20, .ok "{}"⟩

theorem mail_refined_as_compiled :
    let pipeline : Pipeline := ⟨.default, Schema.builtIn, .origin⟩
    let deadline := pipeline.settings.reasoning.timeoutMillis
    ∃ others refined final contacts compiled after calls again last,
      pipeline.requestError? mailRequest mailRequest.execute = none ∧ Text.trim "newer" ≠ "" ∧
      Runs (pipeline.refine mailRequest "newer" wildcardQuery) (.fresh true) others refined final ∧
      (Runs (pipeline.compile mailRequest) (.fresh true) contacts compiled after ∧
        (Session.fresh true).recalled? (pipeline.key mailRequest) = none ∧
        AnsweredAlike deadline contacts others) ∧
      (Text.trim "older" ≠ "" ∧
        Runs (pipeline.refine mailRequest "older" { wildcardQuery with index := "" })
          (.fresh true) calls again last ∧
        AnsweredAlike deadline calls others) ∧
      refined.isOk = true ∧ refined = compiled ∧ refined = again := by
  intro pipeline deadline
  let engine : Search.Call → Search.Reply := fun _ => ⟨0, .error (.timeout 0)⟩
  have flawless : pipeline.requestError? mailRequest mailRequest.execute = none := by
    decide +kernel
  have words : Text.trim "newer" ≠ "" := by decide +kernel
  have wordsToo : Text.trim "older" ≠ "" := by decide +kernel
  obtain ⟨others, refined, final, refines, follow⟩ := Operation.exists_runs
    (pipeline.refine mailRequest "newer" wildcardQuery) (.fresh true) (fun _ => readableAnswer)
    engine
  obtain ⟨contacts, compiled, after, compiles, followCompiled⟩ := Operation.exists_runs
    (pipeline.compile mailRequest) (.fresh true) (fun _ => readableAnswer) engine
  obtain ⟨calls, again, last, refinesToo, followAgain⟩ := Operation.exists_runs
    (pipeline.refine mailRequest "older" { wildcardQuery with index := "" }) (.fresh true)
    (fun _ => readableAnswer) engine
  have alike : AnsweredAlike deadline contacts others :=
    answeredAlike_of_follows followCompiled follow
  have alikeToo : AnsweredAlike deadline calls others := answeredAlike_of_follows followAgain follow
  obtain ⟨asCompiled, asRefined⟩ := refined_as_compiled flawless words refines
  have same := asCompiled compiles rfl rfl alike
  have accepts : pipeline.Accepts mailRequest .communications := ⟨flawless, by decide +kernel⟩
  have given := ((Operation.compiles_compile compiles).of_missed followCompiled accepts rfl).1
  have sound : compiled.isOk = true := by
    rw [given]
    decide +kernel
  exact ⟨others, refined, final, contacts, compiled, after, calls, again, last, flawless, words,
    refines, ⟨compiles, rfl, alike⟩, ⟨wordsToo, refinesToo, alikeToo⟩, same ▸ sound, same,
    asRefined wordsToo refinesToo rfl alikeToo⟩

end AnalystQuery.Pipeline
