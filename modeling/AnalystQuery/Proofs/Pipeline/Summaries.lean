import AnalystQuery.Proofs.Pipeline.CallBudget

/-! Summaries stand beside the result. Whatever the language model says when it is asked for one,
an answer has the same query and the same findings, and some words to sum them up. -/

namespace AnalystQuery.Pipeline

open Operation (Runs)
open Prompt (intentInstructions summaryInstructions nothingFound plainSummary)

variable {pipeline : Pipeline} {request : Request} {before after : Session}
  {contacts others : List Contact}

theorem nothingFound_ne : nothingFound ≠ "" := by decide +kernel

theorem plainSummary_ne (index : String) (total : Nat) : plainSummary index total ≠ "" := by
  intro empty
  have letters := congrArg String.toList empty
  rw [plainSummary] at letters
  simp at letters

theorem summaryText_ne (index : String) (total : Nat) (heard : Except ReasoningError String) :
    summaryText index total heard ≠ "" := by
  rw [summaryText]
  cases said : (heard.toOption.map Text.trim).filter (· != "") with
  | none => exact plainSummary_ne index total
  | some text =>
    have words := (Option.filter_eq_some_iff.mp said).2
    simpa using words

theorem summaryText_of_silence {index : String} {total : Nat}
    {heard : Except ReasoningError String}
    (silent : ∀ text, heard = .ok text → Text.trim text = "") :
    summaryText index total heard = plainSummary index total := by
  rw [summaryText]
  cases heard with
  | error cause => rfl
  | ok text =>
    have blank := silent text rfl
    change ((some (Text.trim text)).filter (· != "")).getD _ = _
    rw [blank]
    rfl

theorem summaryText_of_words {index : String} {total : Nat} {text : String}
    (words : Text.trim text ≠ "") : summaryText index total (.ok text) = Text.trim text := by
  change ((some (Text.trim text)).filter (· != "")).getD _ = _
  rw [Option.filter_some, if_pos (by simpa using words)]
  rfl

/-- The summary of an answer: fixed words where nothing was found, for which nothing is asked, and
else what the language model says, or the plain words if it says nothing. -/
structure Summed (pipeline : Pipeline) (request : Request) (before : Session)
    (contacts : List Contact) (answer : Answer) (after : Session) : Prop where
  same : answer.summary = answer.findings.summary
  words : answer.summary ≠ ""
  nothing : answer.findings.total = 0 → answer.summary = nothingFound ∧
    ∃ asks searched, Spends before.postponed contacts after.postponed asks searched ∧
      ∀ call ∈ asks, call.instructions ≠ some summaryInstructions
  something : answer.findings.total ≠ 0 → ∃ earlier last postponed heard,
    contacts = earlier ++ last ∧
    Asks pipeline.settings.reasoning.summaryTimeoutMillis
      (pipeline.summaryCall request
        ⟨answer.findings.total, answer.findings.documents, answer.findings.aggregations⟩)
      postponed last heard after.postponed ∧
    (∀ text, heard = .ok text → Text.trim text ≠ "" → answer.summary = Text.trim text) ∧
    ((∀ text, heard = .ok text → Text.trim text = "") →
      answer.summary = plainSummary request.index answer.findings.total)

theorem summaryInstructions_ne_intent :
    some intentInstructions ≠ some summaryInstructions :=
  fun same => summaryInstructions_ne (Option.some.inj same).symm

theorem CompileCalls.instructions {session : Session} {asks : List Reasoning.Call}
    (budget : pipeline.CompileCalls session request asks) :
    ∀ call ∈ asks, call.instructions = some intentInstructions := by
  rw [CompileCalls.eq_def] at budget
  split at budget
  · rw [budget]
    exact List.forall_mem_nil _
  · obtain ⟨schema, rfl⟩ := budget
    exact List.forall_mem_singleton.mpr rfl

theorem answer_summed {answer : Answer}
    (runs : Runs (pipeline.answer request) before contacts (.ok answer) after) :
    pipeline.Summed request before contacts answer after := by
  obtain ⟨first, compiled, between, compiles, ends⟩ := Operation.answer_cases runs
  rcases ends with ⟨error, -, -, same, -⟩ | ⟨query, second, executed, rfl, rfl, executes, gives⟩
  · cases same
  rcases gives with ⟨error, -, same⟩ | ⟨findings, millis, rfl, same⟩
  · cases same
  obtain rfl := Except.ok.inj same
  obtain ⟨early, budget, spends⟩ : ∃ early,
      pipeline.CompileCalls before { request with execute := true } early ∧
        Spends before.postponed first between.postponed early [] := by
    cases charges_compile compiles with
    | refused fast => exact fast.elim
    | spent _ keeps spends =>
      obtain ⟨rfl, budget⟩ := keeps
      exact ⟨_, budget, spends⟩
  cases executes with
  | @found begun rest caught _ summary reply response millis finds catches sums =>
    cases sums with
    | nothing none =>
      have searched := (spends_search between.postponed (searchCall query) reply).join
        (catches.spends.join (spends_nothing _))
      refine ⟨rfl, nothingFound_ne, fun _ => ⟨rfl, _, _, spends.join searched, ?_⟩, ?_⟩
      · intro call member sums
        have inside : call ∈ early := by simpa using member
        exact summaryInstructions_ne_intent ((budget.instructions call inside).symm.trans sums)
      · exact fun some => absurd none some
    | @asked _ heard _ some asks =>
      refine ⟨rfl, summaryText_ne _ _ _, fun none => absurd none some, fun _ => ?_⟩
      refine ⟨first ++ (.searched (searchCall query) reply :: begun), rest, caught, heard, ?_, asks,
        ?_, ?_⟩
      · simp only [List.append_assoc, List.cons_append]
      · rintro text rfl words
        dsimp only
        exact summaryText_of_words words
      · exact summaryText_of_silence

/-- The same calls are answered alike in both runs, except calls for a summary. -/
structure AgreeButSummaries (contacts others : List Contact) : Prop where
  asked : ∀ call reply other, .asked call reply ∈ contacts → .asked call other ∈ others →
    call.instructions ≠ some summaryInstructions → reply = other
  searched : ∀ call reply other, .searched call reply ∈ contacts →
    .searched call other ∈ others → reply = other

/-- What a search gave, as the findings tell it. -/
def foundResponse (findings : Findings) : Search.Response :=
  ⟨findings.total, findings.documents, findings.aggregations⟩

/-- An answer without its summary and its times. -/
def answerResult (answer : Answer) : GeneratedQuery × Search.Response :=
  (answer.query, foundResponse answer.findings)

theorem AgreeButSummaries.compiled {first second : List Contact} {middle final : Session}
    {compiled other : Except Error GeneratedQuery} (agree : AgreeButSummaries contacts others)
    (inFirst : first ⊆ contacts) (inSecond : second ⊆ others)
    (compiles : Runs (pipeline.compile request) before first compiled middle)
    (also : Runs (pipeline.compile request) before second other final) : compiled = other := by
  rcases Operation.compile_cases compiles with ⟨error, refusal, -, rfl, -⟩ |
      ⟨schema, accepts, ⟨intent, recalled, -, rfl, -⟩ | ⟨missed, heard, asks, rfl, -⟩⟩
  · exact ((Operation.immediate_compile refusal).runs also).2.1.symm
  · exact ((Operation.compiles_compile also).of_recalled accepts recalled).2.1.symm
  · rcases Operation.compile_cases also with ⟨error, refusal, -⟩ |
        ⟨schemaToo, acceptsToo, ⟨intent, recalled, -⟩ | ⟨-, given, asksToo, rfl, -⟩⟩
    · cases refusal.symm.trans accepts.refusal?_eq
    · cases missed.symm.trans recalled
    · obtain rfl := accepts.schema_eq acceptsToo
      rw [asks.heard_eq asksToo fun reply answer last lastToo => ?_]
      rw [agree.asked _ reply answer (inFirst (List.mem_of_getLast? last))
        (inSecond (List.mem_of_getLast? lastToo)) summaryInstructions_ne_intent]

theorem Executes.result {query : GeneratedQuery} {postponed left : List Reasoning.Call}
    {executed : Except Error Findings}
    (executes : Executes pipeline request query postponed contacts executed left) :
    ∃ reply, .searched (searchCall query) reply ∈ contacts ∧
      executed.map foundResponse = reply.outcome.mapError .execution := by
  cases executes with
  | failed reply cause fails =>
    refine ⟨reply, List.mem_cons_self, ?_⟩
    rw [fails]
    rfl
  | found reply response millis finds =>
    refine ⟨reply, List.mem_cons_self, ?_⟩
    rw [finds]
    rfl

/-- What an answer holds besides its summary is settled by what is compiled and by one search. -/
theorem answer_result {outcome : Except Error Answer}
    (runs : Runs (pipeline.answer request) before contacts outcome after) :
    ∃ first compiled between, first ⊆ contacts ∧
      Runs (pipeline.compile { request with execute := true }) before first compiled between ∧
      match compiled with
      | .error error => outcome.map answerResult = .error error
      | .ok query => ∃ reply, .searched (searchCall query) reply ∈ contacts ∧
          outcome.map answerResult = (reply.outcome.mapError .execution).map (query, ·) := by
  obtain ⟨first, compiled, between, compiles, ends⟩ := Operation.answer_cases runs
  rcases ends with ⟨error, rfl, rfl, rfl, -⟩ | ⟨query, second, executed, rfl, rfl, executes, gives⟩
  · exact ⟨contacts, _, between, List.Subset.refl _, compiles, rfl⟩
  · obtain ⟨reply, searched, found⟩ := executes.result
    refine ⟨first, _, between, List.subset_append_left _ _, compiles, reply,
      List.mem_append_right _ searched, ?_⟩
    rw [← found]
    rcases gives with ⟨error, rfl, rfl⟩ | ⟨findings, millis, rfl, rfl⟩
    · rfl
    · rfl

theorem Executes.foundResponse_eq {query : GeneratedQuery} {postponed left : List Reasoning.Call}
    {executed : Except Error Findings} {call : Search.Call} {reply : Search.Reply}
    {response : Search.Response}
    (executes : Executes pipeline request query postponed contacts executed left)
    (searched : .searched call reply ∈ contacts) (finds : reply.outcome = .ok response) :
    ∃ findings, executed = .ok findings ∧ foundResponse findings = response := by
  cases executes with
  | failed own cause fails catches =>
    rcases List.mem_cons.mp searched with same | later
    · cases same
      cases finds.symm.trans fails
    · exact absurd later catches.spends.unsearched
  | found own given millis findsOwn catches sums =>
    rcases List.mem_cons.mp searched with same | later
    · cases same
      rw [Except.ok.inj (finds.symm.trans findsOwn)]
      exact ⟨_, rfl, rfl⟩
    · exact absurd later (catches.spends.join sums.spends).unsearched

theorem answer_of_response {outcome : Except Error Answer} {call : Search.Call}
    {reply : Search.Reply} {response : Search.Response}
    (runs : Runs (pipeline.answer request) before contacts outcome after)
    (searched : .searched call reply ∈ contacts) (finds : reply.outcome = .ok response) :
    ∃ answer, outcome = .ok answer ∧ foundResponse answer.findings = response := by
  obtain ⟨first, compiled, between, compiles, ends⟩ := Operation.answer_cases runs
  have unsearched : .searched call reply ∉ first := by
    cases charges_compile compiles with
    | refused => exact List.not_mem_nil
    | spent _ keeps spends =>
      obtain ⟨rfl, -⟩ := keeps
      exact spends.unsearched
  rcases ends with ⟨error, -, rfl, -⟩ | ⟨query, second, executed, -, rfl, executes, gives⟩
  · exact absurd searched unsearched
  · have inSecond := (List.mem_append.mp searched).resolve_left unsearched
    obtain ⟨findings, rfl, found⟩ := executes.foundResponse_eq inSecond finds
    rcases gives with ⟨error, same, -⟩ | ⟨given, millis, same, rfl⟩
    · cases same
    · obtain rfl := Except.ok.inj same
      exact ⟨_, rfl, found⟩

theorem AgreeButSummaries.answered {outcome other : Except Error Answer} {final : Session}
    (agree : AgreeButSummaries contacts others)
    (runs : Runs (pipeline.answer request) before contacts outcome after)
    (also : Runs (pipeline.answer request) before others other final) :
    outcome.map answerResult = other.map answerResult := by
  obtain ⟨first, compiled, between, inFirst, compiles, ends⟩ := answer_result runs
  obtain ⟨second, compiledToo, betweenToo, inSecond, compilesToo, endsToo⟩ := answer_result also
  obtain rfl := agree.compiled inFirst inSecond compiles compilesToo
  cases compiled with
  | error error => rw [ends, endsToo]
  | ok query =>
    obtain ⟨reply, searched, given⟩ := ends
    obtain ⟨answer, searchedToo, givenToo⟩ := endsToo
    rw [given, givenToo, agree.searched _ reply answer searched searchedToo]

/-- Summaries never decide about an answer. Two runs that differ in what is replied to calls for a
summary fail for the same reason, or give the same query and the same findings. What a search gave
is handed on, and the words for it are settled by what was heard. -/
theorem answer_despite_summary {outcome other : Except Error Answer} {final : Session}
    (runs : Runs (pipeline.answer request) before contacts outcome after)
    (also : Runs (pipeline.answer request) before others other final)
    (agree : AgreeButSummaries contacts others) :
    outcome.map answerResult = other.map answerResult ∧
      (∀ call reply response, .searched call reply ∈ contacts → reply.outcome = .ok response →
        ∃ answer, outcome = .ok answer ∧ foundResponse answer.findings = response) ∧
      ∀ answer, outcome = .ok answer → pipeline.Summed request before contacts answer after := by
  refine ⟨agree.answered runs also, fun _ _ _ => answer_of_response runs, ?_⟩
  rintro answer rfl
  exact answer_summed runs

theorem agreeButSummaries_of_follows {ask answer : Reasoning.Call → Reasoning.Reply}
    {search : Search.Call → Search.Reply}
    (same : ∀ call, call.instructions ≠ some summaryInstructions → ask call = answer call)
    (follow : ∀ contact ∈ contacts, contact.Follows ask search)
    (followToo : ∀ contact ∈ others, contact.Follows answer search) :
    AgreeButSummaries contacts others := by
  constructor
  · intro call reply other inFirst inSecond reads
    have given : reply = ask call := follow _ inFirst
    have givenToo : other = answer call := followToo _ inSecond
    rw [given, givenToo, same call reads]
  · intro call reply other inFirst inSecond
    have given : reply = search call := follow _ inFirst
    have givenToo : other = search call := followToo _ inSecond
    rw [given, givenToo]

private def mailOffice : Pipeline := ⟨.default, Schema.builtIn, .origin⟩

private def allMail : Request := .ask "all mail" "communications"

@[irreducible]
private def summarizing (summary : Except ReasoningError String) (call : Reasoning.Call) :
    Reasoning.Reply :=
  if call.instructions = some summaryInstructions then ⟨40, summary⟩ else ⟨20, .ok "\x7b\x7d"⟩

theorem all_mail_despite_summary :
    ∃ contacts outcome after others other final,
      Runs (mailOffice.answer allMail) (.fresh true) contacts outcome after ∧
      Runs (mailOffice.answer allMail) (.fresh true) others other final ∧
      (∀ contact ∈ contacts, contact.Follows (summarizing (.ok " Two mails. "))
        fun _ => ⟨30, .ok ⟨2, [], none⟩⟩) ∧
      (∀ contact ∈ others, contact.Follows (summarizing (.error .rateLimited))
        fun _ => ⟨30, .ok ⟨2, [], none⟩⟩) ∧
      AgreeButSummaries contacts others ∧ outcome.isOk = true ∧
      outcome.map answerResult = other.map answerResult ∧
      ∀ answer, outcome = .ok answer →
        mailOffice.Summed allMail (.fresh true) contacts answer after := by
  let search : Search.Call → Search.Reply := fun _ => ⟨30, .ok ⟨2, [], none⟩⟩
  obtain ⟨contacts, outcome, after, runs, follow⟩ := Operation.exists_runs
    (mailOffice.answer allMail) (.fresh true) (summarizing (.ok " Two mails. ")) search
  obtain ⟨others, other, final, also, followToo⟩ := Operation.exists_runs
    (mailOffice.answer allMail) (.fresh true) (summarizing (.error .rateLimited)) search
  have agree : AgreeButSummaries contacts others := by
    refine agreeButSummaries_of_follows (fun call reads => ?_) follow followToo
    rw [summarizing, summarizing, if_neg reads, if_neg reads]
  have answers : outcome.isOk = true := by
    obtain ⟨first, compiled, between, inside, compiles, ends⟩ := answer_result runs
    have accepts : mailOffice.Accepts { allMail with execute := true } .communications :=
      ⟨by decide +kernel, by decide +kernel⟩
    have read := (Operation.compiles_compile compiles).of_missed
      (fun contact member => follow contact (inside member)) accepts rfl
    have replied : summarizing (.ok " Two mails. ") (mailOffice.intentCall
        { allMail with execute := true } .communications (Session.fresh true).elapsed) =
          ⟨20, .ok "\x7b\x7d"⟩ := by
      rw [summarizing]
      exact if_neg summaryInstructions_ne_intent
    rw [replied] at read
    have passes : compiled.isOk = true := by
      rw [read.1]
      decide +kernel
    cases compiled with
    | error error => cases passes
    | ok query =>
      obtain ⟨reply, searched, given⟩ := ends
      have found : reply = search (searchCall query) := follow _ searched
      rw [found] at given
      cases outcome with
      | ok answer => rfl
      | error error => cases given
  obtain ⟨same, -, summed⟩ := answer_despite_summary runs also agree
  exact ⟨contacts, outcome, after, others, other, final, runs, also, follow, followToo, agree,
    answers, same, summed⟩

end AnalystQuery.Pipeline
