import AnalystQuery.Proofs.Pipeline.Blindness
import AnalystQuery.Proofs.Pipeline.CacheHits

/-! Late replies are never used. Two runs that differ in late replies only cannot be told apart, and
whatever is remembered or compiled was read in a reply that came in time. -/

namespace AnalystQuery.Pipeline

open Reasoning (Reply)

variable {pipeline : Pipeline}

/-- The intent was read in a reply that came in time for its call. -/
def ReadInTime (pipeline : Pipeline) (contacts : List Contact) (intent : Intent) : Prop :=
  ∃ request time call reply answer, .asked call reply ∈ contacts ∧
    reply.isLate (pipeline.patience call) = false ∧ reply.outcome = .ok answer ∧
    intent = (pipeline.reading request time answer).intent

theorem ReadInTime.mono {contacts others : List Contact} {intent : Intent}
    (read : pipeline.ReadInTime contacts intent) (inside : contacts ⊆ others) :
    pipeline.ReadInTime others intent := by
  obtain ⟨request, time, call, reply, answer, member, rest⟩ := read
  exact ⟨request, time, call, reply, answer, inside member, rest⟩

theorem of_within {reply : Reply} {deadline : Nat} {answer : String}
    (heard : reply.within deadline = .ok answer) :
    reply.isLate deadline = false ∧ reply.outcome = .ok answer := by
  rw [Reply.within] at heard
  split at heard
  · rename_i early
    exact ⟨decide_eq_false (Nat.not_le.mpr early), heard⟩
  · cases heard

variable {before after : Session} {contacts : List Contact}

theorem readInTime_of_within {request : Request} {call : Reasoning.Call} {time : Nat}
    {reply : Reply} {answer : String} (member : .asked call reply ∈ contacts)
    (intent : call.instructions = some Prompt.intentInstructions)
    (heard : reply.within pipeline.settings.reasoning.timeoutMillis = .ok answer) :
    pipeline.ReadInTime contacts (pipeline.reading request time answer).intent := by
  rw [← patience_of_intent intent] at heard
  obtain ⟨early, said⟩ := of_within heard
  exact ⟨request, time, call, reply, answer, member, early, said, rfl⟩

/-- An intent was in the cache before, or was read in time. -/
def Known (pipeline : Pipeline) (before : Session) (contacts : List Contact)
    (intent : Intent) : Prop :=
  (∃ entry ∈ before.cache.entries, entry.intent = intent) ∨ pipeline.ReadInTime contacts intent

theorem Known.mono {contacts others : List Contact} {intent : Intent}
    (known : pipeline.Known before contacts intent) (inside : contacts ⊆ others) :
    pipeline.Known before others intent :=
  known.imp_right (·.mono inside)

/-- All intents that are cached afterwards or make up a query are known. -/
structure Learns (pipeline : Pipeline) (before : Session) (contacts : List Contact)
    (outcomes : List (Except Error Result)) (after : Session) : Prop where
  cached : ∀ entry ∈ after.cache.entries, pipeline.Known before contacts entry.intent
  compiled : ∀ result generated, .ok result ∈ outcomes → result.query? = some generated →
    pipeline.Known before contacts generated.intent

theorem Compiles.learns {request : Request} {outcome : Except Error GeneratedQuery}
    {cache : IntentCache} (compiles : Compiles pipeline request before contacts outcome cache) :
    (∀ entry ∈ cache.entries, pipeline.Known before contacts entry.intent) ∧
      ∀ generated, outcome = .ok generated →
        pipeline.Known before contacts generated.intent := by
  have stays : ∀ entry ∈ before.cache.entries, pipeline.Known before contacts entry.intent :=
    fun entry member => Or.inl ⟨entry, member, rfl⟩
  cases compiles with
  | refused | hopeless | unanswered => exact ⟨stays, fun _ given => nomatch given⟩
  | remembered schema intent accepts found =>
    refine ⟨stays, fun generated given => Or.inl ?_⟩
    obtain ⟨entry, member, -, -, same⟩ := Session.mem_of_recalled? found
    exact ⟨entry, member, same.trans (verdict_intent given).symm⟩
  | read schema accepts missed begun reply answer hopeful postponed answered =>
    have member : .asked (pipeline.intentCall request schema before.elapsed) reply ∈
        begun ++ [.asked (pipeline.intentCall request schema before.elapsed) reply] :=
      List.mem_append_right begun List.mem_cons_self
    have read : pipeline.ReadInTime _ (pipeline.reading request before.elapsed answer).intent :=
      readInTime_of_within member rfl answered
    refine ⟨fun entry member => ?_, fun generated given => Or.inr ?_⟩
    · rcases mem_kept missed member with old | ⟨-, -, rfl⟩
      · exact stays entry old
      · exact Or.inr read
    · rwa [verdict_intent given]

theorem perform_query_known {task : Task} {outcome : Except Error Result} {result : Result}
    {generated : GeneratedQuery}
    (runs : Operation.Runs (pipeline.perform task) before contacts outcome after)
    (given : outcome = .ok result) (holds : result.query? = some generated) :
    pipeline.Known before contacts generated.intent := by
  subst given
  rcases query_of_perform runs holds with ⟨request, first, second, _, -, rfl, compiles⟩ |
      ⟨request, feedback, earlier, -, refines⟩
  · exact ((Operation.compiles_compile compiles).learns.2 generated rfl).mono
      (List.subset_append_left first second)
  · rcases Operation.refine_cases refines with ⟨error, -, -, same, -⟩ |
        ⟨schema, heard, -, -, asks, given, -⟩
    · cases same
    · cases heard with
      | error cause => cases given
      | ok answer =>
        rw [response] at given
        obtain ⟨reply, member, answered⟩ := asks.asked_of_ok
        rw [verdict_intent given.symm]
        exact Or.inr (readInTime_of_within member rfl answered)

theorem perform_learns {task : Task} {outcome : Except Error Result}
    (runs : Operation.Runs (pipeline.perform task) before contacts outcome after) :
    pipeline.Learns before contacts [outcome] after := by
  constructor
  · intro entry member
    rcases perform_cache runs with same | ⟨request, first, second, compiled, rfl, compiles⟩
    · exact Or.inl ⟨entry, same ▸ member, rfl⟩
    · exact (compiles.learns.1 entry member).mono (List.subset_append_left first second)
  · intro result generated given
    exact perform_query_known runs (List.mem_singleton.mp given).symm

theorem Learns.join {between : Session} {first second : List Contact}
    {outcomes results : List (Except Error Result)}
    (early : pipeline.Learns before first outcomes between)
    (late : pipeline.Learns between second results after) :
    pipeline.Learns before (first ++ second) (outcomes ++ results) after := by
  have known {intent : Intent} (later : pipeline.Known between second intent) :
      pipeline.Known before (first ++ second) intent := by
    rcases later with ⟨entry, member, rfl⟩ | read
    · exact (early.cached entry member).mono (List.subset_append_left first second)
    · exact Or.inr (read.mono (List.subset_append_right first second))
  refine ⟨fun entry member => known (late.cached entry member), fun result generated given => ?_⟩
  rcases List.mem_append.mp given with past | last
  · exact fun holds => (early.compiled result generated past holds).mono
      (List.subset_append_left first second)
  · exact fun holds => known (late.compiled result generated last holds)

theorem performAll_learns {tasks : List Task} {outcomes : List (Except Error Result)}
    (runs : Activity.Runs (pipeline.performAll tasks) before contacts outcomes after) :
    pipeline.Learns before contacts outcomes after := by
  induction tasks generalizing before contacts outcomes with
  | nil =>
    obtain ⟨rfl, rfl, rfl⟩ := Activity.runs_pure_iff.mp runs
    exact ⟨fun entry member => Or.inl ⟨entry, member, rfl⟩, fun _ _ none => nomatch none⟩
  | cons task rest ih =>
    obtain ⟨first, _, outcome, between, rfl, performs, going⟩ := Activity.runs_bind_iff.mp runs
    obtain ⟨second, _, others, _, rfl, performsRest, gives⟩ := Activity.runs_bind_iff.mp going
    obtain ⟨rfl, rfl, rfl⟩ := Activity.runs_pure_iff.mp gives
    rw [List.append_nil]
    exact (perform_learns performs).join (ih performsRest)

/-- Late replies are never used. Two runs of the same tasks that differ in late replies only give
the same outcomes, leave the same session and make the same calls; and intents are read in replies
that come in time. -/
theorem late_replies_unused {tasks : List Task} {others : List Contact}
    {outcomes results : List (Except Error Result)} {final : Session}
    (runs : Activity.Runs (pipeline.performAll tasks) before contacts outcomes after)
    (also : Activity.Runs (pipeline.performAll tasks) before others results final)
    (alike : AlikeButLate pipeline.patience contacts others) :
    results = outcomes ∧ final = after ∧
      others.map Contact.issued = contacts.map Contact.issued ∧
      pipeline.Learns before contacts outcomes after := by
  obtain ⟨same, issued⟩ := (Activity.blind_performAll tasks before).runs_eq runs also alike
  obtain ⟨sameOutcomes, sameSession⟩ := Prod.mk.inj same
  exact ⟨sameOutcomes, sameSession, issued, performAll_learns runs⟩

private def patientOffice : Pipeline := ⟨.default, Schema.builtIn, .origin⟩

private def overloaded : Request :=
  { Request.ask "all mail" "communications" with rateLimitKey := some "busy" }

/-- A question for which the answer comes too late, and the same question once more. -/
private def repeatedMail : List Task :=
  [.compile overloaded, .compile (.ask "all mail" "communications")]

@[irreducible]
private def hesitant (call : Reasoning.Call) : Reply :=
  if call.rateLimitKey = some "busy" then ⟨60000, .ok "\x7b\"intent\":\"trend\"\x7d"⟩
  else ⟨20, .ok "\x7b\x7d"⟩

private def interrupted (call : Reasoning.Call) (reply : Reply) : Reply :=
  if reply.isLate (patientOffice.patience call) then ⟨reply.delay, .error (.aborted "panic")⟩
  else reply

private theorem hesitant_asked {outcomes : List (Except Error Result)}
    (runs : Activity.Runs (patientOffice.performAll repeatedMail) (.fresh true) contacts outcomes
      after) :
    ∃ call reply, call.rateLimitKey = some "busy" ∧ .asked call reply ∈ contacts := by
  have accepts : patientOffice.Accepts overloaded .communications :=
    ⟨by decide +kernel, by decide +kernel⟩
  obtain ⟨first, second, outcome, between, rfl, performs, -⟩ := Activity.runs_bind_iff.mp runs
  obtain ⟨compiled, -, compiles⟩ := Operation.runs_map_iff.mp performs
  have ways := Operation.compiles_compile compiles
  generalize between.cache = cache at ways
  cases ways with
  | refused other refusal => cases refusal.symm.trans accepts.refusal?_eq
  | remembered schema intent also found => cases found
  | hopeless schema also missed timeless => cases timeless
  | unanswered schema also missed begun reply | read schema also missed begun reply =>
    exact ⟨_, reply, rfl, List.mem_append_left second
      (List.mem_append_right begun List.mem_cons_self)⟩

theorem late_trend_unused :
    ∃ contacts outcomes after others results final,
      Activity.Runs (patientOffice.performAll repeatedMail) (.fresh true) contacts outcomes after ∧
      Activity.Runs (patientOffice.performAll repeatedMail) (.fresh true) others results final ∧
      AlikeButLate patientOffice.patience contacts others ∧ others ≠ contacts ∧
      results = outcomes ∧ final = after ∧
      others.map Contact.issued = contacts.map Contact.issued ∧
      patientOffice.Learns (.fresh true) contacts outcomes after := by
  have exchanges : Exchanges patientOffice.patience interrupted := by
    refine ⟨fun call reply early => ?_, fun call reply late => ?_⟩
    · rw [interrupted, early]
      rfl
    · rw [interrupted, if_pos late]
      exact late
  obtain ⟨contacts, outcomes, after, runs, follow⟩ := Activity.exists_runs
    (patientOffice.performAll repeatedMail) (.fresh true) hesitant fun _ => ⟨30, .ok ⟨2, [], none⟩⟩
  have also := (Activity.blind_performAll repeatedMail (.fresh true)).runs_exchanged exchanges runs
  have alike := alikeButLate_exchanged exchanges contacts
  refine ⟨contacts, outcomes, after, _, outcomes, after, runs, also, alike, ?_,
    late_replies_unused runs also alike⟩
  intro same
  obtain ⟨call, reply, busy, asked⟩ := hesitant_asked runs
  have unchanged := List.map_inj_left.mp (same.trans (List.map_id _).symm) _ asked
  have given : reply = hesitant call := follow _ asked
  have late : (hesitant call).isLate (patientOffice.patience call) = true := by
    rw [hesitant, if_pos busy, patience]
    split <;> decide
  have kept : interrupted call (hesitant call) = hesitant call := by
    rw [given] at unchanged
    exact (Contact.asked.inj unchanged).2
  rw [interrupted, if_pos late, hesitant, if_pos busy] at kept
  cases kept

end AnalystQuery.Pipeline
