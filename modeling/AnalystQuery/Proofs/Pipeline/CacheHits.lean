import AnalystQuery.Proofs.Pipeline.Executions
import AnalystQuery.Proofs.Pipeline.Refinement
import AnalystQuery.Proofs.Request.Identity

/-! Where remembered intents come from. Whatever a session was used for before, a question that is
answered without a call of the language model is answered with what was read in the newest answer
that the model gave about a question with the same identity. -/

namespace AnalystQuery.Pipeline

open Operation (Runs)
open Prompt (intentInstructions summaryInstructions)

variable {pipeline : Pipeline} {before after : Session} {contacts : List Contact}

/-- A task that was carried out, with the time at which it began. -/
structure Step where
  task : Task
  time : Nat
  contacts : List Contact
  outcome : Except Error Result

/-- The steps that bring a session from its beginning to where it is. -/
inductive History (pipeline : Pipeline) : List Step → Session → Prop where
  | fresh (cacheEnabled : Bool) : History pipeline [] (.fresh cacheEnabled)
  | step {steps : List Step} {before after : Session} {task : Task} {contacts : List Contact}
      {outcome : Except Error Result} (earlier : History pipeline steps before)
      (performs : Runs (pipeline.perform task) before contacts outcome after) :
      History pipeline (steps ++ [⟨task, before.elapsed, contacts, outcome⟩]) after

def Task.compiled? : Task → Option Request
  | .compile request => some request
  | .answer request => some { request with execute := true }
  | _ => none

def Consults (contacts : List Contact) : Prop :=
  ∃ call reply, .asked call reply ∈ contacts ∧ call.instructions = some intentInstructions

/-- What the language model answered about a question, if the answer came in time. -/
def heard? (pipeline : Pipeline) : Contact → Option String
  | .asked call reply =>
    if call.instructions = some intentInstructions then
      (reply.within pipeline.settings.reasoning.timeoutMillis).toOption
    else none
  | .searched _ _ => none

def Step.answers (pipeline : Pipeline) (step : Step) : List String :=
  step.contacts.filterMap pipeline.heard?

/-- This was the answer in time to the call about the question of a request. -/
def Replied (pipeline : Pipeline) (request : Request) (time : Nat) (contacts : List Contact)
    (answer : String) : Prop :=
  ∃ schema reply, .asked (pipeline.intentCall request schema time) reply ∈ contacts ∧
    reply.within pipeline.settings.reasoning.timeoutMillis = .ok answer

-- Nobody waits for the answer of such a call, so nothing is heard of it.
theorem heard?_of_patience {call : Reasoning.Call} (reply : Reasoning.Reply)
    (impatient : pipeline.patience call = 0) : pipeline.heard? (.asked call reply) = none := by
  rw [heard?]
  split
  · rename_i intent
    rw [patience_of_intent intent] at impatient
    rw [impatient]
    rfl
  · rfl

theorem heard?_of_intent {call : Reasoning.Call} (reply : Reasoning.Reply)
    (intent : call.instructions = some intentInstructions) :
    pipeline.heard? (.asked call reply) =
      (reply.within pipeline.settings.reasoning.timeoutMillis).toOption := if_pos intent

theorem heard?_of_summary {call : Reasoning.Call} (reply : Reasoning.Reply)
    (summary : call.instructions = some summaryInstructions) :
    pipeline.heard? (.asked call reply) = none := by
  refine if_neg fun intent => summaryInstructions_ne ?_
  exact Option.some.inj (summary.symm.trans intent)

theorem Keeps.unheard {permitted : Reasoning.Call → Prop}
    (keeps : pipeline.Keeps permitted before contacts after) (givenUp : pipeline.GivenUp before)
    (silent : ∀ call reply, permitted call → pipeline.heard? (.asked call reply) = none) :
    contacts.filterMap pipeline.heard? = [] := by
  refine List.filterMap_eq_nil_iff.mpr fun contact member => ?_
  cases contact with
  | asked call reply =>
    rcases keeps.asked givenUp call reply member with permits | impatient
    · exact silent call reply permits
    · exact heard?_of_patience reply impatient
  | searched call reply => rfl

/-- Compiling leaves the cache as it is and hears nothing, or hears one answer and remembers what it
reads there. -/
theorem Compiles.heard {request : Request} {outcome : Except Error GeneratedQuery}
    {cache : IntentCache} (compiles : Compiles pipeline request before contacts outcome cache)
    (givenUp : pipeline.GivenUp before) :
    contacts.filterMap pipeline.heard? = [] ∧ cache = before.cache ∨
      ∃ answer, before.recalled? (pipeline.key request) = none ∧
        pipeline.Replied request before.elapsed contacts answer ∧
        contacts.filterMap pipeline.heard? = [answer] ∧
        cache = pipeline.kept before (pipeline.key request)
          (pipeline.reading request before.elapsed answer).intent := by
  have unheard {begun : List Contact} (postponed : ∀ contact ∈ begun, ∃ call ∈ before.postponed,
      ∃ reply, contact = .asked call reply) : begun.filterMap pipeline.heard? = [] := by
    refine List.filterMap_eq_nil_iff.mpr fun contact member => ?_
    obtain ⟨call, waiting, reply, rfl⟩ := postponed contact member
    exact heard?_of_patience reply (givenUp call waiting)
  cases compiles with
  | refused | remembered | hopeless => exact Or.inl ⟨rfl, rfl⟩
  | unanswered schema accepts missed begun reply cause hopeful postponed failed =>
    refine Or.inl ⟨?_, rfl⟩
    have silent : pipeline.heard?
        (.asked (pipeline.intentCall request schema before.elapsed) reply) = none := by
      rw [heard?_of_intent reply rfl, failed]
      rfl
    rw [List.filterMap_append, unheard postponed, List.filterMap_cons, silent]
    rfl
  | read schema accepts missed begun reply answer hopeful postponed answered =>
    have replied : pipeline.Replied request before.elapsed (begun ++ [.asked _ reply]) answer :=
      ⟨schema, reply, List.mem_append_right begun List.mem_cons_self, answered⟩
    refine Or.inr ⟨answer, missed, replied, ?_, rfl⟩
    have heard : pipeline.heard?
        (.asked (pipeline.intentCall request schema before.elapsed) reply) = some answer := by
      rw [heard?_of_intent reply rfl, answered]
      rfl
    rw [List.filterMap_append, unheard postponed, List.filterMap_cons, heard]
    rfl

theorem Compiles.recalled {request : Request} {generated : GeneratedQuery} {cache : IntentCache}
    (compiles : Compiles pipeline request before contacts (.ok generated) cache)
    (unasked : ¬ Consults contacts) :
    ∃ schema intent, pipeline.Accepts request schema ∧
      before.recalled? (pipeline.key request) = some intent ∧
      pipeline.verdict request schema intent = .ok generated := by
  generalize given : (.ok generated : Except Error GeneratedQuery) = outcome at compiles
  cases compiles with
  | refused | hopeless | unanswered => cases given
  | remembered schema intent accepts found => exact ⟨schema, intent, accepts, found, rfl⟩
  | read schema accepts missed begun reply answer =>
    exact absurd ⟨_, reply, List.mem_append_right begun List.mem_cons_self, rfl⟩ unasked

theorem Alike.keeps {permitted : Reasoning.Call → Prop} (alike : Alike before after) :
    pipeline.Keeps permitted before [] after := by
  refine ⟨alike.cache, alike.elapsed, fun givenUp => ?_, fun _ _ _ none => nomatch none⟩
  rw [GivenUp, alike.postponed]
  exact givenUp

/-- Answering a question is compiling it, and then calls to sum up what is found at most. -/
theorem runs_answer {request : Request} {outcome : Except Error Answer}
    (runs : Runs (pipeline.answer request) before contacts outcome after) :
    ∃ first second compiled between, contacts = first ++ second ∧
      Runs (pipeline.compile { request with execute := true }) before first compiled between ∧
      pipeline.Keeps (fun call => call.instructions = some summaryInstructions) between second
        after ∧
      ∀ answer, outcome = .ok answer → compiled = .ok answer.query := by
  obtain ⟨first, compiled, between, compiles, ends⟩ := Operation.runs_answer runs
  rcases ends with ⟨error, rfl, rfl, rfl, rfl⟩ |
      ⟨query, second, executed, ended, rfl, rfl, executes, alike, gives⟩
  · refine ⟨contacts, [], _, after, (List.append_nil _).symm, compiles, keeps_composes.stay after,
      ?_⟩
    intro answer same
    cases same
  · have keeps := keeps_composes.join
      (Operation.keeps_run (fun _ => id) _ query _ _ _ _ executes) alike.keeps
    rw [List.append_nil] at keeps
    refine ⟨first, second, _, between, rfl, compiles, keeps, ?_⟩
    rintro answer rfl
    rcases gives with ⟨error, -, same⟩ | ⟨findings, millis, -, same⟩
    · cases same
    · rw [Except.ok.inj same]

theorem runs_compiled {task : Task} {request : Request} {outcome : Except Error Result}
    (asks : task.compiled? = some request)
    (runs : Runs (pipeline.perform task) before contacts outcome after) :
    ∃ first second compiled between, contacts = first ++ second ∧
      Runs (pipeline.compile request) before first compiled between ∧
      pipeline.Keeps (fun call => call.instructions = some summaryInstructions) between second
        after ∧
      ∀ result generated, outcome = .ok result → result.query? = some generated →
        compiled = .ok generated := by
  cases task with
  | compile asked =>
    cases asks
    obtain ⟨compiled, rfl, compiles⟩ := Operation.runs_map_iff.mp runs
    refine ⟨contacts, [], compiled, after, (List.append_nil _).symm, compiles,
      keeps_composes.stay after, ?_⟩
    intro result generated given holds
    cases compiled with
    | error error => cases given
    | ok query =>
      cases given
      cases holds
      rfl
  | answer asked =>
    cases asks
    obtain ⟨answered, rfl, answers⟩ := Operation.runs_map_iff.mp runs
    obtain ⟨first, second, compiled, between, rfl, compiles, keeps, gives⟩ := runs_answer answers
    refine ⟨first, second, compiled, between, rfl, compiles, keeps, ?_⟩
    intro result generated given holds
    cases answered with
    | error error => cases given
    | ok answer =>
      cases given
      cases holds
      exact gives answer rfl
  | refine | execute | executeAll | summarize | advance => cases asks

/-- A task that gives a query has compiled its question, or has refined an earlier query. -/
theorem query_of_perform {task : Task} {result : Result} {generated : GeneratedQuery}
    (performs : Runs (pipeline.perform task) before contacts (.ok result) after)
    (given : result.query? = some generated) :
    (∃ request first second between, task.compiled? = some request ∧ contacts = first ++ second ∧
        Runs (pipeline.compile request) before first (.ok generated) between) ∨
      ∃ request feedback earlier, task = .refine request feedback earlier ∧
        Runs (pipeline.refine request feedback earlier) before contacts (.ok generated) after := by
  have compiles {request : Request} (asked : task.compiled? = some request) :
      ∃ request first second between, task.compiled? = some request ∧ contacts = first ++ second ∧
        Runs (pipeline.compile request) before first (.ok generated) between := by
    obtain ⟨first, second, compiled, between, split, compiling, -, gives⟩ :=
      runs_compiled asked performs
    obtain rfl := gives result generated rfl given
    exact ⟨request, first, second, between, asked, split, compiling⟩
  have noQuery {α : Type} {operation : Operation α} {change : α → Result}
      (lacks : ∀ value, (change value).query? = none)
      (runs : Runs (change <$> operation) before contacts (.ok result) after) : False := by
    obtain ⟨outcome, same, -⟩ := Operation.runs_map_iff.mp runs
    cases outcome with
    | error error => cases same
    | ok value =>
      rw [Except.ok.inj same, lacks] at given
      cases given
  cases task with
  | compile request => exact Or.inl (compiles rfl)
  | answer request => exact Or.inl (compiles rfl)
  | refine request feedback earlier =>
    obtain ⟨outcome, same, refines⟩ := Operation.runs_map_iff.mp performs
    cases outcome with
    | error error => cases same
    | ok query =>
      obtain rfl := Except.ok.inj same
      obtain rfl := Option.some.inj given
      exact Or.inr ⟨request, feedback, earlier, rfl, refines⟩
  | execute | executeAll | summarize => exact (noQuery (fun _ => rfl) performs).elim
  | advance millis =>
    obtain ⟨-, same⟩ := Plan.runs_done_iff.mp performs
    cases (Prod.mk.inj same).1
    cases given

theorem perform_cache {task : Task} {outcome : Except Error Result}
    (runs : Runs (pipeline.perform task) before contacts outcome after) :
    after.cache = before.cache ∨ ∃ request first second compiled, contacts = first ++ second ∧
      Compiles pipeline request before first compiled after.cache := by
  have compiles {request : Request} (asked : task.compiled? = some request) :
      ∃ request first second compiled, contacts = first ++ second ∧
        Compiles pipeline request before first compiled after.cache := by
    obtain ⟨first, second, compiled, between, split, compiling, keeps, -⟩ := runs_compiled asked runs
    refine ⟨request, first, second, compiled, split, ?_⟩
    rw [keeps.cache]
    exact Operation.compiles_compile compiling
  have keeps (others : ∀ request, task ≠ .compile request ∧ task ≠ .answer request)
      (still : ∀ millis, task ≠ .advance millis) : after.cache = before.cache := by
    have same : pipeline.Keeps (fun _ => True) before contacts after :=
      Operation.keeps_perform (fun _ => True.intro) others still _ _ _ _ runs
    exact same.cache
  cases task with
  | compile request => exact Or.inr (compiles rfl)
  | answer request => exact Or.inr (compiles rfl)
  | refine | execute | executeAll | summarize => exact Or.inl (keeps (by simp) (by simp))
  | advance millis =>
    obtain ⟨-, same⟩ := Plan.runs_done_iff.mp runs
    rw [(Prod.mk.inj same).2]
    exact Or.inl rfl

theorem Consults.append_left {first : List Contact} (consults : Consults first)
    (second : List Contact) : Consults (first ++ second) := by
  obtain ⟨call, reply, member, intent⟩ := consults
  exact ⟨call, reply, List.mem_append_left second member, intent⟩

theorem consults_refine {request : Request} {feedback : String}
    {earlier generated : GeneratedQuery}
    (runs : Runs (pipeline.refine request feedback earlier) before contacts (.ok generated)
      after) : Consults contacts := by
  rcases Operation.refine_cases runs with ⟨error, -, -, same, -⟩ |
      ⟨schema, heard, -, -, asks, given, -⟩
  · cases same
  · cases heard with
    | error cause => cases given
    | ok answer =>
      obtain ⟨reply, member, -⟩ := asks.asked_of_ok
      exact ⟨_, reply, member, rfl⟩

/-- An entry of the cache was read in the answer that this step heard, and under its key nothing
was heard since then while it was alive. -/
structure Source (pipeline : Pipeline) (entry : IntentCache.Entry) (source : Step)
    (since : List Step) (request : Request) (answer : String) : Prop where
  asked : source.task.compiled? = some request
  key : pipeline.key request = entry.key
  replied : pipeline.Replied request source.time source.contacts answer
  heard : source.answers pipeline = [answer]
  intent : entry.intent = (pipeline.reading request source.time answer).intent
  sound : entry.intent.parseFailed = false
  expiry : entry.expiry = source.time + 1000 * pipeline.settings.cache.ttlSeconds
  outlived : ∀ step ∈ since, ∀ other, step.task.compiled? = some other →
    pipeline.key other = entry.key → step.answers pipeline = [] ∨ entry.expiry ≤ step.time

theorem Source.later {entry : IntentCache.Entry} {source step : Step} {since : List Step}
    {request : Request} {answer : String}
    (origin : pipeline.Source entry source since request answer)
    (outlived : ∀ other, step.task.compiled? = some other → pipeline.key other = entry.key →
      step.answers pipeline = [] ∨ entry.expiry ≤ step.time) :
    pipeline.Source entry source (since ++ [step]) request answer := by
  refine { origin with outlived := ?_ }
  intro other inside
  rcases List.mem_append.mp inside with past | last
  · exact origin.outlived other past
  · exact List.mem_singleton.mp last ▸ outlived

/-- The steps account for what a session remembers. -/
structure Explains (pipeline : Pipeline) (steps : List Step) (session : Session) : Prop where
  past : ∀ step ∈ steps, step.time ≤ session.elapsed
  givenUp : pipeline.GivenUp session
  enabled : ∀ entry ∈ session.cache.entries, session.cache.enabled = true
  sources : ∀ entry ∈ session.cache.entries, ∃ earlier source since request answer,
    steps = earlier ++ source :: since ∧ pipeline.Source entry source since request answer

theorem explains_fresh (pipeline : Pipeline) (cacheEnabled : Bool) :
    pipeline.Explains [] (.fresh cacheEnabled) :=
  ⟨List.forall_mem_nil _, List.forall_mem_nil _, List.forall_mem_nil _, List.forall_mem_nil _⟩

theorem Explains.silent {steps : List Step} (explains : pipeline.Explains steps before)
    {step : Step} (time : step.time ≤ after.elapsed) (later : before.elapsed ≤ after.elapsed)
    (givenUp : pipeline.GivenUp after) (cache : after.cache = before.cache)
    (unheard : ∀ request, step.task.compiled? = some request → step.answers pipeline = []) :
    pipeline.Explains (steps ++ [step]) after := by
  refine ⟨?_, givenUp, ?_, ?_⟩
  · intro other member
    rcases List.mem_append.mp member with past | last
    · exact (explains.past other past).trans later
    · exact List.mem_singleton.mp last ▸ time
  · rw [cache]
    exact explains.enabled
  · rw [cache]
    intro entry member
    obtain ⟨earlier, source, since, request, answer, rfl, origin⟩ := explains.sources entry member
    exact ⟨earlier, source, since ++ [step], request, answer, by simp,
      origin.later fun asked compiled _ => Or.inl (unheard asked compiled)⟩

theorem Explains.read {steps : List Step} (explains : pipeline.Explains steps before) {step : Step}
    {request : Request} {answer : String} (asked : step.task.compiled? = some request)
    (time : step.time = before.elapsed) (same : after.elapsed = before.elapsed)
    (givenUp : pipeline.GivenUp after)
    (replied : pipeline.Replied request step.time step.contacts answer)
    (heard : step.answers pipeline = [answer])
    (missed : before.recalled? (pipeline.key request) = none)
    (cache : after.cache = pipeline.kept before (pipeline.key request)
      (pipeline.reading request before.elapsed answer).intent) :
    pipeline.Explains (steps ++ [step]) after := by
  refine ⟨?_, givenUp, ?_, ?_⟩
  · intro other member
    rw [same]
    rcases List.mem_append.mp member with past | last
    · exact explains.past other past
    · exact (List.mem_singleton.mp last ▸ time).le
  · rw [cache]
    intro entry member
    rw [enabled_kept]
    rcases mem_kept missed member with old | ⟨enabled, -, -⟩
    · exact explains.enabled entry old
    · exact enabled
  · rw [cache]
    intro entry member
    rcases mem_kept missed member with old | ⟨-, sound, rfl⟩
    · obtain ⟨earlier, source, since, first, text, rfl, origin⟩ := explains.sources entry old
      refine ⟨earlier, source, since ++ [step], first, text, by simp, origin.later ?_⟩
      intro other compiled sameKey
      -- The entry was not found under its key, so it is dead by now.
      obtain rfl := Option.some.inj (asked.symm.trans compiled)
      exact Or.inr (time ▸ Session.expired_of_recalled? missed (explains.enabled entry old) entry
        old sameKey.symm)
    · refine ⟨steps, step, [], request, answer, rfl, ?_⟩
      rw [← time] at sound ⊢
      exact ⟨asked, rfl, replied, heard, rfl, sound, rfl, List.forall_mem_nil _⟩

theorem Explains.perform {steps : List Step} (explains : pipeline.Explains steps before)
    {task : Task} {outcome : Except Error Result}
    (runs : Runs (pipeline.perform task) before contacts outcome after) :
    pipeline.Explains (steps ++ [⟨task, before.elapsed, contacts, outcome⟩]) after := by
  have compiles {request : Request} (asked : task.compiled? = some request) :
      pipeline.Explains (steps ++ [⟨task, before.elapsed, contacts, outcome⟩]) after := by
    obtain ⟨first, second, compiled, between, rfl, compiling, keeps, -⟩ :=
      runs_compiled asked runs
    obtain ⟨steady, givenUp⟩ := Operation.steady_compile request _ _ _ _ compiling
    have quiet := keeps.unheard (givenUp explains.givenUp) fun call reply => heard?_of_summary reply
    have elapsed : after.elapsed = before.elapsed := keeps.elapsed.trans steady
    have abandoned := keeps.givenUp (givenUp explains.givenUp)
    rcases (Operation.compiles_compile compiling).heard explains.givenUp with
      ⟨silent, cache⟩ | ⟨answer, missed, ⟨schema, reply, member, within⟩, heard, cache⟩
    · refine explains.silent elapsed.ge elapsed.ge abandoned (keeps.cache.trans cache) fun _ _ => ?_
      rw [Step.answers, List.filterMap_append, silent, quiet]
      rfl
    · refine explains.read asked rfl elapsed abandoned
        ⟨schema, reply, List.mem_append_left second member, within⟩ ?_ missed
        (keeps.cache.trans cache)
      rw [Step.answers, List.filterMap_append, heard, quiet]
      rfl
  have keeps (others : ∀ request, task ≠ .compile request ∧ task ≠ .answer request)
      (still : ∀ millis, task ≠ .advance millis) (unasked : task.compiled? = none) :
      pipeline.Explains (steps ++ [⟨task, before.elapsed, contacts, outcome⟩]) after := by
    have same : pipeline.Keeps (fun _ => True) before contacts after :=
      Operation.keeps_perform (fun _ => True.intro) others still _ _ _ _ runs
    refine explains.silent same.elapsed.ge same.elapsed.ge (same.givenUp explains.givenUp)
      same.cache fun request asked => ?_
    cases unasked.symm.trans asked
  cases task with
  | compile request => exact compiles rfl
  | answer request => exact compiles rfl
  | refine request feedback earlier => exact keeps (by simp) (by simp) rfl
  | execute query => exact keeps (by simp) (by simp) rfl
  | executeAll branches => exact keeps (by simp) (by simp) rfl
  | summarize request response => exact keeps (by simp) (by simp) rfl
  | advance millis =>
    obtain ⟨rfl, same⟩ := Plan.runs_done_iff.mp runs
    obtain ⟨rfl, rfl⟩ := Prod.mk.inj same
    have later : before.elapsed ≤ (before.advance millis).elapsed := Nat.le_add_right _ _
    refine explains.silent later later explains.givenUp rfl fun request asked => ?_
    cases asked

theorem History.explains {steps : List Step} {session : Session}
    (history : pipeline.History steps session) : pipeline.Explains steps session := by
  induction history with
  | fresh cacheEnabled => exact explains_fresh pipeline cacheEnabled
  | step earlier performs ih => exact ih.perform performs

/-- The newest answer that the language model gave about a question with the identity of a
request, among these steps. -/
structure NewestAnswer (pipeline : Pipeline) (steps : List Step) (request : Request)
    (source : Step) (asked : Request) (answer : String) : Prop where
  compiled : source.task.compiled? = some asked
  alike : asked.identity pipeline.settings.pipeline.historyWindow =
    request.identity pipeline.settings.pipeline.historyWindow
  replied : pipeline.Replied asked source.time source.contacts answer
  heard : source.answers pipeline = [answer]
  newest : ∃ earlier since, steps = earlier ++ source :: since ∧
    ∀ step ∈ since, ∀ other, step.task.compiled? = some other →
      other.identity pipeline.settings.pipeline.historyWindow =
        request.identity pipeline.settings.pipeline.historyWindow →
      step.answers pipeline = []

/-- What is remembered for a request was read in the newest answer about its question. -/
theorem Explains.recalled {steps : List Step} {request : Request} {intent : Intent}
    (explains : pipeline.Explains steps before)
    (free : Request.CollisionFree pipeline.settings.pipeline.historyWindow
      (request :: steps.filterMap (·.task.compiled?)))
    (found : before.recalled? (pipeline.key request) = some intent) :
    ∃ source asked answer, pipeline.NewestAnswer steps request source asked answer ∧
      intent = (pipeline.reading asked source.time answer).intent ∧ intent.parseFailed = false ∧
      before.elapsed < source.time + 1000 * pipeline.settings.cache.ttlSeconds := by
  obtain ⟨entry, member, key, alive, rfl⟩ := Session.mem_of_recalled? found
  obtain ⟨earlier, source, since, asked, answer, rfl, origin⟩ := explains.sources entry member
  have listed {step : Step} {other : Request} (taken : step ∈ earlier ++ source :: since)
      (compiled : step.task.compiled? = some other) :
      other ∈ request :: (earlier ++ source :: since).filterMap (·.task.compiled?) :=
    List.mem_cons_of_mem _ (List.mem_filterMap.mpr ⟨step, taken, compiled⟩)
  have sourceTaken : source ∈ earlier ++ source :: since := by simp
  have alike := (free.cacheKey_eq_iff (listed sourceTaken origin.asked) List.mem_cons_self).mp
    (origin.key.trans key)
  refine ⟨source, asked, answer,
    ⟨origin.asked, alike, origin.replied, origin.heard, earlier, since, rfl, ?_⟩,
    origin.intent, origin.sound, origin.expiry ▸ alive⟩
  intro step inside other compiled same
  have taken : step ∈ earlier ++ source :: since := by simp [inside]
  have sameKey : pipeline.key other = entry.key :=
    ((free.cacheKey_eq_iff (listed taken compiled) List.mem_cons_self).mpr same).trans key.symm
  -- An answer that was heard since then came when the entry was dead, but it is alive.
  refine (origin.outlived step inside other compiled sameKey).resolve_right fun dead => ?_
  exact absurd alive (Nat.not_lt.mpr (dead.trans (explains.past step taken)))

/-- A query that is given without asking the language model about the question comes from the
newest answer about a question with the same identity, which could be read and is not yet
forgotten. -/
theorem unasked_query_from_newest_answer {steps : List Step} {task : Task} {result : Result}
    {generated : GeneratedQuery} (history : pipeline.History steps before)
    (free : Request.CollisionFree pipeline.settings.pipeline.historyWindow
      (task.compiled?.toList ++ steps.filterMap (·.task.compiled?)))
    (performs : Runs (pipeline.perform task) before contacts (.ok result) after)
    (given : result.query? = some generated) (unasked : ¬ Consults contacts) :
    ∃ request schema source asked answer, task.compiled? = some request ∧
      pipeline.NewestAnswer steps request source asked answer ∧
      generated.intent = (pipeline.reading asked source.time answer).intent ∧
      generated.intent.parseFailed = false ∧
      before.elapsed < source.time + 1000 * pipeline.settings.cache.ttlSeconds ∧
      pipeline.Accepts request schema ∧
      pipeline.verdict request schema generated.intent = .ok generated := by
  have noQuery {α : Type} {operation : Operation α} {change : α → Result}
      (lacks : ∀ value, (change value).query? = none)
      (runs : Runs (change <$> operation) before contacts (.ok result) after) : False := by
    obtain ⟨outcome, same, -⟩ := Operation.runs_map_iff.mp runs
    cases outcome with
    | error error => cases same
    | ok value =>
      rw [Except.ok.inj same, lacks] at given
      cases given
  have compiles {request : Request} (asked : task.compiled? = some request) :
      ∃ schema source other answer, pipeline.NewestAnswer steps request source other answer ∧
        generated.intent = (pipeline.reading other source.time answer).intent ∧
        generated.intent.parseFailed = false ∧
        before.elapsed < source.time + 1000 * pipeline.settings.cache.ttlSeconds ∧
        pipeline.Accepts request schema ∧
        pipeline.verdict request schema generated.intent = .ok generated := by
    obtain ⟨first, second, compiled, between, rfl, compiling, -, gives⟩ :=
      runs_compiled asked performs
    obtain rfl := gives result generated rfl given
    obtain ⟨schema, intent, accepts, found, passes⟩ :=
      (Operation.compiles_compile compiling).recalled fun consults =>
        unasked (consults.append_left second)
    obtain rfl := verdict_intent passes
    rw [asked] at free
    obtain ⟨source, other, answer, newest, reads, sound, fresh⟩ :=
      history.explains.recalled free found
    exact ⟨schema, source, other, answer, newest, reads, sound, fresh, accepts, passes⟩
  cases task with
  | compile request =>
    obtain ⟨schema, source, other, answer, origin⟩ := compiles rfl
    exact ⟨request, schema, source, other, answer, rfl, origin⟩
  | answer request =>
    obtain ⟨schema, source, other, answer, origin⟩ := compiles rfl
    exact ⟨_, schema, source, other, answer, rfl, origin⟩
  | refine request feedback earlier =>
    obtain ⟨outcome, same, refines⟩ := Operation.runs_map_iff.mp performs
    cases outcome with
    | error error => cases same
    | ok query => exact absurd (consults_refine refines) unasked
  | execute | executeAll | summarize => exact (noQuery (fun _ => rfl) performs).elim
  | advance millis =>
    obtain ⟨-, same⟩ := Plan.runs_done_iff.mp performs
    cases (Prod.mk.inj same).1
    cases given

theorem recalled?_of_kept {key : String} {intent : Intent}
    (cache : after.cache = pipeline.kept before key intent)
    (enabled : before.cache.enabled = true) (missed : before.recalled? key = none)
    (sound : intent.parseFailed = false) (lasting : 0 < pipeline.settings.cache.ttlSeconds)
    (alive : after.elapsed < before.elapsed + 1000 * pipeline.settings.cache.ttlSeconds) :
    after.recalled? key = some intent := by
  have stores : (before.cache.enabled &&
      decide (0 < 1000 * pipeline.settings.cache.ttlSeconds)) = true := by
    rw [enabled, Bool.true_and, decide_eq_true_eq]
    omega
  rw [Session.recalled?, if_pos enabled, IntentCache.get?, Option.map_eq_none_iff] at missed
  have entries : after.cache.entries =
      ⟨key, intent, before.elapsed + 1000 * pipeline.settings.cache.ttlSeconds⟩ ::
        before.cache.entries.filter (·.key != key) := by
    rw [cache, kept, if_neg (by simp [sound]), IntentCache.set, if_pos stores, missed]
    rfl
  have enabledAfter : after.cache.enabled = true := by
    rw [cache, enabled_kept, enabled]
  rw [Session.recalled?, if_pos enabledAfter, IntentCache.get?, IntentCache.living?, entries,
    List.find?_cons_of_pos (by simpa using alive)]
  rfl

private def freshPipeline : Pipeline := ⟨.default, Schema.builtIn, .origin⟩

private def mailQuestion : Request := .ask "all mail" "communications"

private def spacedQuestion : Request := .ask " all   mail " "communications"

private def emptyAnswer : Reasoning.Reply := ⟨0, .ok "\x7b\x7d"⟩

theorem spaced_question_from_newest_answer :
    ∃ steps before contacts result after generated,
      freshPipeline.History steps before ∧
      Request.CollisionFree freshPipeline.settings.pipeline.historyWindow
        ((Task.compile spacedQuestion).compiled?.toList ++ steps.filterMap (·.task.compiled?)) ∧
      Runs (freshPipeline.perform (.compile spacedQuestion)) before contacts (.ok result) after ∧
      result.query? = some generated ∧ ¬ Consults contacts ∧
      ∃ request schema source asked answer,
        (Task.compile spacedQuestion).compiled? = some request ∧
        freshPipeline.NewestAnswer steps request source asked answer ∧
        generated.intent = (freshPipeline.reading asked source.time answer).intent ∧
        generated.intent.parseFailed = false ∧
        before.elapsed < source.time + 1000 * freshPipeline.settings.cache.ttlSeconds ∧
        freshPipeline.Accepts request schema ∧
        freshPipeline.verdict request schema generated.intent = .ok generated := by
  have accepts : freshPipeline.Accepts mailQuestion .communications :=
    ⟨by decide +kernel, by decide +kernel⟩
  have acceptsAgain : freshPipeline.Accepts spacedQuestion .communications :=
    ⟨by decide +kernel, by decide +kernel⟩
  have alike : spacedQuestion.identity freshPipeline.settings.pipeline.historyWindow =
      mailQuestion.identity freshPipeline.settings.pipeline.historyWindow := by decide +kernel
  have sameKey : freshPipeline.key spacedQuestion = freshPipeline.key mailQuestion := by
    rw [key, key, Request.cacheKey, Request.cacheKey, alike]
  let intent := (freshPipeline.reading mailQuestion 0 "\x7b\x7d").intent
  have sound : intent.parseFailed = false := by decide +kernel
  -- The first question is asked and remembered.
  obtain ⟨contacts, outcome, read, compiling, follow⟩ :=
    Operation.exists_runs (freshPipeline.perform (.compile mailQuestion)) (.fresh true)
      (fun _ => emptyAnswer) fun _ => ⟨0, .error (.timeout 0)⟩
  obtain ⟨compiled, -, compiles⟩ := Operation.runs_map_iff.mp compiling
  obtain ⟨-, cache⟩ := (Operation.compiles_compile compiles).of_missed follow accepts rfl
  have still : read.elapsed = 0 := (Operation.steady_compile _ _ _ _ _ compiles).elapsed
  -- A minute later it is asked in other words of the same identity.
  let later := read.advance 60000
  have found : later.recalled? (freshPipeline.key spacedQuestion) = some intent := by
    rw [sameKey]
    refine recalled?_of_kept cache rfl rfl sound (by decide) ?_
    change read.elapsed + 60000 < _
    rw [still]
    decide
  obtain ⟨calls, given, after, answering, -⟩ :=
    Operation.exists_runs (freshPipeline.perform (.compile spacedQuestion)) later
      (fun _ => emptyAnswer) fun _ => ⟨0, .error (.timeout 0)⟩
  obtain ⟨answered, rfl, compilesAgain⟩ := Operation.runs_map_iff.mp answering
  obtain ⟨uncalled, gives, -⟩ :=
    (Operation.compiles_compile compilesAgain).of_recalled acceptsAgain found
  have passes : (freshPipeline.verdict spacedQuestion .communications intent).isOk = true := by
    decide +kernel
  obtain ⟨generated, verdict⟩ : ∃ generated,
      freshPipeline.verdict spacedQuestion .communications intent = .ok generated := by
    cases verdict : freshPipeline.verdict spacedQuestion .communications intent with
    | ok generated => exact ⟨generated, rfl⟩
    | error error =>
      rw [verdict] at passes
      cases passes
  rw [uncalled, gives, verdict] at answering
  have waiting : Runs (freshPipeline.perform (.advance 60000)) read [] (.ok .nothing) later :=
    Plan.Runs.done _
  have history := (History.step (.fresh true) compiling).step waiting
  have free : Request.CollisionFree freshPipeline.settings.pipeline.historyWindow
      [spacedQuestion, mailQuestion] :=
    Request.collisionFree_of_identity
      (List.forall_mem_cons.mpr ⟨alike, List.forall_mem_singleton.mpr rfl⟩)
  have unasked : ¬ Consults [] := by
    rintro ⟨call, reply, member, -⟩
    cases member
  exact ⟨_, later, [], .query generated, after, generated, history, free, answering, rfl, unasked,
    unasked_query_from_newest_answer history free answering rfl unasked⟩

end AnalystQuery.Pipeline
