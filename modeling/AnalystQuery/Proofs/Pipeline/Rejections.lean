import AnalystQuery.Proofs.IntentCache.Entries
import AnalystQuery.Proofs.Pipeline.CacheHits
import AnalystQuery.Proofs.Pipeline.CallBudget

/-! Questions whose queries are refused. An intent is remembered before its query is inspected, so
the refusal is repeated from memory until the intent is forgotten; only then is the question asked
again. -/

namespace AnalystQuery.Pipeline

open Operation (Runs)

variable {pipeline : Pipeline} {request : Request} {schema : Schema} {before after : Session}
  {contacts : List Contact} {key : String} {error : Error}

theorem recalled?_advance (distinct : before.cache.Distinct) (millis : Nat) :
    (before.advance millis).recalled? key =
      if before.cache.enabled then
        ((before.cache.living? before.elapsed key).filter
          (before.elapsed + millis < ·.expiry)).map IntentCache.Entry.intent
      else none := by
  rw [Session.recalled?, Session.advance]
  dsimp only
  rw [IntentCache.get?, IntentCache.living?_later distinct (Nat.le_add_right _ millis)]

/-- An intent that is read is remembered. -/
structure Stores (pipeline : Pipeline) (session : Session) (intent : Intent) : Prop where
  enabled : session.cache.enabled = true
  sound : intent.parseFailed = false
  lasting : 0 < pipeline.settings.cache.ttlSeconds

theorem kept_of_not_stores {intent : Intent} (lost : ¬ pipeline.Stores before intent) :
    pipeline.kept before key intent = before.cache := by
  rw [kept]
  split
  · rfl
  · rename_i sound
    rw [IntentCache.set, if_neg]
    intro stores
    rw [Bool.and_eq_true, decide_eq_true_eq] at stores
    exact lost ⟨stores.1, Bool.eq_false_iff.mpr sound, by omega⟩

theorem Stores.living? {intent : Intent} (stores : pipeline.Stores before intent)
    (missed : before.recalled? key = none) :
    (pipeline.kept before key intent).living? before.elapsed key =
      some ⟨key, intent, before.elapsed + 1000 * pipeline.settings.cache.ttlSeconds⟩ := by
  have lasting := stores.lasting
  rw [Session.recalled?, if_pos stores.enabled, IntentCache.get?, Option.map_eq_none_iff] at missed
  rw [kept, if_neg (by simp [stores.sound]), IntentCache.living?_set_self stores.enabled (by omega),
    missed]
  rfl

theorem Stores.kept_ne {intent : Intent} (stores : pipeline.Stores before intent)
    (missed : before.recalled? key = none) : pipeline.kept before key intent ≠ before.cache := by
  intro same
  have living := stores.living? missed
  rw [same] at living
  rw [Session.recalled?, if_pos stores.enabled, IntentCache.get?, living] at missed
  cases missed

theorem distinct_kept (distinct : before.cache.Distinct) (intent : Intent) :
    (pipeline.kept before key intent).Distinct := by
  rw [kept]
  split
  · exact distinct
  · exact distinct.set

theorem Compiles.distinct {outcome : Except Error GeneratedQuery} {cache : IntentCache}
    (compiles : Compiles pipeline request before contacts outcome cache)
    (distinct : before.cache.Distinct) : cache.Distinct := by
  cases compiles with
  | refused | remembered | hopeless | unanswered => exact distinct
  | read => exact distinct_kept distinct _

theorem History.distinct {steps : List Step} {session : Session}
    (history : pipeline.History steps session) : session.cache.Distinct := by
  induction history with
  | fresh cacheEnabled => exact IntentCache.distinct_empty cacheEnabled
  | step earlier performs ih =>
    rcases perform_cache performs with same | ⟨_, _, _, _, -, compiles⟩
    · rw [same]
      exact ih
    · exact compiles.distinct ih

/-- A query was inspected and refused. -/
def Rejects (error : Error) : Prop :=
  error.code = "DSL_VALIDATION_FAILED" ∨ error.code = "SCHEMA_VALIDATION_FAILED"

/-- The intent of a request was not remembered, and was read in a reply that came in time. -/
structure Reads (pipeline : Pipeline) (request : Request) (schema : Schema) (before : Session)
    (contacts : List Contact) (intent : Intent) : Prop where
  missed : before.recalled? (pipeline.key request) = none
  hopeful : 0 < pipeline.settings.reasoning.timeoutMillis
  asked : ∃ begun reply answer,
    contacts = begun ++ [.asked (pipeline.intentCall request schema before.elapsed) reply] ∧
    reply.within pipeline.settings.reasoning.timeoutMillis = .ok answer ∧
    intent = (pipeline.reading request before.elapsed answer).intent

/-- How the intent of a request is come by: the contacts, the cache afterwards, and the time until
which the intent is remembered. -/
inductive Resolves (pipeline : Pipeline) (request : Request) (schema : Schema)
    (before : Session) : Intent → List Contact → IntentCache → Nat → Prop where
  | remembered (entry : IntentCache.Entry) (enabled : before.cache.enabled = true)
      (living : before.cache.living? before.elapsed (pipeline.key request) = some entry) :
      Resolves pipeline request schema before entry.intent [] before.cache entry.expiry
  | stored {contacts : List Contact} (intent : Intent)
      (reads : pipeline.Reads request schema before contacts intent)
      (stores : pipeline.Stores before intent) :
      Resolves pipeline request schema before intent contacts
        (pipeline.kept before (pipeline.key request) intent)
        (before.elapsed + 1000 * pipeline.settings.cache.ttlSeconds)
  | lost {contacts : List Contact} (intent : Intent)
      (reads : pipeline.Reads request schema before contacts intent)
      (lost : ¬ pipeline.Stores before intent) :
      Resolves pipeline request schema before intent contacts before.cache before.elapsed

section Resolved

variable {intent : Intent} {cache : IntentCache} {expiry : Nat}
  (resolves : pipeline.Resolves request schema before intent contacts cache expiry)
include resolves

theorem Resolves.cache_eq_iff : cache = before.cache ↔
    before.recalled? (pipeline.key request) ≠ none ∨ ¬ pipeline.Stores before intent := by
  cases resolves with
  | remembered entry enabled living =>
    refine iff_of_true rfl (Or.inl ?_)
    rw [Session.recalled?, if_pos enabled, IntentCache.get?, living]
    exact Option.some_ne_none _
  | stored _ reads stores =>
    exact iff_of_false (stores.kept_ne reads.missed)
      (not_or.mpr ⟨not_not.mpr reads.missed, not_not.mpr stores⟩)
  | lost _ reads lost => exact iff_of_true rfl (Or.inr lost)

theorem Resolves.recalled?_advance (distinct : before.cache.Distinct)
    (same : after.cache = cache) (still : after.elapsed = before.elapsed) (millis : Nat) :
    (after.advance millis).recalled? (pipeline.key request) =
      if before.elapsed + millis < expiry then some intent else none := by
  cases resolves with
  | remembered entry enabled living =>
    rw [Pipeline.recalled?_advance (same ▸ distinct), same, still, if_pos enabled, living,
      Option.filter_some]
    split <;> simp_all
  | stored _ reads stores =>
    rw [Pipeline.recalled?_advance (same ▸ distinct_kept distinct intent), same, still,
      enabled_kept, if_pos stores.enabled, stores.living? reads.missed, Option.filter_some]
    split <;> simp_all
  | lost _ reads lost =>
    rw [Pipeline.recalled?_advance (same ▸ distinct), same, still,
      if_neg (Nat.not_lt.mpr (Nat.le_add_right _ _))]
    have missed := reads.missed
    rw [Session.recalled?] at missed
    split at missed
    · rename_i enabled
      rw [IntentCache.get?, Option.map_eq_none_iff] at missed
      rw [if_pos enabled, missed]
      rfl
    · rename_i disabled
      exact if_neg disabled

end Resolved

/-- What the check of a query refuses comes out of the cache or out of a reply. -/
theorem resolves_of_rejects (rejects : Rejects error)
    (runs : Runs (pipeline.compile request) before contacts (.error error) after) :
    after.elapsed = before.elapsed ∧ ∃ schema intent expiry, pipeline.Accepts request schema ∧
      pipeline.verdict request schema intent = .error error ∧
      pipeline.Resolves request schema before intent contacts after.cache expiry := by
  rcases Operation.compile_cases runs with ⟨other, refusal, -, same, -⟩ | ⟨schema, accepts,
      ⟨intent, found, rfl, given, alike⟩ | ⟨missed, heard, asks, given, elapsed, cache⟩⟩
  · cases same
    have early := refusal?_code refusal
    rw [Rejects] at rejects
    rcases rejects with code | code <;>
      exact absurd (code ▸ early) (by simp [refusalCodes])
  · refine ⟨alike.elapsed, schema, intent, ?_⟩
    rw [Session.recalled?] at found
    split at found
    · rename_i enabled
      obtain ⟨entry, living, rfl⟩ := Option.map_eq_some_iff.mp found
      rw [alike.cache]
      exact ⟨entry.expiry, accepts, given.symm, .remembered entry enabled living⟩
    · cases found
  · refine ⟨elapsed, schema, ?_⟩
    cases heard with
    | error cause =>
      cases given
      rw [Rejects] at rejects
      cases cause <;> exact absurd rejects (by simp [Error.code, ReasoningError.code])
    | ok answer =>
      have reads : pipeline.Reads request schema before contacts
          (pipeline.reading request before.elapsed answer).intent := by
        generalize replied : (.ok answer : Except ReasoningError String) = heard at asks
        generalize after.postponed = left at asks
        cases asks with
        | givenUp => cases replied
        | made reply hopeful begun =>
          exact ⟨missed, hopeful, _, reply, answer, rfl, replied.symm, rfl⟩
      rw [response] at given
      rw [keptReply] at cache
      rw [cache]
      generalize (pipeline.reading request before.elapsed answer).intent = intent at given reads ⊢
      by_cases stores : pipeline.Stores before intent
      · exact ⟨intent, _, accepts, given.symm, .stored intent reads stores⟩
      · rw [kept_of_not_stores stores]
        exact ⟨intent, _, accepts, given.symm, .lost intent reads stores⟩

/-- A question whose query is refused leaves the cache as it was exactly if its intent was
remembered before or is not remembered afterwards. As long as the intent is remembered the question
is refused again, without a call and for the same reason; then it is asked again. -/
theorem rejected_until_forgotten (distinct : before.cache.Distinct) (rejects : Rejects error)
    (runs : Runs (pipeline.compile request) before contacts (.error error) after) :
    ∃ schema intent expiry, pipeline.Accepts request schema ∧
      pipeline.verdict request schema intent = .error error ∧
      pipeline.Resolves request schema before intent contacts after.cache expiry ∧
      (after.cache = before.cache ↔
        before.recalled? (pipeline.key request) ≠ none ∨ ¬ pipeline.Stores before intent) ∧
      ∀ millis again outcome last,
        Runs (pipeline.compile request) (after.advance millis) again outcome last →
          if before.elapsed + millis < expiry then again = [] ∧ outcome = .error error
          else ∃ heard,
            Asks pipeline.settings.reasoning.timeoutMillis
              (pipeline.intentCall request schema (before.elapsed + millis)) after.postponed again
              heard last.postponed ∧
            outcome = pipeline.response request schema (before.elapsed + millis) heard := by
  obtain ⟨still, schema, intent, expiry, accepts, refused, resolves⟩ :=
    resolves_of_rejects rejects runs
  refine ⟨schema, intent, expiry, accepts, refused, resolves, resolves.cache_eq_iff, ?_⟩
  intro millis again outcome last runsAgain
  have recalled := resolves.recalled?_advance distinct rfl still millis
  have later : (after.advance millis).elapsed = before.elapsed + millis := by
    rw [Session.advance, still]
  rcases Operation.compile_cases runsAgain with ⟨other, refusal, -⟩ | ⟨otherSchema, also,
      ⟨found, remembered, uncalled, given, -⟩ | ⟨missed, heard, asks, given, -⟩⟩
  · cases refusal.symm.trans accepts.refusal?_eq
  · rw [recalled] at remembered
    obtain rfl := accepts.schema_eq also
    split at remembered
    · rename_i alive
      obtain rfl := Option.some.inj remembered
      rw [if_pos alive, given, refused]
      exact ⟨uncalled, rfl⟩
    · cases remembered
  · rw [recalled] at missed
    obtain rfl := accepts.schema_eq also
    split at missed
    · cases missed
    · rename_i dead
      rw [if_neg dead]
      rw [later] at asks given
      exact ⟨heard, asks, given⟩

private def mailHouse : Pipeline := ⟨.default, Schema.builtIn, .origin⟩

private def angryMail : Request := .ask "angry mail" "communications"

/-- An answer with a script in the place of a score. -/
private def scriptedAnswer : String :=
  "\x7b\"filters\":[\x7b\"field\":\"sentiment_score\",\"operator\":\"gt\"," ++
    "\"value\":\x7b\"script\":1\x7d\x7d]\x7d"

private def verdictCode : Except Error GeneratedQuery → String
  | .ok _ => ""
  | .error error => error.code

private theorem angry_mail_refused :
    ∃ contacts error after, Rejects error ∧
      Runs (mailHouse.compile angryMail) (.fresh true) contacts (.error error) after ∧
      after.cache ≠ (Session.fresh true).cache := by
  let intent := (mailHouse.reading angryMail 0 scriptedAnswer).intent
  have accepts : mailHouse.Accepts angryMail .communications :=
    ⟨by decide +kernel, by decide +kernel⟩
  obtain ⟨contacts, outcome, after, runs, follow⟩ := Operation.exists_runs
    (mailHouse.compile angryMail) (.fresh true) (fun _ => ⟨0, .ok scriptedAnswer⟩)
    fun _ => ⟨0, .error (.timeout 0)⟩
  obtain ⟨given, cache⟩ := (Operation.compiles_compile runs).of_missed follow accepts rfl
  have code : verdictCode (mailHouse.verdict angryMail .communications intent) =
      "DSL_VALIDATION_FAILED" := by decide +kernel
  have stores : mailHouse.Stores (.fresh true) intent := ⟨rfl, by decide +kernel, by decide⟩
  cases refused : mailHouse.verdict angryMail .communications intent with
  | ok query =>
    rw [refused] at code
    exact absurd code (by simp [verdictCode])
  | error error =>
    rw [refused] at code
    rw [given.trans refused] at runs
    exact ⟨contacts, error, after, Or.inl code, runs, cache ▸ stores.kept_ne rfl⟩

theorem angry_mail_refused_from_memory :
    ∃ contacts error after, (Session.fresh true).cache.Distinct ∧ Rejects error ∧
      Runs (mailHouse.compile angryMail) (.fresh true) contacts (.error error) after ∧
      ∀ again outcome last,
        Runs (mailHouse.compile angryMail) (after.advance 60000) again outcome last →
          again = [] ∧ outcome = .error error := by
  obtain ⟨contacts, error, after, rejects, runs, remembered⟩ := angry_mail_refused
  have distinct := IntentCache.distinct_empty true
  obtain ⟨schema, intent, expiry, -, -, resolves, -, repeated⟩ :=
    rejected_until_forgotten distinct rejects runs
  have soon : (Session.fresh true).elapsed + 60000 < expiry := by
    generalize after.cache = cache at resolves remembered
    cases resolves with
    | remembered | lost => exact absurd rfl remembered
    | stored => decide
  refine ⟨contacts, error, after, distinct, rejects, runs, fun again outcome last runsAgain => ?_⟩
  have ends := repeated 60000 again outcome last runsAgain
  rwa [if_pos soon] at ends

/-- What is remembered is not always sound: here the intent of a query that is refused. -/
theorem refused_intent_remembered :
    ¬ ∀ (pipeline : Pipeline) (request : Request) (before after : Session)
      (contacts : List Contact) (error : Error), Rejects error →
        Runs (pipeline.compile request) before contacts (.error error) after →
        after.cache = before.cache := by
  intro forgotten
  obtain ⟨contacts, error, after, rejects, runs, remembered⟩ := angry_mail_refused
  exact remembered (forgotten _ _ _ _ _ _ rejects runs)

end AnalystQuery.Pipeline
