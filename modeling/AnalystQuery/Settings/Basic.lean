import AnalystQuery.Error
import AnalystQuery.Json.Decoding
import AnalystQuery.Query.Inspection

/-! Settings: how to reach the language model and the search engine, which indexes may be asked
and executed, the limits of queries and prompts, and the cache. Every setting has a default. -/

namespace AnalystQuery.Settings

open Number (Single)
open Json (Raw)

structure Reasoning where
  baseUrl : String
  model : String
  apiKey : Option String
  timeoutMillis : Nat
  summaryTimeoutMillis : Nat
  temperature : Single
  maxTokens : Nat
  deriving DecidableEq, Repr

structure Search where
  baseUrl : String
  /-- the engine's names of indexes that differ from their keys, sorted by key -/
  indexNames : List (String × String)
  timeoutSeconds : Nat
  username : Option String
  password : Option String
  deriving DecidableEq, Repr

structure Pipeline where
  allowedIndexes : List String
  executableIndexes : List String
  topLevelKeys : List String
  historyWindow : Nat
  defaultSize : Nat
  maxSize : Nat
  sampleSize : Nat
  snippetLength : Nat
  defaultConfidence : Single
  degradedConfidence : Single
  strictSchema : Bool
  deriving DecidableEq, Repr

structure Cache where
  enabled : Bool
  maxEntries : Nat
  ttlSeconds : Nat
  deriving DecidableEq, Repr

end Settings

structure Settings where
  reasoning : Settings.Reasoning
  search : Settings.Search
  pipeline : Settings.Pipeline
  cache : Settings.Cache
  deriving DecidableEq, Repr

namespace Settings

open Number (Single)
open Json (Raw)

private def tenths (count : Nat) : Single := Number.Decimal.nearest false ⟨count, -1⟩

def Reasoning.default : Reasoning :=
  { baseUrl := "http://localhost:11434/v1"
    model := "mistral"
    apiKey := none
    timeoutMillis := 15000
    summaryTimeoutMillis := 10000
    temperature := .zero
    maxTokens := 1024 }

def Search.default : Search :=
  { baseUrl := "http://localhost:9200"
    indexNames := []
    timeoutSeconds := 30
    username := none
    password := none }

def Pipeline.default : Pipeline :=
  { allowedIndexes := ["communications", "social", "surveys"]
    executableIndexes := ["communications"]
    topLevelKeys := Query.defaultTopLevelKeys
    historyWindow := 5
    defaultSize := 20
    maxSize := 100
    sampleSize := 5
    snippetLength := 240
    defaultConfidence := tenths 7
    degradedConfidence := tenths 3
    strictSchema := false }

def Cache.default : Cache := ⟨true, 10000, 300⟩

def default : Settings := ⟨.default, .default, .default, .default⟩

def Search.physicalIndex (search : Search) (index : String) : String :=
  ((search.indexNames.find? (·.1 == index)).map (·.2)).getD index

def Pipeline.allows (pipeline : Pipeline) (index : String) : Bool :=
  pipeline.allowedIndexes.contains index

def Pipeline.executes (pipeline : Pipeline) (index : String) : Bool :=
  pipeline.executableIndexes.contains index

private def isShare (value : Single) : Bool :=
  Number.Binary.zero.atMost value && value.atMost (Number.Binary.ofNat 1)

def Pipeline.error? (pipeline : Pipeline) : Option SettingsError :=
  if pipeline.allowedIndexes.isEmpty then some (.missingField "pipeline.allowed_indexes")
  else match pipeline.executableIndexes.find? (!pipeline.allows ·) with
  | some index =>
    some (.invalid ("executable index '" ++ index ++ "' is not in allowed_indexes"))
  | none =>
    if pipeline.topLevelKeys.isEmpty then some (.missingField "pipeline.allowed_top_level_keys")
    else if pipeline.maxSize < pipeline.defaultSize then
      some (.invalid "default_size must be <= max_size")
    else if !isShare pipeline.defaultConfidence then
      some (.invalid "default_confidence must be in [0, 1]")
    else if !isShare pipeline.degradedConfidence then
      some (.invalid "degraded_confidence must be in [0, 1]")
    else none

def error? (settings : Settings) : Option SettingsError :=
  if settings.reasoning.baseUrl = "" then some (.missingField "reasoning.base_url")
  else if settings.reasoning.timeoutMillis = 0 || settings.reasoning.summaryTimeoutMillis = 0 then
    some (.invalid "reasoning timeouts must be > 0")
  else match settings.pipeline.error? with
  | some error => some error
  | none =>
    if settings.cache.enabled && settings.cache.ttlSeconds == 0 then
      some (.invalid "cache.ttl_secs must be > 0")
    else none

def checked (settings : Settings) : Except SettingsError Settings :=
  match settings.error? with
  | some error => .error error
  | none => .ok settings

def Reasoning.encode (reasoning : Reasoning) : Json :=
  .object [("base_url", .string reasoning.baseUrl), ("model", .string reasoning.model),
    ("api_key", .ofOption .string reasoning.apiKey),
    ("timeout_ms", .natural reasoning.timeoutMillis),
    ("summary_timeout_ms", .natural reasoning.summaryTimeoutMillis),
    ("temperature", .ofSingle reasoning.temperature),
    ("max_tokens", .natural reasoning.maxTokens)]

def Search.encode (search : Search) : Json :=
  .object [("base_url", .string search.baseUrl),
    ("index_names", .ofEntries (search.indexNames.map fun (key, name) => (key, .string name))),
    ("request_timeout_secs", .natural search.timeoutSeconds),
    ("username", .ofOption .string search.username),
    ("password", .ofOption .string search.password)]

def Pipeline.encode (pipeline : Pipeline) : Json :=
  .object [("allowed_indexes", .strings pipeline.allowedIndexes),
    ("executable_indexes", .strings pipeline.executableIndexes),
    ("allowed_top_level_keys", .strings pipeline.topLevelKeys),
    ("history_window", .natural pipeline.historyWindow),
    ("default_size", .natural pipeline.defaultSize),
    ("max_size", .natural pipeline.maxSize),
    ("summary_sample_size", .natural pipeline.sampleSize),
    ("summary_snippet_chars", .natural pipeline.snippetLength),
    ("default_confidence", .ofSingle pipeline.defaultConfidence),
    ("degraded_confidence", .ofSingle pipeline.degradedConfidence),
    ("strict_schema", .bool pipeline.strictSchema)]

def Cache.encode (cache : Cache) : Json :=
  .object [("enabled", .bool cache.enabled), ("max_entries", .natural cache.maxEntries),
    ("ttl_secs", .natural cache.ttlSeconds)]

def encode (settings : Settings) : Json :=
  .object [("reasoning", settings.reasoning.encode), ("search", settings.search.encode),
    ("pipeline", settings.pipeline.encode), ("cache", settings.cache.encode)]

private def texts? : Raw → Option (List String) := Raw.list? Raw.string?

private def optionalText? : Raw → Option (Option String) := Raw.nullable? Raw.string?

private def textEntries? (raw : Raw) : Option (List (String × String)) := do
  match raw with
  | .object entries =>
    entries.mapM fun (key, value) => do pure (← key, ← value.string?)
  | _ => none

/-- Keeps the last of the names given for one key, in the order of the keys. -/
private def sortNames (names : List (String × String)) : List (String × String) :=
  (Json.sortEntries (names.map fun (key, name) => (key, .string name))).filterMap
    fun (key, name) => name.asString?.map (key, ·)

def groupNames : List (String × List String) :=
  [("reasoning", ["base_url", "model", "api_key", "timeout_ms", "summary_timeout_ms",
      "temperature", "max_tokens"]),
    ("search", ["base_url", "index_names", "request_timeout_secs", "username", "password"]),
    ("pipeline", ["allowed_indexes", "executable_indexes", "allowed_top_level_keys",
      "history_window", "default_size", "max_size", "summary_sample_size",
      "summary_snippet_chars", "default_confidence", "degraded_confidence", "strict_schema"]),
    ("cache", ["enabled", "max_entries", "ttl_secs"])]

private def namesOf (group : String) : List String := (groupNames.lookup group).getD []

def Reasoning.decode? (raw : Raw) : Option Reasoning := do
  let base := Reasoning.default
  let fields ← raw.fields? (namesOf "reasoning")
  pure
    { baseUrl := ← fields.optional "base_url" base.baseUrl Raw.string?
      model := ← fields.optional "model" base.model Raw.string?
      apiKey := ← fields.optional "api_key" base.apiKey optionalText?
      timeoutMillis := ← fields.optional "timeout_ms" base.timeoutMillis Raw.size?
      summaryTimeoutMillis :=
        ← fields.optional "summary_timeout_ms" base.summaryTimeoutMillis Raw.size?
      temperature := ← fields.optional "temperature" base.temperature Raw.single?
      maxTokens := ← fields.optional "max_tokens" base.maxTokens (Raw.natural? (Nat.pow 2 32)) }

def Search.decode? (raw : Raw) : Option Search := do
  let base := Search.default
  let fields ← raw.fields? (namesOf "search")
  pure
    { baseUrl := ← fields.optional "base_url" base.baseUrl Raw.string?
      indexNames := sortNames (← fields.optional "index_names" base.indexNames textEntries?)
      timeoutSeconds := ← fields.optional "request_timeout_secs" base.timeoutSeconds Raw.size?
      username := ← fields.optional "username" base.username optionalText?
      password := ← fields.optional "password" base.password optionalText? }

def Pipeline.decode? (raw : Raw) : Option Pipeline := do
  let base := Pipeline.default
  let fields ← raw.fields? (namesOf "pipeline")
  pure
    { allowedIndexes := ← fields.optional "allowed_indexes" base.allowedIndexes texts?
      executableIndexes := ← fields.optional "executable_indexes" base.executableIndexes texts?
      topLevelKeys := ← fields.optional "allowed_top_level_keys" base.topLevelKeys texts?
      historyWindow := ← fields.optional "history_window" base.historyWindow Raw.size?
      defaultSize := ← fields.optional "default_size" base.defaultSize Raw.size?
      maxSize := ← fields.optional "max_size" base.maxSize Raw.size?
      sampleSize := ← fields.optional "summary_sample_size" base.sampleSize Raw.size?
      snippetLength := ← fields.optional "summary_snippet_chars" base.snippetLength Raw.size?
      defaultConfidence :=
        ← fields.optional "default_confidence" base.defaultConfidence Raw.single?
      degradedConfidence :=
        ← fields.optional "degraded_confidence" base.degradedConfidence Raw.single?
      strictSchema := ← fields.optional "strict_schema" base.strictSchema Raw.bool? }

def Cache.decode? (raw : Raw) : Option Cache := do
  let base := Cache.default
  let fields ← raw.fields? (namesOf "cache")
  pure
    { enabled := ← fields.optional "enabled" base.enabled Raw.bool?
      maxEntries := ← fields.optional "max_entries" base.maxEntries Raw.size?
      ttlSeconds := ← fields.optional "ttl_secs" base.ttlSeconds Raw.size? }

/-- Every setting and every group of settings may be missing. -/
def decode? (raw : Raw) : Option Settings := do
  let fields ← raw.fields? (groupNames.map (·.1))
  pure
    { reasoning := ← fields.optional "reasoning" .default Reasoning.decode?
      search := ← fields.optional "search" .default Search.decode?
      pipeline := ← fields.optional "pipeline" .default Pipeline.decode?
      cache := ← fields.optional "cache" .default Cache.decode? }

end Settings

end AnalystQuery
