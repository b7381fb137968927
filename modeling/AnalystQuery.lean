import AnalystQuery.Main
import AnalystQuery.Pipeline.Task
import AnalystQuery.Proofs.Json.Entries
import AnalystQuery.Proofs.Text.Blank
import AnalystQuery.Proofs.Json.Keys
import AnalystQuery.Proofs.Json.Reading
import AnalystQuery.Proofs.Json.Order
import AnalystQuery.Proofs.Json.Places
import AnalystQuery.Proofs.Text.LetterCase
import AnalystQuery.Proofs.Number.Digits
import AnalystQuery.Proofs.Number.UnitInterval
import AnalystQuery.Proofs.Json.Lookup
import AnalystQuery.Proofs.Json.Strings
import AnalystQuery.Proofs.Json.Literals
import AnalystQuery.Proofs.Json.Numbers
import AnalystQuery.Proofs.Json.RoundTrip
import AnalystQuery.Proofs.Json.Settled
import AnalystQuery.Proofs.Query.AggregationKeys
import AnalystQuery.Proofs.Query.Clauses
import AnalystQuery.Proofs.Query.References
import AnalystQuery.Proofs.Query.CompiledReferences
import AnalystQuery.Proofs.Query.EnvelopeKeys
import AnalystQuery.Proofs.Query.CompiledKeys
import AnalystQuery.Proofs.Query.Inspection
import AnalystQuery.Proofs.Query.Violations
import AnalystQuery.Proofs.Query.Meaning
import AnalystQuery.Proofs.Query.CompiledMeaning
import AnalystQuery.Proofs.Query.Standing
import AnalystQuery.Proofs.Query.CompiledInspection
import AnalystQuery.Proofs.Query.Comparisons
import AnalystQuery.Proofs.Query.FieldTypes
import AnalystQuery.Proofs.Query.Accounting
import AnalystQuery.Proofs.Query.Vocabularies
import AnalystQuery.Proofs.Intent.Candidates
import AnalystQuery.Proofs.Calendar.Timestamp
import AnalystQuery.Proofs.Intent.Scanning
import AnalystQuery.Proofs.Intent.Confidence
import AnalystQuery.Proofs.Intent.Entities
import AnalystQuery.Proofs.Intent.Parts
import AnalystQuery.Proofs.Intent.Echo
import AnalystQuery.Proofs.Pipeline.Calls
import AnalystQuery.Proofs.Pipeline.Quiet
import AnalystQuery.Proofs.Pipeline.SearchSafety
import AnalystQuery.Proofs.Search.Posted
import AnalystQuery.Proofs.Text.Words
import AnalystQuery.Proofs.Request.Identity
import AnalystQuery.Proofs.Request.Keys
import AnalystQuery.Proofs.Pipeline.Runs
import AnalystQuery.Proofs.Pipeline.Keeping
import AnalystQuery.Proofs.Pipeline.Compiles
import AnalystQuery.Proofs.Pipeline.CacheHits
import AnalystQuery.Proofs.Pipeline.CacheTransparency
import AnalystQuery.Proofs.Pipeline.Executions
import AnalystQuery.Proofs.Pipeline.Refinement
import AnalystQuery.Proofs.Pipeline.Branches
import AnalystQuery.Proofs.Pipeline.CallBudget
import AnalystQuery.Proofs.Pipeline.Summaries
import AnalystQuery.Proofs.IntentCache.Entries
import AnalystQuery.Proofs.IntentCache.Lifetimes
import AnalystQuery.Proofs.Pipeline.Rejections
import AnalystQuery.Proofs.Pipeline.Hereditary
import AnalystQuery.Proofs.Pipeline.Blindness
import AnalystQuery.Proofs.Pipeline.LateReplies
import AnalystQuery.Proofs.Pipeline.Tallies
import AnalystQuery.Proofs.Pipeline.Batches
import AnalystQuery.Proofs.Pipeline.Accounts
import AnalystQuery.Proofs.Intent.ObjectText
import AnalystQuery.Proofs.Intent.Truncation
import AnalystQuery.Proofs.Intent.Embedding
import AnalystQuery.Proofs.Pipeline.Pages
import AnalystQuery.Proofs.Pipeline.Disclosure
import AnalystQuery.Proofs.Intent.WellFormed
import AnalystQuery.Proofs.Calendar.Phrases
import AnalystQuery.Proofs.Query.NamedFields
import AnalystQuery.Proofs.Query.CleanQueries
import AnalystQuery.Proofs.Calendar.EmbeddedPhrases
import AnalystQuery.Proofs.Calendar.ZoneOffsets
import AnalystQuery.Proofs.Intent.DateRanges
import AnalystQuery.Proofs.Query.TimeFields
import AnalystQuery.Proofs.Text.Clamp
import AnalystQuery.Proofs.Prompt.Samples
import AnalystQuery.Proofs.Json.Layouts
import AnalystQuery.Proofs.Json.Spelling
import AnalystQuery.Proofs.Intent.Records
import AnalystQuery.Proofs.Query.Storing
import AnalystQuery.Proofs.Pipeline.SavedQueries
import AnalystQuery.Proofs.Intent.Insertions
import AnalystQuery.Proofs.Calendar.Readings
