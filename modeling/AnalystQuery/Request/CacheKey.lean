import AnalystQuery.Digest.Sha256
import AnalystQuery.Json.Printer
import AnalystQuery.Request.Basic
import AnalystQuery.Text.Blank

/-! The key of a request in the cache: a digest of what identifies the request once differences
of white space are set aside, so that keys tell nothing about questions. -/

namespace AnalystQuery

structure Request.Identity where
  question : String
  context : Option String
  index : String
  timezone : Option String
  history : List String
  deriving DecidableEq, Repr

namespace Request

def present? (text : String) : Option String := if text = "" then none else some text

/-- Squashed texts, with blank ones taken for absent, and the history that still counts. -/
def identity (request : Request) (window : Nat) : Identity :=
  { question := Text.squash request.question
    context := request.context.bind fun text => present? (Text.squash text)
    index := Text.trim request.index
    timezone := request.timezone.bind fun text => present? (Text.trim text)
    history := (request.recentHistory window).map Text.squash }

def Identity.encode (identity : Identity) : Json :=
  .object [("query", .string identity.question),
    ("context", .ofOption .string identity.context),
    ("index", .string identity.index),
    ("timezone", .ofOption .string identity.timezone),
    ("history", .strings identity.history)]

def Identity.canonicalText (identity : Identity) : String := identity.encode.compact

def cacheKey (request : Request) (window : Nat) : String :=
  Digest.hexadecimal (Digest.sha256 (request.identity window).canonicalText.toUTF8.toList)

end Request

end AnalystQuery
