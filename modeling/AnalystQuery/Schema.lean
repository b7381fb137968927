import AnalystQuery.Glossary
import AnalystQuery.Json.Decoding

/-! Schemas: the fields of an index with their types and, for closed vocabularies, their values.
Queries are compiled only for fields that are listed here. -/

namespace AnalystQuery

inductive FieldType where
  | keyword
  | text
  | date
  | integer
  | long
  | float
  | double
  | boolean
  | other
  deriving DecidableEq, Repr

namespace FieldType

def all : List FieldType :=
  [keyword, text, date, integer, long, float, double, boolean, other]

def name : FieldType → String
  | keyword => "keyword"
  | text => "text"
  | date => "date"
  | integer => "integer"
  | long => "long"
  | float => "float"
  | double => "double"
  | boolean => "boolean"
  | other => "other"

/-- The type with a name; a name that is not listed is a type of its own kind. -/
def ofName (name : String) : FieldType := (all.find? (·.name == name)).getD other

def isNumeric : FieldType → Bool
  | integer => true
  | long => true
  | float => true
  | double => true
  | _ => false

/-- Whether values of the field are matched as a whole. -/
def isExact : FieldType → Bool
  | text => false
  | other => false
  | _ => true

end FieldType

structure Field where
  name : String
  type : FieldType
  values : Option (List String)
  deriving DecidableEq, Repr

/-- Whether a value is in the field's vocabulary, up to the case of ASCII letters. -/
def Field.accepts (field : Field) (value : String) : Bool :=
  match field.values with
  | some values => values.any (Text.sameIgnoringAsciiCase · value)
  | none => true

structure Schema where
  fields : List Field
  deriving DecidableEq, Repr

namespace Schema

def field? (schema : Schema) (name : String) : Option Field :=
  schema.fields.find? (·.name == name)

def hasField (schema : Schema) (name : String) : Bool := (schema.field? name).isSome

def firstPresent? (schema : Schema) (names : List String) : Option Field :=
  names.findSome? schema.field?

def textFields (schema : Schema) : List Field := schema.fields.filter (·.type == .text)

def timeFieldNames : List String := ["timestamp", "@timestamp", "created_at", "date", "sent_at"]

/-- The main time field: the first conventional name that is present, if it is a date, and
otherwise the first date. -/
def timeField? (schema : Schema) : Option Field :=
  match (schema.firstPresent? timeFieldNames).filter (·.type == .date) with
  | some field => some field
  | none => schema.fields.find? (·.type == .date)

private def describeField (field : Field) : String :=
  "- " ++ field.name ++ " (" ++ field.type.name ++ ")" ++
    match field.values with
    | some values => ": one of [" ++ ", ".intercalate values ++ "]"
    | none => ""

def describe (schema : Schema) : String := "\n".intercalate (schema.fields.map describeField)

end Schema

private def plainField (name : String) (type : FieldType) : Field := ⟨name, type, none⟩

private def closedField (name : String) (values : List String) : Field :=
  ⟨name, .keyword, some values⟩

namespace Schema

def communications : Schema :=
  ⟨[plainField "timestamp" .date,
    closedField "channel" (Glossary.canonicalValues Glossary.channels),
    closedField "sentiment" (Glossary.canonicalValues Glossary.sentiments),
    plainField "sentiment_score" .float,
    closedField "priority" (Glossary.canonicalValues Glossary.priorities),
    closedField "status" ["open", "pending", "escalated", "resolved", "closed"],
    plainField "customer_id" .keyword,
    plainField "customer_name" .keyword,
    plainField "category" .keyword,
    plainField "topics" .keyword,
    plainField "region" .keyword,
    plainField "product" .keyword,
    plainField "subject" .text,
    plainField "body" .text,
    plainField "response_time_minutes" .integer]⟩

def social : Schema :=
  ⟨[plainField "posted_at" .date,
    plainField "platform" .keyword,
    closedField "sentiment" (Glossary.canonicalValues Glossary.sentiments),
    plainField "topics" .keyword,
    plainField "region" .keyword,
    plainField "product" .keyword,
    plainField "text" .text,
    plainField "engagement" .long]⟩

def surveys : Schema :=
  ⟨[plainField "submitted_at" .date,
    plainField "customer_id" .keyword,
    closedField "channel" (Glossary.canonicalValues Glossary.channels),
    closedField "sentiment" (Glossary.canonicalValues Glossary.sentiments),
    plainField "nps" .integer,
    plainField "csat" .float,
    plainField "region" .keyword,
    plainField "product" .keyword,
    plainField "comment" .text]⟩

def builtIn : List (String × Schema) :=
  [("communications", communications), ("social", social), ("surveys", surveys)]

end Schema

def Field.encode (field : Field) : Json :=
  .object <|
    [("name", .string field.name), ("type", .string field.type.name)] ++
      match field.values with
      | some values => [("values", .strings values)]
      | none => []

def Schema.encode (schema : Schema) : Json :=
  .object [("fields", .array (schema.fields.map Field.encode))]

open Json (Raw)

/-- A type is written by its name; an object with one key and a null is a name, too. -/
def FieldType.decode? (raw : Raw) : Option FieldType := raw.caseName?.map FieldType.ofName

def Field.decode? (raw : Raw) : Option Field := do
  let fields ← raw.fields? ["name", "type", "values"]
  let name ← fields.required "name" Raw.string?
  let type ← fields.required "type" FieldType.decode?
  let values ← fields.optional "values" none (Raw.nullable? (Raw.list? Raw.string?))
  pure ⟨name, type, values⟩

def Schema.decode? (raw : Raw) : Option Schema := do
  let fields ← raw.fields? ["fields"]
  let list ← fields.required "fields" (Raw.list? Field.decode?)
  pure ⟨list⟩

end AnalystQuery
