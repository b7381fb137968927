import AnalystQuery.Json.Printer
import AnalystQuery.Search.Basic
import AnalystQuery.Text.Blank

/-! What the language model is told when it summarizes findings, and the summaries that need no
model: that of no findings, and the one used when the model gives none. -/

namespace AnalystQuery.Prompt

def summaryInstructions : String :=
  "You summarize search results for a customer-experience analyst. " ++
    "Write two to four plain sentences. Mention notable counts, sentiment and channels. " ++
    "Do not invent facts that are not in the data."

def nothingFound : String := "No matching records were found for this query."

def listedGroups : Nat := 5

/-- A value in a line of text: floats have two places, or none when they are whole. -/
def scalarLine (value : Json) : String :=
  match value with
  | .string text => text
  | .float number =>
    if number.isWhole then String.ofList (number.fixed 0) else String.ofList (number.fixed 2)
  | .null => "n/a"
  | other => other.compact

private def groupLine (group : Json) : String :=
  let key := ((group.get? "key_as_string").or (group.get? "key")).elim "" scalarLine
  let count := ((group.get? "doc_count").bind Json.asNatural?).getD 0
  key ++ " (" ++ toString count ++ ")"

private def groupsLine (groups : List Json) : String :=
  let listed := ", ".intercalate ((groups.take listedGroups).map groupLine)
  let more := groups.length - listedGroups
  if 0 < more then listed ++ ", +" ++ toString more ++ " more" else listed

/-- Drops every `.0` at the end of reversed text. -/
private def dropZeroPlaces : List Char → List Char
  | '0' :: '.' :: rest => dropZeroPlaces rest
  | text => text

private def percentileLine (entry : String × Json) : String :=
  "p" ++ String.ofList (dropZeroPlaces entry.1.toList.reverse).reverse ++ "=" ++
    scalarLine entry.2

/-- A line for one aggregation: its groups, its percentiles, its value or its count, whichever
it has first. -/
def aggregationLine? (name : String) (body : Json) : Option String :=
  let described :=
    match (body.get? "buckets").bind Json.asArray? with
    | some groups => some (groupsLine groups)
    | none =>
      match (body.get? "values").bind Json.asObject? with
      | some percentiles => some (", ".intercalate (percentiles.map percentileLine))
      | none =>
        match body.get? "value" with
        | some value => some (scalarLine value)
        | none => ((body.get? "doc_count").bind Json.asNatural?).map fun count =>
            toString count ++ " documents"
  described.map fun text => name ++ ": " ++ text

def aggregationLines (aggregations : Json) : List String :=
  (aggregations.asObject?.getD []).filterMap fun (name, body) => aggregationLine? name body

mutual
/-- The value with each text in it cut to a length. -/
def clampTexts (limit : Nat) : Json → Json
  | .string text => .string (Text.clamp text limit)
  | .array items => .array (clampItems limit items)
  | .object entries => .object (clampEntries limit entries)
  | other => other

def clampItems (limit : Nat) : List Json → List Json
  | [] => []
  | item :: rest => clampTexts limit item :: clampItems limit rest

def clampEntries (limit : Nat) : List (String × Json) → List (String × Json)
  | [] => []
  | (key, value) :: rest => (key, clampTexts limit value) :: clampEntries limit rest
end

private def bullets (lines : List String) : String :=
  String.join (lines.map fun line => "- " ++ line ++ "\n")

def summary (question : String) (total : Nat) (hits : List Search.Hit)
    (aggregations : Option Json) (sampleSize snippetLength : Nat) : String :=
  let sample := hits.take sampleSize
  let documents :=
    if sample.isEmpty then ""
    else "\nSample of " ++ toString sample.length ++ " record(s):\n" ++
      bullets (sample.map fun hit => (clampTexts snippetLength hit.source).compact)
  let lines := aggregations.elim [] aggregationLines
  let computed := if lines.isEmpty then "" else "\nAggregations:\n" ++ bullets lines
  "Question: " ++ Text.trim question ++ "\nTotal matching records: " ++ toString total ++ "\n" ++
    documents ++ computed ++ "\nSummarize these results for the analyst."

/-- What the documents of an index are called, alone and in numbers. -/
def documentNoun (index : String) : String × String :=
  match index with
  | "communications" => ("communication", "communications")
  | "social" => ("social post", "social posts")
  | "surveys" => ("survey response", "survey responses")
  | _ => ("document", "documents")

def plainSummary (index : String) (total : Nat) : String :=
  let (one, many) := documentNoun index
  "Found " ++ toString total ++ " " ++ (if total = 1 then one else many) ++
    " matching the query."

end AnalystQuery.Prompt
