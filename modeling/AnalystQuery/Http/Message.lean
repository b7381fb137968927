import AnalystQuery.Http.Exchange
import AnalystQuery.Json.Printer

/-! Requests and replies in bytes. A server is asked to close the connection behind its reply, so
a reply is read from everything that has come; its body ends where its length or its chunks say,
or else with the connection. -/

namespace AnalystQuery.Http

def Request.bytes (request : Request) (address : Address) : ByteArray :=
  let body := request.body.compact
  let authorizations := request.authorizations.map ("authorization: " ++ ·)
  ("\r\n".intercalate (
    [request.method ++ " " ++ String.ofList address.target ++ " HTTP/1.1",
      "host: " ++ String.ofList address.serverText, "accept: */*",
      "content-type: " ++ request.contentType,
      "content-length: " ++ toString body.utf8ByteSize, "connection: close"] ++
    authorizations ++ ["", body])).toUTF8

private def carriageReturn : UInt8 := 13

private def lineFeed : UInt8 := 10

/-- Splits bytes behind the blank line that ends the head of a reply. -/
def splitHead? : List UInt8 → Option (List UInt8 × List UInt8)
  | [] => none
  | byte :: rest =>
    if [carriageReturn, lineFeed, carriageReturn, lineFeed].isPrefixOf (byte :: rest) then
      some ([], rest.drop 3)
    else (splitHead? rest).map fun (head, body) => (byte :: head, body)

private def plainCharacters (bytes : List UInt8) : List Char :=
  bytes.map fun byte => Char.ofNat byte.toNat

private def blankless (text : List Char) : List Char :=
  ((text.dropWhile (· == ' ')).reverse.dropWhile (· == ' ')).reverse

private def readHeader (line : String) : List Char × List Char :=
  let name := line.toList.takeWhile (· != ':')
  (name.map Char.toLower, blankless ((line.toList.drop (name.length + 1)).map Char.toLower))

private def readStatus? (code : List Char) : Option Nat :=
  if code.length = 3 && code.all Char.isDigit && code.head? != some '0' then
    (String.ofList code).toNat?
  else none

def readHead? (head : List UInt8) : Option (Nat × List (List Char × List Char)) := do
  match (String.ofList (plainCharacters head)).splitOn "\r\n" with
  | [] => none
  | first :: lines =>
    match first.splitOn " " with
    | version :: code :: _ =>
      if version.startsWith "HTTP/" then
        pure (← readStatus? code.toList, lines.map readHeader)
      else none
    | _ => none

private def leadingHex? (text : List Char) : Option Nat :=
  let digits := text.takeWhile fun c => (Text.hexValue? c).isSome
  if digits.isEmpty then none
  else digits.foldlM (fun value c => (Text.hexValue? c).map (16 * value + ·)) 0

/-- Joins the chunks of a body, each behind a line with its size. -/
def joinChunks? (fuel : Nat) (bytes : List UInt8) : Option (List UInt8) :=
  match fuel with
  | 0 => none
  | fuel + 1 => do
    let line := bytes.takeWhile (· != carriageReturn)
    let size ← leadingHex? (plainCharacters line)
    let rest := bytes.drop (line.length + 2)
    if size = 0 then pure []
    else if rest.length < size then none
    else
      let others ← joinChunks? fuel (rest.drop (size + 2))
      pure (rest.take size ++ others)

/-- The body that comes behind a head; nothing when a part of it is missing. -/
def readBody? (headers : List (List Char × List Char)) (bytes : List UInt8) :
    Option (List UInt8) :=
  let value? (name : String) : Option (List Char) :=
    (headers.find? (·.1 == name.toList)).map (·.2)
  if value? "transfer-encoding" = some "chunked".toList then
    joinChunks? (bytes.length + 1) bytes
  else
    match (value? "content-length").bind fun digits => (String.ofList digits).toNat? with
    | some length => if bytes.length < length then none else some (bytes.take length)
    | none => some bytes

private def bodyText (bytes : List UInt8) : String :=
  (String.fromUTF8? ⟨bytes.toArray⟩).getD "\uFFFD"

/-- Codes below 200 announce another reply, except for the one with which a server agrees to
speak otherwise. -/
def isAnnouncement (status : Nat) : Bool := status < 200 && status != 101

/-- Reads the reply at the end of a connection, behind any announcements. -/
def readReply (fuel : Nat) (bytes : List UInt8) : Reply :=
  match fuel with
  | 0 => .dropped
  | fuel + 1 =>
    match splitHead? bytes with
    | none => .dropped
    | some (head, rest) =>
      match readHead? head with
      | none => .dropped
      | some (status, headers) =>
        if isAnnouncement status then readReply fuel rest
        else if carriedBody status "body" = "" then .answered status ""
        else
          match readBody? headers rest with
          | some body => .answered status (bodyText body)
          | none => .dropped

def Reply.ofBytes (bytes : ByteArray) : Reply := readReply (bytes.size + 1) bytes.data.toList

def Reply.ofStatus (status : Nat) (text : String) : Reply :=
  if status < 100 || 999 < status then .dropped
  else if isAnnouncement status then .ofBytes text.toUTF8
  else .answered status text

end AnalystQuery.Http
