import AnalystQuery.Http.Host
import AnalystQuery.Text.Parts

/-! Addresses. An address names a server and the target of a request there, or anything else
under another scheme. It is read into its parts, each in ASCII: characters outside it are
percent-encoded, and the segments `.` and `..` of a path are resolved. -/

namespace AnalystQuery.Http

structure Address where
  scheme : List Char
  user : List Char
  password : List Char
  /-- the host; nothing when the address has no place for one -/
  host : Option Host
  port : Option Nat
  path : List Char
  query : Option (List Char)
  fragment : Option (List Char)
  deriving DecidableEq, Repr

namespace Address

open PercentEncoding (encode)

inductive Kind where
  | network (port : Nat)
  | file
  | other
  deriving DecidableEq, Repr

private def networkPorts : List (List Char × Nat) :=
  [("http".toList, 80), ("https".toList, 443), ("ws".toList, 80), ("wss".toList, 443),
    ("ftp".toList, 21)]

def Kind.ofScheme (scheme : List Char) : Kind :=
  match networkPorts.lookup scheme with
  | some port => .network port
  | none => if scheme = "file".toList then .file else .other

private def isSchemeCharacter (c : Char) : Bool := c.isAlphanum || ['+', '-', '.'].contains c

private def readScheme? (text : List Char) : Option (List Char × List Char) :=
  match text.dropWhile isSchemeCharacter with
  | ':' :: rest =>
    let scheme := text.takeWhile isSchemeCharacter
    if scheme.head?.any Char.isAlpha then some (scheme.map Char.toLower, rest) else none
  | _ => none

/-- The sign that parts a path; backslashes count where the kind of the scheme is known. -/
def Kind.isSlash (kind : Kind) (c : Char) : Bool := c == '/' || (c == '\\' && kind != .other)

private def withPoints : List Char → List Char
  | '%' :: '2' :: letter :: rest =>
    if letter = 'e' || letter = 'E' then '.' :: withPoints rest
    else '%' :: '2' :: letter :: withPoints rest
  | c :: rest => c :: withPoints rest
  | [] => []

def isDrive : List Char → Bool
  | [letter, sign] => letter.isAlpha && (sign == ':' || sign == '|')
  | _ => false

/-- The segments that are left when the last one is given up; a drive is kept. -/
private def parent (before : List (List Char)) : List (List Char) :=
  if before.head?.any isDrive then before else before.drop 1

/-- Resolves the points among segments. `before` are the segments in front, the last one first;
one that ends a path leaves an empty segment in its place. -/
def resolveSegments (before : List (List Char)) : List (List Char) → List (List Char)
  | [] => before.reverse
  | segment :: rest =>
    let ending := if rest.isEmpty then [[]] else []
    match withPoints segment with
    | ['.', '.'] => resolveSegments (ending ++ parent before) rest
    | ['.'] => resolveSegments (ending ++ before) rest
    | _ => resolveSegments (segment :: before) rest

private def pathSegments (kind : Kind) (text : List Char) : List (List Char) :=
  (resolveSegments [] (Text.parts kind.isSlash text)).map (encode PercentEncoding.inPath)

private def joined (segments : List (List Char)) : List Char := segments.flatMap ('/' :: ·)

private def namesDrive (segments : List (List Char)) : Bool := segments.head?.any isDrive

/-- The path of a file. Empty segments in front are dropped, and a drive gets a colon. -/
private def filePath (segments : List (List Char)) : List Char :=
  match segments with
  | segment :: rest =>
    if isDrive segment then joined ((segment.take 1 ++ [':']) :: rest)
    else '/' :: (joined segments).dropWhile (· == '/')
  | [] => ['/']

private def readUser (text : List Char) : List Char × List Char :=
  (encode PercentEncoding.inUser (text.takeWhile (· != ':')),
    encode PercentEncoding.inUser ((text.dropWhile (· != ':')).drop 1))

private def splitUser (server : List Char) : Option (List Char) × List Char :=
  let host := (server.reverse.takeWhile (· != '@')).reverse
  if host.length = server.length then (none, host)
  else (some (server.take (server.length - host.length - 1)), host)

/-- Splits a server in front of its port. A host in brackets may have colons. -/
private def splitPort (inBrackets : Bool) : List Char → List Char × List Char
  | [] => ([], [])
  | c :: rest =>
    if c = ':' && !inBrackets then ([], c :: rest)
    else
      let (host, port) := splitPort ((inBrackets || c = '[') && c != ']') rest
      (c :: host, port)

/-- The port behind a host, and what stands behind its digits. Without digits there is none. -/
private def readPort? (text : List Char) : Option (Option Nat × List Char) :=
  match text with
  | ':' :: rest =>
    let digits := rest.takeWhile Char.isDigit
    let port := digits.foldl (fun value c => 10 * value + (c.toNat - 48)) 0
    let behind := rest.dropWhile Char.isDigit
    if Nat.pow 2 16 ≤ port || !behind.head?.all (· == '\\') then none
    else some (if digits.isEmpty then none else some port, behind)
  | _ => some (none, [])

private structure Server where
  user : List Char
  password : List Char
  host : Host
  port : Option Nat
  behind : List Char

/-- Reads a server. Its host can only be empty without a user and a port, under a scheme of no
known kind. -/
private def readServer? (kind : Kind) (text : List Char) : Option Server := do
  let (userText, server) := splitUser text
  let (user, password) := readUser (userText.getD [])
  let (hostText, portText) := splitPort false server
  if hostText.isEmpty &&
      (kind != .other || userText.any (· != [':']) || !portText.isEmpty) then none
  else
    let host ← if kind = .other then Host.unspecific? hostText else Host.network? hostText
    let (port, behind) ← readPort? portText
    let port := match kind with
      | .network usual => port.filter (· != usual)
      | _ => port
    some ⟨user, password, host, port, behind⟩

private def isBreak (c : Char) : Bool := c == '\t' || c == '\n' || c == '\r'

private def isMargin (c : Char) : Bool := c.toNat ≤ 0x20

private def plainAddress (text : List Char) : List Char :=
  ((text.dropWhile isMargin).reverse.dropWhile isMargin).reverse.filter (!isBreak ·)

private def cut (sign : Char) (text : List Char) : List Char × Option (List Char) :=
  match text.dropWhile (· != sign) with
  | [] => (text, none)
  | _ :: rest => (text.takeWhile (· != sign), some rest)

private def withPath (scheme path : List Char) (host : Option Host) : Address :=
  ⟨scheme, [], [], host, none, path, none, none⟩

private def onServer (scheme path : List Char) (server : Server) : Address :=
  ⟨scheme, server.user, server.password, some server.host, server.port, path, none, none⟩

private def readNetwork? (kind : Kind) (scheme text : List Char) : Option Address := do
  let text := text.dropWhile kind.isSlash
  let server ← readServer? kind (text.takeWhile (!kind.isSlash ·))
  let path := (text.dropWhile (!kind.isSlash ·)).drop 1
  some (onServer scheme (joined (pathSegments kind path)) server)

/-- The host of a file; one on this computer is not named. -/
private def fileHost? (text : List Char) : Option Host := do
  if text.isEmpty then some (.name [])
  else
    let host ← Host.network? text
    some (if host = .name "localhost".toList then .name [] else host)

private def readLocal? (scheme text : List Char) : Option Address := do
  let slashes := (text.take 2).takeWhile Kind.file.isSlash
  let rest := text.drop slashes.length
  let hostText := rest.takeWhile (!Kind.file.isSlash ·)
  if slashes.length < 2 || isDrive hostText then
    some (withPath scheme (filePath (pathSegments .file rest)) (some (.name [])))
  else
    let host ← fileHost? hostText
    let segments := pathSegments .file ((rest.dropWhile (!Kind.file.isSlash ·)).drop 1)
    let host := if namesDrive segments then .name [] else host
    some (withPath scheme (filePath segments) (some host))

private def readOther? (scheme text : List Char) : Option Address :=
  match text with
  | '/' :: '/' :: rest => do
    let server ← readServer? .other (rest.takeWhile (· != '/'))
    let segments := match server.behind ++ rest.dropWhile (· != '/') with
      | [] => []
      | '/' :: path => pathSegments .other path
      | path => pathSegments .other path
    some (onServer scheme (joined segments) server)
  | '/' :: path => some (withPath scheme (joined (pathSegments .other path)) none)
  | path => some (withPath scheme (encode PercentEncoding.inOpaquePart path) none)

private def Kind.inQuery (kind : Kind) (c : Char) : Bool :=
  PercentEncoding.inQuery c || (c == '\'' && kind != .other)

def read? (text : String) : Option Address := do
  let (scheme, rest) ← readScheme? (plainAddress text.toList)
  let kind := Kind.ofScheme scheme
  let (rest, fragment) := cut '#' rest
  let (rest, query) := cut '?' rest
  let address ← match kind with
    | .network _ => readNetwork? kind scheme rest
    | .file => readLocal? scheme rest
    | .other => readOther? scheme rest
  some
    { address with
      query := query.map (encode kind.inQuery)
      fragment := fragment.map (encode PercentEncoding.inFragment) }

private def userText (address : Address) : List Char :=
  if address.user.isEmpty && address.password.isEmpty then []
  else
    address.user ++ (if address.password.isEmpty then [] else ':' :: address.password) ++ ['@']

def serverText (address : Address) : List Char :=
  (address.host.elim [] Host.render) ++
    (address.port.elim [] fun port => ':' :: (toString port).toList)

/-- A path that begins with two slashes is set apart from a server. -/
private def pathPart (address : Address) : List Char :=
  match address.host, address.path with
  | none, '/' :: '/' :: rest => "/.//".toList ++ rest
  | none, path => path
  | some _, path => "//".toList ++ address.userText ++ address.serverText ++ path

def target (address : Address) : List Char :=
  address.path ++ address.query.elim [] ('?' :: ·)

def render (address : Address) : List Char :=
  address.scheme ++ ':' :: address.pathPart ++ address.query.elim [] ('?' :: ·) ++
    address.fragment.elim [] ('#' :: ·)

def namesServer (address : Address) : Bool := address.host.any (· != .name [])

def isSecure (address : Address) : Bool := address.scheme == "https".toList

/-- Whether requests can be sent to an address: signs that only stand in quoted text are allowed
in the name of a host, but not in a request, and there is a limit to its length. -/
def takesRequests (address : Address) : Bool :=
  (address.scheme == "http".toList || address.isSecure) &&
    !address.serverText.any ['"', '\x60', '\x7b', '\x7d'].contains &&
    address.render.length < 65535

def portNumber (address : Address) : Nat :=
  address.port.getD (if address.isSecure then 443 else 80)

def credentials? (address : Address) : Option (String × String) := do
  let user ← PercentEncoding.decode? address.user
  let password? := PercentEncoding.decode? address.password
  let password := password?.getD []
  if user.isEmpty && (address.password.isEmpty || password?.isNone) then none
  else some (String.ofList user, String.ofList password)

/-- An address without the user and the password, which are sent apart. -/
def withoutUser (address : Address) : Address :=
  if address.credentials?.isSome then { address with user := [], password := [] } else address

end Address

end AnalystQuery.Http
