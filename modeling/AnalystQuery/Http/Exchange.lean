import AnalystQuery.Http.Address
import AnalystQuery.Http.Status
import AnalystQuery.Json.Basic
import AnalystQuery.Text.Base64

/-! One request to a server and how it ends. All requests post JSON. -/

namespace AnalystQuery.Http

structure Request where
  method : String
  url : String
  authorization : Option String
  contentType : String
  body : Json
  deriving Repr

def postJson (url : String) (authorization : Option String) (body : Json) : Request :=
  ⟨"POST", url, authorization, "application/json", body⟩

/-- Text that can stand in a header: tabs are the only control characters. -/
def isHeaderText (text : String) : Bool :=
  text.toList.all fun c => c = '\t' || (0x20 ≤ c.toNat && c.toNat != 0x7F)

def basicAuthorization (user password : String) : String :=
  "Basic " ++ String.ofList (Text.base64 (user ++ ":" ++ password).toUTF8.toList)

private def misbuilt : String := "builder error"

private def faultAt (fault : String) (address : Address) : String :=
  fault ++ " for url (" ++ String.ofList address.render ++ ")"

def Request.fault? (request : Request) : Option String :=
  match Address.read? request.url with
  | none => some misbuilt
  | some address =>
    if !address.namesServer then some (faultAt misbuilt address)
    else if !request.authorization.all isHeaderText then some misbuilt
    else if !address.takesRequests then some (faultAt misbuilt address.withoutUser)
    else none

def Request.failure (request : Request) : String :=
  let fault := "error sending request"
  (Address.read? request.url).elim fault fun address => faultAt fault address.withoutUser

def Request.target (request : Request) : String :=
  (Address.read? request.url).elim "" fun address => String.ofList address.target

/-- The authorizations that are sent: that of the address, then that of the request. -/
def Request.authorizations (request : Request) : List String :=
  let own := request.authorization.toList
  match (Address.read? request.url).bind Address.credentials? with
  | some (user, password) => basicAuthorization user password :: own
  | none => own

inductive Reply where
  | answered (status : Nat) (body : String)
  | refused
  | dropped
  /-- no answer within the time that the caller waits -/
  | late
  | unsendable (fault : String)
  deriving DecidableEq, Repr, Inhabited

/-- The body that a reply carries; with some codes it has none. -/
def carriedBody (status : Nat) (body : String) : String :=
  if status = 101 || status = 204 || status = 304 then "" else body

def plainText (body : String) : String :=
  match body.toList with
  | '\uFEFF' :: rest => String.ofList rest
  | _ => body

def trimSlashes (address : String) : String :=
  String.ofList (address.toList.reverse.dropWhile (· == '/')).reverse

end AnalystQuery.Http
