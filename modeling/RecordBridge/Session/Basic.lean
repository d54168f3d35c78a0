/-
# Sessions

A session holds the credentials of one caller and the catalogs that were
described to that caller.  Catalogs stay until the credentials change, since
another caller may see other fields.

Resources that do not start with a slash are below the root of the service;
ones that start with a scheme are addresses of their own.  Every request
carries the token of the session.
-/

import RecordBridge.Catalog.Describe
import RecordBridge.Json.Reader
import RecordBridge.Remote
import RecordBridge.Session.Transport

namespace RecordBridge

namespace Session

/-- How a session is opened. -/
structure Config where
  instanceUrl : String
  accessToken : String
  apiVersion : String := "59.0"
  /-- The time limit of a request in seconds, for the transport. -/
  timeout : Value := .float (Numeric.Binary64.ofRatio false 30 1)

/-- The resource below which the service lies. -/
def Config.resourceRoot (c : Config) : String := "/services/data/v" ++ c.apiVersion ++ "/"

end Session

/-- A session. -/
structure Session where
  resourceRoot : String
  accessToken : String
  /-- The address of the remote system, without slashes at its end. -/
  instanceUrl : String
  /-- The catalogs described so far, by the names they were asked for. -/
  catalogs : Entries Catalog := []

namespace Session

/-- A text without slashes at its end. -/
def dropFinalSlashes (s : String) : String :=
  String.ofList (s.toList.reverse.dropWhile (· = '/')).reverse

/-- A new session. -/
def ofConfig (c : Config) : Session :=
  { resourceRoot := c.resourceRoot
    accessToken := c.accessToken
    instanceUrl := dropFinalSlashes c.instanceUrl }

/-- The session with other credentials; its catalogs are gone. -/
def withCredentials (s : Session) (accessToken : String) (instanceUrl : Option String) : Session :=
  { s with
    accessToken
    instanceUrl := match instanceUrl with
      | some url => if url.isEmpty then s.instanceUrl else dropFinalSlashes url
      | none => s.instanceUrl
    catalogs := [] }

/-- Whether a resource is an address of its own. -/
def isAbsolute (resource : String) : Bool :=
  "http://".toList.isPrefixOf resource.toList || "https://".toList.isPrefixOf resource.toList

/-- The address of a resource. -/
def url (s : Session) (resource : String) : String :=
  if isAbsolute resource then resource
  else if resource.toList.head? = some '/' then s.instanceUrl ++ resource
  else s.instanceUrl ++ (s.resourceRoot ++ resource)

/-- The headers of every request. -/
def headers (s : Session) : List (String × String) :=
  [("Authorization", "Bearer " ++ s.accessToken), ("Accept", "application/json")]

/-- The request for a resource. -/
def httpRequest (s : Session) (method resource : String) (body : Option Object) : HttpRequest :=
  { method, url := s.url resource, headers := s.headers, body }

/-- A computation of a session over a transport. -/
abbrev Over (τ : Type) (α : Type) : Type := Flow (Session × τ) α

variable {τ : Type}

/-- The session as it is now. -/
def current : Over τ Session := do
  let s ← Flow.get
  pure s.1

/-- The session changed. -/
def update (f : Session → Session) : Over τ Unit := Flow.modify fun s => (f s.1, s.2)

/-- Sends a request; without an answer the session fails. -/
def exchange (t : Transport τ) (method resource : String) (body : Option Object) :
    Over τ Reply := do
  let s ← current
  match ← Flow.onSnd (t.send (s.httpRequest method resource body)) with
  | .ok reply => pure reply
  | .error e => Flow.fail (.session (.noAnswer method resource e.reason e.detail))

/-- The answer that a reply holds: null without a body, and JSON otherwise. -/
def answerOf (method resource : String) (r : Reply) : Except Error Answer :=
  if r.body.isEmpty then .ok { status := r.status }
  else
    match Json.parseBytes? r.body with
    | some v => .ok { status := r.status, body := v }
    | none => .error (.notJson method resource r.status)

/-- The answer to a request, whatever its status. -/
def request (t : Transport τ) (method resource : String) (body : Option Object) :
    Over τ Answer := do
  let r ← exchange t method resource body
  Flow.log .debug .session (method ++ " " ++ resource ++ " -> " ++ toString r.status)
  Flow.ofExcept ((answerOf method resource r).mapError Failure.session)

/-- The body of an answer with the expected status; any other status is an
error. -/
def bodyOf (method resource : String) (expected : Int) (a : Answer) : Except Failure Value :=
  if a.status = expected then .ok a.body
  else
    match UnexpectedStatus.ofAnswer method resource a.status a.body (some expected) with
    | .ok e => .error (.error (.status e))
    | .error f => .error (.shape f)

/-- The body of the answer to a request that has to have a status. -/
def expect (t : Transport τ) (method resource : String) (expected : Int) (body : Option Object) :
    Over τ Value := do
  let a ← request t method resource body
  Flow.ofExcept (bodyOf method resource expected a)

end Session

end RecordBridge
