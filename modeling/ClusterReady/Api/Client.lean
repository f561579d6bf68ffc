import ClusterReady.Api.Resource
import ClusterReady.Api.Status
import ClusterReady.Api.Request
import ClusterReady.Run.Session
import ClusterReady.Text.Utf8

/-!
# The client of the API server

The four operations that the suite needs: get, list, create and delete.  Each sends one request,
unless the request cannot be built, and reads the reply: an HTTP status from 400 to 599 is a
refusal, any other carries a document.
-/

namespace ClusterReady

open Json (Decoder)

/-- Why an operation did not give a document. -/
inductive ClientError where
  /-- An object without a name was asked for. -/
  | unnamed
  /-- The path holds a character that a target cannot hold. -/
  | badTarget
  | transport (reason : String)
  | notText (fault : Text.Utf8.Fault)
  /-- The server refused the request. -/
  | refused (status : Status)
  | notDecoded (fault : DecodeFault)
deriving DecidableEq, Repr

namespace ClientError

def text : ClientError → String
  | unnamed => "Failed to build request: failed to validate request: A non-empty name is required"
  | badTarget => "Failed to build request: failed to build request: invalid uri character"
  | transport reason => "ServiceError: " ++ reason
  | notText fault => "UTF-8 Error: " ++ fault.message
  | refused status => status.text
  | notDecoded fault => "Error deserializing response: " ++ Json.faultText fault

/-- The code of the status with which the server refused the request. -/
def code? : ClientError → Option Nat
  | refused status => some status.code
  | _ => none

def notFound : Nat := 404

def conflict : Nat := 409

/-- The object that was asked for does not exist. -/
def isNotFound (e : ClientError) : Bool := e.code? == some notFound

/-- The object that was to be created exists already. -/
def isConflict (e : ClientError) : Bool := e.code? == some conflict

end ClientError

/-- What answers requests. -/
structure Server (σ : Type) where
  answer : Request → Run (World σ) Exchange

/-- A server that no request reaches. -/
def Server.unreachable {σ : Type} : Server σ where
  answer _ := return .error "no route to host"

/-- What the reply to a request means: the text of its document, or a refusal. -/
def Reply.content (r : Reply) : Except ClientError String :=
  match Text.Utf8.decode r.body with
  | .error fault => .error (.notText fault)
  | .ok body =>
    if 400 ≤ r.status && r.status ≤ 599 then
      match Json.decodeText Status.decoder body with
      | .ok status => .error (.refused status)
      | .error _ => .error (.refused (.unreadable r.status body))
    else .ok body

namespace Server

variable {σ α : Type}

/-- Sends a request, if it can be built, and takes the document out of the reply. -/
def exchange (server : Server σ) (method : Method) (path : String)
    (query : List (String × String)) (body : Option Json) : Step σ (Except ClientError String) :=
  match Url.target path query with
  | none => return .error .badTarget
  | some (path, query) => do
    let request : Request := { method, path, query, body }
    match ← Step.send request (server.answer request) with
    | .error reason => return .error (.transport reason)
    | .ok reply => return reply.content

/-- Reads a document. -/
def read (d : Decoder α) (content : Except ClientError String) : Except ClientError α :=
  match content with
  | .error e => .error e
  | .ok body => (Json.decodeText d body).mapError .notDecoded

/-- The object of that name. -/
def get (server : Server σ) (c : Collection) (d : Decoder α) (name : String) :
    Step σ (Except ClientError α) :=
  if name.isEmpty then return .error .unnamed
  else do
    return read d (← server.exchange .get (c.objectPath name) [] none)

/-- The objects whose labels match a selector. -/
def list (server : Server σ) (c : Collection) (d : Decoder α) (selector : String) :
    Step σ (Except ClientError (ObjectList α)) := do
  return read (ObjectList.decoder d)
    (← server.exchange .get c.path [("labelSelector", selector)] none)

/-- Creates an object from a manifest. -/
def create (server : Server σ) (c : Collection) (d : Decoder α) (manifest : Json) :
    Step σ (Except ClientError α) := do
  return read d (← server.exchange .post c.path [] (some manifest))

/-- A reply to a deletion is the object, or a status that says it is done. -/
def deletion (d : Decoder α) (body : String) : Except DecodeFault (α ⊕ Status) := do
  let document ← Json.decodeText (Json.anyValue Json.depthLimit) body
  if document.get? "kind" == some (.str "Status") then
    return .inr (← Json.decodeText Status.decoder body)
  else return .inl (← Json.decodeText d body)

/-- Deletes the object of that name, at once or after its grace period. -/
def delete (server : Server σ) (c : Collection) (d : Decoder α) (name : String)
    (immediate : Bool) : Step σ (Except ClientError (α ⊕ Status)) :=
  if name.isEmpty then return .error .unnamed
  else do
    let options : Json := .obj (if immediate then [("gracePeriodSeconds", .int 0)] else [])
    match ← server.exchange .delete (c.objectPath name) [] (some options) with
    | .error e => return .error e
    | .ok body => return (deletion d body).mapError .notDecoded

end Server

end ClusterReady
