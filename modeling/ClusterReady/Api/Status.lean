import ClusterReady.Api.Meta
import ClusterReady.Text.Quoted

/-!
# Status objects

What the API server answers when it refuses a request.  The `code` inside of the status decides
what the refusal means; the HTTP status does not.
-/

namespace ClusterReady

open Json (Decoder)

inductive StatusSummary where
  | success
  | failure
deriving DecidableEq, Repr

namespace StatusSummary

def text : StatusSummary → String
  | success => "Success"
  | failure => "Failure"

def decoder : Decoder StatusSummary :=
  Json.streamedVariant [("Success", success), ("Failure", failure)]

end StatusSummary

/-- One of the causes of a refusal. -/
structure StatusCause where
  reason : String := ""
  message : String := ""
  field : String := ""
deriving DecidableEq, Repr

/-- What a refusal is about. -/
structure StatusDetails where
  name : String := ""
  group : String := ""
  kind : String := ""
  uid : String := ""
  causes : List StatusCause := []
  retryAfterSeconds : Nat := 0
deriving DecidableEq, Repr

/-- A status object. -/
structure Status where
  status : Option StatusSummary := none
  code : Nat := 0
  message : String := ""
  metadata : Option ListMeta := none
  reason : String := ""
  details : Option StatusDetails := none
deriving DecidableEq, Repr

namespace StatusCause

def decoder : Decoder StatusCause :=
  Json.fixedRecord "StatusCause" {} [
    .optional "reason" Json.string fun v c => { c with reason := v },
    .optional "message" Json.string fun v c => { c with message := v },
    .optional "field" Json.string fun v c => { c with field := v }]

/-- The diagnostic form of a cause. -/
def shown (c : StatusCause) : String :=
  "StatusCause \x7b reason: " ++ Text.quoted c.reason ++ ", message: " ++ Text.quoted c.message ++
    ", field: " ++ Text.quoted c.field ++ " \x7d"

end StatusCause

namespace StatusDetails

def decoder : Decoder StatusDetails :=
  Json.fixedRecord "StatusDetails" {} [
    .optional "name" Json.string fun v d => { d with name := v },
    .optional "group" Json.string fun v d => { d with group := v },
    .optional "kind" Json.string fun v d => { d with kind := v },
    .optional "uid" Json.string fun v d => { d with uid := v },
    .optional "causes" (Json.listOf StatusCause.decoder) fun v d => { d with causes := v },
    .optional "retryAfterSeconds" Json.word32 fun v d => { d with retryAfterSeconds := v }]

/-- The diagnostic form of the details. -/
def shown (d : StatusDetails) : String :=
  "StatusDetails \x7b name: " ++ Text.quoted d.name ++ ", group: " ++ Text.quoted d.group ++
    ", kind: " ++ Text.quoted d.kind ++ ", uid: " ++ Text.quoted d.uid ++ ", causes: [" ++
    ", ".intercalate (d.causes.map StatusCause.shown) ++
    s!"], retry_after_seconds: {d.retryAfterSeconds} \x7d"

end StatusDetails

/-- The diagnostic form of a value that may be absent. -/
def shownOption {α : Type} (shown : α → String) : Option α → String
  | some a => "Some(" ++ shown a ++ ")"
  | none => "None"

/-- The diagnostic form of the metadata of a list. -/
def ListMeta.shown (m : ListMeta) : String :=
  "ListMeta \x7b continue_: " ++ shownOption Text.quoted m.continuation ++
    ", remaining_item_count: " ++ shownOption toString m.remainingItemCount ++
    ", resource_version: " ++ shownOption Text.quoted m.resourceVersion ++
    ", self_link: " ++ shownOption Text.quoted m.selfLink ++ " \x7d"

namespace Status

def decoder : Decoder Status :=
  Json.fixedRecord "Status" {} [
    .optional "status" (Json.nullable StatusSummary.decoder) fun v s => { s with status := v },
    .optional "code" Json.word16 fun v s => { s with code := v },
    .optional "message" Json.string fun v s => { s with message := v },
    .optional "metadata" (Json.nullable ListMeta.decoder) fun v s => { s with metadata := v },
    .optional "reason" Json.string fun v s => { s with reason := v },
    .optional "details" (Json.nullable StatusDetails.decoder) fun v s => { s with details := v }]

/-- The status that stands for a refusal whose body is none. -/
def unreadable (httpStatus : Nat) (body : String) : Status where
  status := some .failure
  code := httpStatus
  message := body
  reason := "Failed to parse error data"

/-- The diagnostic form of a status. -/
def shown (s : Status) : String :=
  "Status \x7b status: " ++ shownOption StatusSummary.text s.status ++ s!", code: {s.code}" ++
    ", message: " ++ Text.quoted s.message ++
    ", metadata: " ++ shownOption ListMeta.shown s.metadata ++
    ", reason: " ++ Text.quoted s.reason ++
    ", details: " ++ shownOption StatusDetails.shown s.details ++ " \x7d"

/-- The text of a refusal. -/
def text (s : Status) : String :=
  "ApiError: " ++ s.message ++ ": " ++ s.reason ++ " (" ++ s.shown ++ ")"

end Status

end ClusterReady
