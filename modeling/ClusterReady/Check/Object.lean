import ClusterReady.Api.Core
import ClusterReady.Api.Target
import ClusterReady.Api.Client
import ClusterReady.Wait.Failure
import ClusterReady.Wait.Predicate

/-!
# Checks on one object

How the answers of the client become verdicts: what cannot be read is a read failure with the
client's words, and an object that does not exist is so when a check says what that means.

Three checks look at a single object.  It reports a condition in the list `status.conditions`,
whose first entry of the type decides; it is a claim that is bound; or it no longer exists, and
then its absence is the success.
-/

namespace ClusterReady

/-- A client's error as the failure of a check. -/
def ClientError.failure (e : ClientError) : CheckFailure := .read e.text

/-- The verdict on what the client gave. -/
def Verdict.of {α : Type} (judge : α → Verdict) : Except ClientError α → Verdict
  | .ok a => judge a
  | .error e => .error e.failure

/-- The verdict on an object that may not exist. -/
def Verdict.ofObject {α : Type} (absent : Verdict) (judge : α → Verdict) :
    Except ClientError α → Verdict
  | .ok a => judge a
  | .error e => if e.isNotFound then absent else .error e.failure

/-- An entry of `status.conditions`. -/
structure ObservedCondition where
  status : String
  reason : Option String
  message : Option String
deriving DecidableEq, Repr

namespace ObservedCondition

/-- A text field of an entry. -/
def text? (entry : Json) (name : String) : Option String := entry.get? name >>= Json.asString?

/-- An entry as it is read; a status that is not a text is unknown. -/
def ofEntry (entry : Json) : ObservedCondition where
  status := (text? entry "status").getD "Unknown"
  reason := text? entry "reason"
  message := text? entry "message"

/-- Whether an entry is of the type. -/
def isOfType (type : String) (entry : Json) : Bool := text? entry "type" == some type

/-- The list of conditions of an object. -/
def entries? (data : Json) : Option (List Json) := do
  (← (← data.get? "status").get? "conditions").asList?

/-- The first condition of the type that an object reports. -/
def find? (data : Json) (type : String) : Option ObservedCondition := do
  return ofEntry (← (← entries? data).find? (isOfType type))

/-- What an operator is told of a condition whose status is not the expected one. -/
def mismatch (c : ObservedCondition) (type expected : String) : String :=
  type ++ "=" ++ c.status ++ " (want " ++ expected ++ ")" ++
    (match c.reason with
    | some reason => ", reason " ++ reason
    | none => "") ++
    (match c.message with
    | some message => ": " ++ message
    | none => "")

end ObservedCondition

/-- The verdict on an object that should report a condition with the expected status. -/
def evaluateCondition (data : Json) (type expected : String) : Verdict :=
  match ObservedCondition.find? data type with
  | none => .error (.unsatisfied ("condition " ++ type ++ " not reported yet"))
  | some c =>
    if c.status = expected then .ok () else .error (.unsatisfied (c.mismatch type expected))

/-- The status of a condition that holds. -/
def conditionHolds : String := "True"

/-- An object by its namespace, if it has one, and its name. -/
def qualifiedName (scope : Option String) (name : String) : String :=
  match scope with
  | some scope => scope ++ "/" ++ name
  | none => name

/-- The named object of a target reports that a condition holds. -/
def conditionStatus {σ : Type} (server : Server σ) (target : Target) (scope : Option String)
    (name type : String) : Predicate σ where
  describe := target.kind ++ " " ++ qualifiedName scope name ++ " " ++ type ++ "=" ++ conditionHolds
  check _ := do
    return Verdict.ofObject
      (.error (.unsatisfied (target.kind ++ " " ++ qualifiedName scope name ++ " not found")))
      (fun o => evaluateCondition o.data type conditionHolds)
      (← server.get (target.collection scope) DynamicObject.decoder name)

/-- The phase of a claim; without one it is unknown. -/
def Claim.phase (c : Claim) : String := (c.status.bind (·.phase)).getD "Unknown"

/-- The verdict on a claim, which is called `shown`. -/
def evaluateClaim (shown : String) (c : Claim) : Verdict :=
  if c.phase = "Bound" then .ok () else .error (.unsatisfied ("PVC " ++ shown ++ " is " ++ c.phase))

/-- The named claim is bound. -/
def claimBound {σ : Type} (server : Server σ) (scope name : String) : Predicate σ where
  describe := "PVC " ++ scope ++ "/" ++ name ++ " bound"
  check _ := do
    let shown := scope ++ "/" ++ name
    return Verdict.ofObject (.error (.unsatisfied ("PVC " ++ shown ++ " not found")))
      (evaluateClaim shown) (← server.get (Claim.type.within scope) Claim.type.decoder name)

/-- What an object that should be deleted still does. -/
def deletionState (m : ObjectMeta) : String :=
  if m.deletionTimestamp.isSome then "is still terminating" else "still exists"

/-- The named object no longer exists; `kind` is what the object is called. -/
def resourceDeleted {σ α : Type} (server : Server σ) (c : Collection) (d : Json.Decoder α)
    (metadata : α → ObjectMeta) (kind name : String) : Predicate σ where
  describe := kind ++ " " ++ name ++ " deleted"
  check _ := do
    return Verdict.ofObject (.ok ())
      (fun o => .error (.unsatisfied (kind ++ " " ++ name ++ " " ++ deletionState (metadata o))))
      (← server.get c d name)

end ClusterReady
