import ClusterReady.Json.Decode

/-!
# Object metadata

The part that all API objects share: their names and the instant of their deletion.
-/

namespace ClusterReady

open Json (Decoder)

namespace Timestamp

/-- Drops `count` digits from the front. -/
def dropDigits : (count : Nat) → List Char → Option (List Char)
  | 0, cs => some cs
  | count + 1, c :: cs => if c.isDigit then dropDigits count cs else none
  | _ + 1, [] => none

/-- Drops a character of the given choice from the front. -/
def dropOne (choice : List Char) : List Char → Option (List Char)
  | c :: cs => if choice.contains c then some cs else none
  | [] => none

/-- Drops the fraction of a second, if there is one. -/
def dropFraction : List Char → Option (List Char)
  | '.' :: cs => do
    let rest ← dropDigits 1 cs
    return rest.dropWhile Char.isDigit
  | cs => some cs

/-- Whether what is left is an offset from universal time. -/
def isOffset : List Char → Bool
  | ['Z'] | ['z'] => true
  | sign :: rest =>
    (sign == '+' || sign == '-') && (do
      let minutes ← dropDigits 2 rest
      if minutes.isEmpty then some []
      else dropOne [':'] minutes >>= dropDigits 2) == some []
  | [] => false

/-- Whether a text is a date and a time of day with an offset. -/
def isValid (s : String) : Bool :=
  (do
    let cs ← dropDigits 4 s.toList
    let cs ← dropOne ['-'] cs >>= dropDigits 2
    let cs ← dropOne ['-'] cs >>= dropDigits 2
    let cs ← dropOne ['T', 't', ' '] cs >>= dropDigits 2
    let cs ← dropOne [':'] cs >>= dropDigits 2
    let cs ← dropOne [':'] cs >>= dropDigits 2
    dropFraction cs).any isOffset

/-- A timestamp, kept as its text. -/
def decoder : Decoder String
  | .str s => if isValid s then .ok s else .error (.refused "failed to parse timestamp")
  | j => Json.mismatch "a timestamp string" j

end Timestamp

/-- The metadata of an API object. -/
structure ObjectMeta where
  name : Option String := none
  generateName : Option String := none
  deletionTimestamp : Option String := none
deriving DecidableEq, Repr

namespace ObjectMeta

def fields : List (Json.Field ObjectMeta) := [
  .optional "name" (Json.nullable Json.string) fun v m => { m with name := v },
  .optional "generateName" (Json.nullable Json.string) fun v m => { m with generateName := v },
  .optional "deletionTimestamp" (Json.nullable Timestamp.decoder) fun v m =>
    { m with deletionTimestamp := v }]

def checked : List Json.Checked := [
  .of ["creationTimestamp"] Timestamp.decoder,
  .of ["namespace", "resourceVersion", "selfLink", "uid"] Json.string,
  .of ["generation", "deletionGracePeriodSeconds"] Json.int64,
  .of ["finalizers"] (Json.listOf Json.string),
  .of ["labels", "annotations"] (Json.mapOf Json.string)]

def decoder : Decoder ObjectMeta := Json.record "ObjectMeta" {} fields checked

/-- The name of an object in messages. -/
def shownName (m : ObjectMeta) : String := (m.name <|> m.generateName).getD ""

end ObjectMeta

/-- The metadata of a list of objects. -/
structure ListMeta where
  continuation : Option String := none
  remainingItemCount : Option Int := none
  resourceVersion : Option String := none
  selfLink : Option String := none
deriving DecidableEq, Repr

namespace ListMeta

def fields : List (Json.Field ListMeta) := [
  .optional "continue" (Json.nullable Json.string) fun v m => { m with continuation := v },
  .optional "remainingItemCount" (Json.nullable Json.int64) fun v m =>
    { m with remainingItemCount := v },
  .optional "resourceVersion" (Json.nullable Json.string) fun v m =>
    { m with resourceVersion := v },
  .optional "selfLink" (Json.nullable Json.string) fun v m => { m with selfLink := v }]

def decoder : Decoder ListMeta := Json.record "ListMeta" {} fields []

end ListMeta

end ClusterReady
