import ClusterReady.DecodeFault
import ClusterReady.Json.Parser

/-!
# Reading values out of JSON

A `Decoder α` reads an `α` out of a document or says what is wrong with it.  Decoders look at a
document in the order of its text, so of two faults the one that comes first is reported.
-/

namespace ClusterReady

namespace Json

/-- The fault texts of JSON call an absent value `null`. -/
def foundStyle : FoundStyle := ⟨"null", Decimal.scientific⟩

/-- The wording of a fault in a JSON document. -/
def faultText (fault : DecodeFault) : String := fault.text foundStyle

/-- Reads an `α` out of a document. -/
abbrev Decoder (α : Type) := Json → Except DecodeFault α

/-- What stands in a document where something else was expected. -/
def mismatch {α : Type} (expected : String) : Decoder α
  | null => .error (.invalidType .unit expected)
  | bool b => .error (.invalidType (.bool b) expected)
  | int n => .error (.invalidType (.int n) expected)
  | float bits => .error (.invalidType (.float bits) expected)
  | str s => .error (.invalidType (.str s) expected)
  | arr _ => .error (.invalidType .sequence expected)
  | obj _ => .error (.invalidType .map expected)
  | broken fault => .error (.malformed fault.message)

/-- The containers that a document may have around a value. -/
def depthLimit : Nat := 127

/-- A value that is kept as it is, with no more than `room` containers in it. -/
def anyValue (room : Nat) : Decoder Json := fun j =>
  match j.fault? (some room) with
  | some fault => .error (.malformed fault.message)
  | none => .ok j

/-- A value that is passed over: nothing but a break in the text matters. -/
def ignored : Decoder Unit := fun j =>
  match j.fault? none with
  | some fault => .error (.malformed fault.message)
  | none => .ok ()

def string : Decoder String
  | str s => .ok s
  | j => mismatch "a string" j

def boolean : Decoder Bool
  | bool b => .ok b
  | j => mismatch "a boolean" j

/-- An integer between two bounds. -/
def integer (low high : Int) (expected : String) : Decoder Int
  | int n => if low ≤ n && n ≤ high then .ok n else .error (.invalidValue (.int n) expected)
  | j => mismatch expected j

def int32 : Decoder Int := integer Int32.minValue.toInt Int32.maxValue.toInt "i32"

def int64 : Decoder Int := integer Int64.minValue.toInt Int64.maxValue.toInt "i64"

def word16 : Decoder Nat := fun j => (integer 0 (UInt16.size - 1) "u16" j).map Int.toNat

def word32 : Decoder Nat := fun j => (integer 0 (UInt32.size - 1) "u32" j).map Int.toNat

/-- A value, or nothing for `null`. -/
def nullable {α : Type} (d : Decoder α) : Decoder (Option α)
  | null => .ok none
  | j => (d j).map some

/-- A value, or `default` for `null`. -/
def orDefault {α : Type} (default : α) (d : Decoder α) : Decoder α
  | null => .ok default
  | j => d j

/-- A choice by name, written as a string or as an object of one field whose value is `null`. -/
def variant {α : Type} (choices : List (String × α)) : Decoder α :=
  let choose (name : String) : Except DecodeFault α :=
    match choices.lookup name with
    | some a => .ok a
    | none => .error (.unknownVariant name (choices.map Prod.fst))
  fun
  | str s => choose s
  | obj [(_, broken fault)] => .error (.malformed fault.message)
  | obj [(name, value)] => do
    let a ← choose name
    match value with
    | null => return a
    | other => mismatch "unit" other
  | obj _ => .error (.invalidValue .map "map with a single key")
  | j => mismatch "string or map" j

/-- One of some names, which is read as the text goes by: a value of another form is a fault of the
text. -/
def streamedVariant {α : Type} (choices : List (String × α)) : Decoder α := fun
  | str s => variant choices (str s)
  | obj ((name, value) :: rest) => do
    let a ← variant choices (obj [(name, value)])
    if rest.isEmpty then return a else .error (.malformed Malformed.expectedValue.message)
  | _ => .error (.malformed Malformed.expectedValue.message)

/-- The items of a list, in order. -/
def eachItem {α : Type} (d : Decoder α) : List Json → Except DecodeFault (List α)
  | [] => .ok []
  | j :: rest => do
    let a ← d j
    return a :: (← eachItem d rest)

def listOf {α : Type} (d : Decoder α) : Decoder (List α)
  | arr items => eachItem d items
  | j => mismatch "a sequence" j

/-- The values of an object whose names are free. -/
def eachValue {α : Type} (d : Decoder α) : List (String × Json) → Except DecodeFault (List α)
  | [] => .ok []
  | (_, j) :: rest => do
    let a ← d j
    return a :: (← eachValue d rest)

/-- An object whose names are free, as the list of its values. -/
def mapOf {α : Type} (d : Decoder α) : Decoder (List α)
  | obj fields => eachValue d fields
  | j => mismatch "a map" j

/-- A field that is kept in a record. -/
structure Field (α : Type) where
  name : String
  read : Decoder (α → α)
  /-- What the absence of the field stands for; `none` when the field must be there. -/
  absent : Option (α → α)

/-- Puts a decoded value into a record. -/
def Field.required {α β : Type} (name : String) (d : Decoder β) (put : β → α → α) : Field α :=
  ⟨name, fun j => (d j).map put, none⟩

/-- A field that may be absent. -/
def Field.optional {α β : Type} (name : String) (d : Decoder β) (put : β → α → α) : Field α :=
  ⟨name, fun j => (d j).map put, some id⟩

/-- Fields that have to be well-formed and are not kept. -/
structure Checked where
  names : List String
  form : Decoder Unit

/-- Fields of a form that may be `null`. -/
def Checked.of {β : Type} (names : List String) (d : Decoder β) : Checked :=
  ⟨names, fun j => (nullable d j).map fun _ => ()⟩

/-- A field that is not kept; one that nothing is known of is passed over. -/
def passOver (checked : List Checked) (name : String) : Decoder Unit :=
  match checked.find? (·.names.contains name) with
  | some field => field.form
  | none => ignored

/-- The fields of an object, in order, each put into what is known so far. -/
def eachField {α : Type} (fields : List (Field α)) (checked : List Checked) (a : α) :
    List (String × Json) → Except DecodeFault α
  | [] => .ok a
  | (name, j) :: rest =>
    match fields.find? (·.name == name) with
    | some field => do eachField fields checked ((← field.read j) a) rest
    | none => do
      passOver checked name j
      eachField fields checked a rest

/-- An object of the named type; a later field of the same name replaces an earlier one. -/
def record {α : Type} (type : String) (start : α) (fields : List (Field α))
    (checked : List Checked) : Decoder α
  | obj entries => eachField fields checked start entries
  | j => mismatch type j

/-- The fields that have not been seen take what their absence stands for. -/
def fillAbsent {α : Type} (a : α) (seen : List String) :
    List (Field α) → Except DecodeFault α
  | [] => .ok a
  | field :: rest =>
    if seen.contains field.name then fillAbsent a seen rest
    else match field.absent with
      | some put => fillAbsent (put a) seen rest
      | none => .error (.missingField field.name)

/-- The entries of an object as a fixed record; none of its fields may come twice, and what is
none of its fields is read by `other`. -/
def eachEntry {α : Type} (fields : List (Field α)) (other : String → α → Decoder α) (a : α)
    (seen : List String) : List (String × Json) → Except DecodeFault α
  | [] => fillAbsent a seen fields
  | (name, j) :: rest =>
    match fields.find? (·.name == name) with
    | some field =>
      if seen.contains name then .error (.duplicateField name)
      else do eachEntry fields other ((← field.read j) a) (name :: seen) rest
    | none => do eachEntry fields other (← other name a j) seen rest

/-- The items of a list as the fields of a record, in order; `index` of them have been read. -/
def eachPosition {α : Type} (expected : String) (a : α) (index : Nat) :
    List (Field α) → List Json → Except DecodeFault α
  | [], [] => .ok a
  | [], broken fault :: _ => match fault with
    | .trailingComma | .endOfList => .error (.malformed fault.message)
    | _ => .error (.malformed Malformed.trailingCharacters.message)
  | [], _ :: _ => .error (.malformed Malformed.trailingCharacters.message)
  | field :: fields, [] => match field.absent with
    | some put => eachPosition expected (put a) (index + 1) fields []
    | none => .error (.invalidLength index expected)
  | field :: fields, j :: rest => do
    eachPosition expected ((← field.read j) a) (index + 1) fields rest

/-- A record with fixed fields: an object of them, or a list of their values in order. -/
def fixedRecord {α : Type} (type : String) (start : α) (fields : List (Field α)) : Decoder α
  | obj entries =>
    eachEntry fields (fun _ a j => (ignored j).map fun _ => a) start [] entries
  | arr items =>
    let expected := "struct " ++ type ++ s!" with {fields.length} element" ++
      (if fields.length = 1 then "" else "s")
    eachPosition expected start 0 fields items
  | j => mismatch ("struct " ++ type) j

/-- A record with fixed fields that keeps its other entries; only an object is one. -/
def openRecord {α : Type} (type : String) (start : α) (fields : List (Field α))
    (other : String → α → Decoder α) : Decoder α
  | obj entries => eachEntry fields other start [] entries
  | j => mismatch ("struct " ++ type) j

/-- The value of a whole text: nothing but blanks may follow it. -/
def decodeText {α : Type} (d : Decoder α) (s : String) : Except DecodeFault α := do
  let reading := read s
  let a ← d reading.value
  if reading.trailing then .error (.malformed Malformed.trailingCharacters.message) else return a

end Json

end ClusterReady
