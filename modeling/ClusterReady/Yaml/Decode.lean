import ClusterReady.Json.Basic
import ClusterReady.Yaml.Scalar

/-!
# Reading values out of YAML documents

A `Yaml.Decoder α` reads an `α` out of a tree or says what is wrong with it and where.  A text
field takes any scalar as it is written.  Nothing at all counts as an empty record or list; an
explicit `null` does not.
-/

namespace ClusterReady.Yaml

/-- Why a value cannot be read, and the path of the value.  A fault that is seen only when a value
is complete has no path of its own: it is one of the record that holds the value. -/
structure Fault where
  path : Option String
  cause : DecodeFault
deriving DecidableEq, Repr

namespace Fault

/-- The fault texts of YAML call an absent value a unit value. -/
def foundStyle : FoundStyle := ⟨"unit value", Decimal.plainPointed⟩

/-- The wording of a fault, after its path; the root of a document is not named. -/
def text (f : Fault) : String :=
  match f.path with
  | some path => (if path.isEmpty then "" else path ++ ": ") ++ f.cause.text foundStyle
  | none => f.cause.text foundStyle

/-- The fault of a part of the record at a path. -/
def inRecord (path : String) (f : Fault) : Fault :=
  match f.path with
  | some _ => f
  | none => { f with path := some path }

end Fault

/-- Reads an `α` at a path. -/
abbrev Decoder (α : Type) := (path : String) → Node → Except Fault α

/-- The path of a field. -/
def fieldPath (path name : String) : String := if path.isEmpty then name else path ++ "." ++ name

/-- The path of an item. -/
def itemPath (path : String) (index : Nat) : String :=
  (if path.isEmpty then "." else path) ++ s!"[{index}]"

/-- A fault at a path. -/
def failAt {α : Type} (path : String) (cause : DecodeFault) : Except Fault α :=
  .error ⟨some path, cause⟩

/-- The containers that a document may have around a value. -/
def depthLimit : Nat := 128

/-- A document that has too many containers in each other. -/
def tooDeep {α : Type} : Except Fault α := .error ⟨some "", .refused "recursion limit exceeded"⟩

/-- What stands in a document where something else was expected. -/
def mismatch {α : Type} (expected : String) : Decoder α := fun path n =>
  match n with
  | .scalar text style tag =>
    match Scalar.meaning text style tag with
    | .ok found => failAt path (.invalidType found expected)
    | .error cause => failAt path cause
  | .sequence .. => failAt path (.invalidType .sequence expected)
  | .mapping .. => failAt path (.invalidType .map expected)
  | .cycle => tooDeep

def string : Decoder String := fun path n =>
  match n with
  | .scalar text _ _ => .ok text
  | n => mismatch "a string" path n

/-- Whether a scalar may be looked at for its meaning: it is plain, or a literal block that asks
for that meaning. -/
def isLiteral (wanted : String) (style : Style) (tag : Option String) : Bool :=
  style == .plain || (style == .literal && tag == some wanted)

def boolean : Decoder Bool := fun path n =>
  match n with
  | .scalar text style tag =>
    match if isLiteral Tag.bool style tag then Scalar.bool? text else none with
    | some b => .ok b
    | none => mismatch "a boolean" path n
  | n => mismatch "a boolean" path n

/-- A number of so many bits. -/
def word (bits : Nat) (expected : String) : Decoder Nat := fun path n =>
  match n with
  | .scalar text style tag =>
    match if isLiteral Tag.int style tag then Scalar.natural text else none with
    | some number =>
      if UInt64.size ≤ number then mismatch expected path n
      else if number < Nat.pow 2 bits then .ok number
      else failAt path (.invalidValue (.int number) expected)
    | none => mismatch expected path n
  | n => mismatch expected path n

def word32 : Decoder Nat := word 32 "u32"

def word64 : Decoder Nat := word 64 "u64"

/-- A value, or nothing where nothing or `null` is written. -/
def nullable {α : Type} (d : Decoder α) : Decoder (Option α) := fun path n =>
  match n with
  | .scalar text .plain tag =>
    match tag with
    | some tag =>
      if tag == Tag.null then
        if Scalar.isNull text then .ok none
        else .error ⟨none, .invalidValue (.str text) "null"⟩
      else (d path n).map some
    | none => if text.isEmpty || Scalar.isNull text then .ok none else (d path n).map some
  | n => (d path n).map some

/-- The items of a list, in order. -/
def eachItem {α : Type} (d : Decoder α) (path : String) (index : Nat) :
    List Node → Except Fault (List α)
  | [] => .ok []
  | n :: rest => do
    let a ← d (itemPath path index) n
    return a :: (← eachItem d path (index + 1) rest)

def listOf {α : Type} (d : Decoder α) : Decoder (List α) := fun path n =>
  match n with
  | .sequence items _ => eachItem d path 0 items
  | .scalar "" .plain _ => .ok []
  | n => mismatch "a sequence" path n

/-- The name of a field. -/
def fieldName (path : String) : Node → Except Fault String
  | .scalar text _ _ => .ok text
  | n => mismatch "field identifier" path n

/-- A field of a record. -/
structure Field (α : Type) where
  name : String
  read : Decoder (α → α)
  /-- What the absence of the field stands for; `none` when the field must be there. -/
  absent : Option (α → α)

namespace Field

variable {α β : Type}

def required (name : String) (d : Decoder β) (put : β → α → α) : Field α :=
  ⟨name, fun path n => (d path n).map put, none⟩

/-- A field that may be absent. -/
def optional (name : String) (d : Decoder β) (put : β → α → α) : Field α :=
  ⟨name, fun path n => (d path n).map put, some id⟩

end Field

/-- The fields that have not been seen take what their absence stands for. -/
def fillAbsent {α : Type} (path : String) (a : α) (seen : List String) :
    List (Field α) → Except Fault α
  | [] => .ok a
  | field :: rest =>
    if seen.contains field.name then fillAbsent path a seen rest
    else match field.absent with
      | some put => fillAbsent path (put a) seen rest
      | none => failAt path (.missingField field.name)

/-- The entries of a mapping as a record; none of its fields may come twice, and what is none of
its fields is read by `other`. -/
def eachEntry {α : Type} (fields : List (Field α)) (other : String → α → Decoder α)
    (path : String) (a : α) (seen : List String) : List (Node × Node) → Except Fault α
  | [] => fillAbsent path a seen fields
  | (key, n) :: rest => do
    let name ← fieldName path key
    match fields.find? (·.name == name) with
    | some field =>
      if seen.contains name then failAt path (.duplicateField name)
      else
        let put ← (field.read (fieldPath path name) n).mapError (·.inRecord path)
        eachEntry fields other path (put a) (name :: seen) rest
    | none => eachEntry fields other path (← other name a (fieldPath path name) n) seen rest

/-- The entries of a node that is a mapping, or nothing at all. -/
def entries (expected : String) : Decoder (List (Node × Node)) := fun path n =>
  match n with
  | .mapping entries _ => .ok entries
  | .scalar "" .plain _ => .ok []
  | n => mismatch expected path n

/-- A record that passes over entries that it does not know. -/
def record {α : Type} (type : String) (start : α) (fields : List (Field α)) : Decoder α :=
  fun path n => do
    eachEntry fields (fun _ a _ _ => .ok a) path start [] (← entries ("struct " ++ type) path n)

/-- A choice by name: a text, or a tag with nothing behind it. -/
def variant {α : Type} (choices : List (String × α)) : Decoder α := fun path n =>
  let choose (name : String) (path : Option String) : Except Fault α :=
    match choices.lookup name with
    | some a => .ok a
    | none => .error ⟨path, .unknownVariant name (choices.map Prod.fst)⟩
  let expected := "a YAML tag starting with '!'"
  match n with
  | .scalar text style tag =>
    match Tag.local? tag with
    | some name => do
      let a ← choose name none
      if style == .plain then
        if text.isEmpty || Scalar.isNull text then return a
        else failAt path (.invalidValue (.str text) "null")
      else failAt path (.invalidType (.str text) "unit")
    | none => choose text (some path)
  | .sequence _ tag =>
    match Tag.local? tag with
    | some name => do
      let _ ← choose name none
      failAt path (.invalidType .sequence "unit")
    | none => failAt path (.invalidType .sequence expected)
  | .mapping _ tag =>
    match Tag.local? tag with
    | some name => do
      let _ ← choose name none
      failAt path (.invalidType .map "unit")
    | none => failAt path (.invalidType .map expected)
  | .cycle => tooDeep

/-! ### Entries that are read after the others -/

mutual

/-- What an entry is that is kept for later, of which only scalars are looked at then; everything
in it has to be something, with no more than `room` containers. -/
def kept (room : Nat) (path : String) : Node → Except Fault Found
  | .scalar text style tag =>
    match Tag.local? tag with
    | some _ => keptTag path
    | none =>
      match Scalar.meaning text style tag with
      | .ok (.wideInt n) => failAt path (.invalidType (.wideInt n) "any value")
      | .ok found => .ok found
      | .error cause => failAt path cause
  | .sequence items tag =>
    if (Tag.local? tag).isSome then keptTag path
    else if room = 0 then tooDeep
    else do
      keptItems (room - 1) path 0 items
      return .sequence
  | .mapping entries tag =>
    if (Tag.local? tag).isSome then keptTag path
    else if room = 0 then tooDeep
    else do
      keptEntries (room - 1) path entries
      return .map
  | .cycle => tooDeep
where
  keptTag (path : String) : Except Fault Found :=
    failAt path (.refused "untagged and internally tagged enums do not support enum input")

def keptItems (room : Nat) (path : String) (index : Nat) : List Node → Except Fault Unit
  | [] => .ok ()
  | n :: rest => do
    let _ ← kept room (itemPath path index) n
    keptItems room path (index + 1) rest

def keptEntries (room : Nat) (path : String) : List (Node × Node) → Except Fault Unit
  | [] => .ok ()
  | (key, n) :: rest => do
    let _ ← kept room path key
    let name := match key with
      | .scalar text _ _ => text
      | _ => "?"
    let _ ← kept room (fieldPath path name) n
    keptEntries room path rest

end

/-! ### Documents as trees -/

namespace Node

mutual

/-- The tree of a document of JSON. -/
def ofJson : Json → Node
  | .null => .scalar "null" .plain none
  | .bool b => .scalar (if b then "true" else "false") .plain none
  | .int n => .scalar (toString n) .plain none
  | .float bits => .scalar (Decimal.plainPointed.text bits) .plain none
  | .str s => .scalar s .quoted none
  | .arr items => .sequence (ofItems items) none
  | .obj fields => .mapping (ofFields fields) none
  | .broken _ => empty

def ofItems : List Json → List Node
  | [] => []
  | j :: rest => ofJson j :: ofItems rest

def ofFields : List (String × Json) → List (Node × Node)
  | [] => []
  | (name, j) :: rest => (.scalar name .quoted none, ofJson j) :: ofFields rest

end

end Node

end ClusterReady.Yaml
