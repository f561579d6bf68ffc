/-!
# JSON documents

A `Json` is a document as far as it can be read.  A text that stops making sense leaves a
`broken` value at the place where it does, as the last item or the last field of whatever is
open there; a reader of the document that comes to it reports that fault, and one that is
stopped by something before it never does.
-/

namespace ClusterReady

/-- Why a text is not JSON. -/
inductive Json.Malformed where
  | endOfList
  | endOfObject
  | endOfString
  | endOfValue
  | expectedColon
  | expectedListCommaOrEnd
  | expectedObjectCommaOrEnd
  | expectedIdent
  | expectedValue
  | invalidEscape
  | invalidNumber
  | numberOutOfRange
  | controlCharacter
  | keyNotString
  | loneSurrogate
  | endOfHexEscape
  | trailingComma
  | trailingCharacters
  | tooDeep
deriving DecidableEq, Repr

def Json.Malformed.message : Json.Malformed → String
  | endOfList => "EOF while parsing a list"
  | endOfObject => "EOF while parsing an object"
  | endOfString => "EOF while parsing a string"
  | endOfValue => "EOF while parsing a value"
  | expectedColon => "expected `:`"
  | expectedListCommaOrEnd => "expected `,` or `]`"
  | expectedObjectCommaOrEnd => "expected `,` or `\x7d`"
  | expectedIdent => "expected ident"
  | expectedValue => "expected value"
  | invalidEscape => "invalid escape"
  | invalidNumber => "invalid number"
  | numberOutOfRange => "number out of range"
  | controlCharacter => "control character (\\u0000-\\u001F) found while parsing a string"
  | keyNotString => "key must be a string"
  | loneSurrogate => "lone leading surrogate in hex escape"
  | endOfHexEscape => "unexpected end of hex escape"
  | trailingComma => "trailing comma"
  | trailingCharacters => "trailing characters"
  | tooDeep => "recursion limit exceeded"

/-- A JSON document. -/
inductive Json where
  | null
  | bool (b : Bool)
  | int (n : Int)
  /-- A double, by its bits. -/
  | float (bits : UInt64)
  | str (s : String)
  | arr (items : List Json)
  /-- The fields in the order of the text; a name may occur again. -/
  | obj (fields : List (String × Json))
  /-- The place where the text breaks off. -/
  | broken (fault : Json.Malformed)
deriving BEq, Inhabited, Repr

/-- The value of the last entry with this key. -/
def lastEntry {α : Type u} (key : String) (entries : List (String × α)) : Option α :=
  entries.foldl (fun found entry => if entry.1 = key then some entry.2 else found) none

namespace Json

/-- The field of an object; of a repeated name the last counts. -/
def get? : Json → String → Option Json
  | obj fields, key => lastEntry key fields
  | _, _ => none

def asString? : Json → Option String
  | str s => some s
  | _ => none

def asList? : Json → Option (List Json)
  | arr items => some items
  | _ => none

mutual

/-- The first place at which a document breaks off or, where a limit is given, has that many
containers around it. -/
def fault? (limit : Option Nat) : Json → Option Malformed
  | broken fault => some fault
  | arr items => if limit = some 0 then some .tooDeep else firstOfItems (limit.map (· - 1)) items
  | obj fields =>
    if limit = some 0 then some .tooDeep else firstOfFields (limit.map (· - 1)) fields
  | _ => none

def firstOfItems (limit : Option Nat) : List Json → Option Malformed
  | [] => none
  | item :: rest => match fault? limit item with
    | some fault => some fault
    | none => firstOfItems limit rest

def firstOfFields (limit : Option Nat) : List (String × Json) → Option Malformed
  | [] => none
  | (_, value) :: rest => match fault? limit value with
    | some fault => some fault
    | none => firstOfFields limit rest

end

end Json

end ClusterReady
