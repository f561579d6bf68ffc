import ClusterReady.Json.Token

/-!
# Reading JSON

`Json.read` turns a text into a document and says whether something follows it.  The containers
that are open are kept on a stack, so the reader goes through the tokens once.
-/

namespace ClusterReady.Json

/-- A container that is not closed yet, with its contents so far, latest first. -/
inductive Frame where
  | list (items : List Json)
  | object (fields : List (String × Json)) (name : String)

/-- What the reader expects next. -/
inductive Expect where
  | value
  /-- The first item of a list, or its end. -/
  | firstItem
  /-- The first field name of an object, or its end. -/
  | firstName (fields : List (String × Json))
  | name (fields : List (String × Json))
  | colon (fields : List (String × Json)) (name : String)
  /-- What may come after a complete value. -/
  | next (value : Json)

/-- A document as read, and whether anything but blanks follows it. -/
structure Reading where
  value : Json
  trailing : Bool

/-- Closes the open containers around a value. -/
def close : List Frame → Json → Json
  | [], v => v
  | .list items :: frames, v => close frames (.arr (v :: items).reverse)
  | .object fields name :: frames, v => close frames (.obj ((name, v) :: fields).reverse)

/-- The document that breaks off here, inside an object with these fields. -/
def breakObject (frames : List Frame) (fields : List (String × Json)) (fault : Malformed) :
    Reading :=
  ⟨close frames (.obj (("", .broken fault) :: fields).reverse), false⟩

/-- The document that breaks off here, where a value stands. -/
def breakValue (frames : List Frame) (fault : Malformed) : Reading :=
  ⟨close frames (.broken fault), false⟩

/-- The document that breaks off after a complete value; a finished document is whole. -/
def breakNext (frames : List Frame) (v : Json) (inList inObject : Malformed) : Reading :=
  match frames with
  | [] => ⟨v, true⟩
  | .list items :: frames => breakValue (.list (v :: items) :: frames) inList
  | .object fields name :: frames => breakObject frames ((name, v) :: fields) inObject

/-- Goes through the tokens. -/
def build (frames : List Frame) : Expect → List Token → Reading
  | .next v, [] => match frames with
    | [] => ⟨v, false⟩
    | _ => breakNext frames v .endOfList .endOfObject
  | .next v, token :: rest => match token, frames with
    | .comma, .list items :: frames => match rest with
      | .closeBracket :: _ => breakValue (.list (v :: items) :: frames) .trailingComma
      | _ => build (.list (v :: items) :: frames) .value rest
    | .comma, .object fields name :: frames => build frames (.name ((name, v) :: fields)) rest
    | .closeBracket, .list items :: frames =>
      build frames (.next (.arr (v :: items).reverse)) rest
    | .closeBrace, .object fields name :: frames =>
      build frames (.next (.obj ((name, v) :: fields).reverse)) rest
    | _, _ => breakNext frames v .expectedListCommaOrEnd .expectedObjectCommaOrEnd
  | .value, [] => breakValue frames .endOfValue
  | .value, token :: rest => match token with
    | .leaf v => build frames (.next v) rest
    | .str s => build frames (.next (.str s)) rest
    | .openBracket => build frames .firstItem rest
    | .openBrace => build frames (.firstName []) rest
    | .bad fault => breakValue frames fault
    | _ => breakValue frames .expectedValue
  | .firstItem, [] => breakValue (.list [] :: frames) .endOfList
  | .firstItem, token :: rest => match token with
    | .closeBracket => build frames (.next (.arr [])) rest
    | .leaf v => build (.list [] :: frames) (.next v) rest
    | .str s => build (.list [] :: frames) (.next (.str s)) rest
    | .openBracket => build (.list [] :: frames) .firstItem rest
    | .openBrace => build (.list [] :: frames) (.firstName []) rest
    | .bad fault => breakValue (.list [] :: frames) fault
    | _ => breakValue (.list [] :: frames) .expectedValue
  | .firstName fields, [] => breakObject frames fields .endOfObject
  | .firstName fields, token :: rest => match token with
    | .closeBrace => build frames (.next (.obj fields.reverse)) rest
    | .str s => build frames (.colon fields s) rest
    | .bad .endOfString => breakObject frames fields .endOfString
    | .bad .controlCharacter => breakObject frames fields .controlCharacter
    | .bad .invalidEscape => breakObject frames fields .invalidEscape
    | .bad .loneSurrogate => breakObject frames fields .loneSurrogate
    | .bad .endOfHexEscape => breakObject frames fields .endOfHexEscape
    | _ => breakObject frames fields .keyNotString
  | .name fields, [] => breakObject frames fields .endOfValue
  | .name fields, token :: rest => match token with
    | .str s => build frames (.colon fields s) rest
    | .closeBrace => breakObject frames fields .trailingComma
    | .bad .endOfString => breakObject frames fields .endOfString
    | .bad .controlCharacter => breakObject frames fields .controlCharacter
    | .bad .invalidEscape => breakObject frames fields .invalidEscape
    | .bad .loneSurrogate => breakObject frames fields .loneSurrogate
    | .bad .endOfHexEscape => breakObject frames fields .endOfHexEscape
    | _ => breakObject frames fields .keyNotString
  | .colon fields _, [] => breakObject frames fields .endOfObject
  | .colon fields name, token :: rest => match token with
    | .colon => build (.object fields name :: frames) .value rest
    | _ => breakObject frames fields .expectedColon

/-- The document that a text begins with. -/
def read (s : String) : Reading := build [] .value (Token.scan s)

end ClusterReady.Json
