/-!
# The parts of a YAML stream

Characters, places and tokens of a stream, and what can be wrong with it.
-/

namespace ClusterReady.Yaml

/-- Why a text is not one YAML document. -/
inductive Malformed where
  /-- A character that a stream cannot hold. -/
  | controlCharacter
  | cannotStartToken
  /-- A key that must be followed by a colon is not. -/
  | unfinishedKey
  | misplacedEntry
  | misplacedKey
  | misplacedValue
  | directive
  | tag
  | anchor
  /-- A colon in a plain scalar of a flow collection. -/
  | unexpectedColon
  | tabIndentation
  | documentIndicatorInScalar
  | unfinishedScalar
  | escape
  | blockHeader
  | expectedNode
  | expectedEntry
  | expectedKey
  | expectedListCommaOrEnd
  | expectedObjectCommaOrEnd
  | expectedDocumentStart
  | version
  | undefinedTagHandle
  | unknownAlias
  | severalDocuments
deriving DecidableEq, Repr

def Malformed.message : Malformed → String
  | controlCharacter => "control characters are not allowed"
  | cannotStartToken => "found character that cannot start any token"
  | unfinishedKey => "could not find expected ':'"
  | misplacedEntry => "block sequence entries are not allowed in this context"
  | misplacedKey => "mapping keys are not allowed in this context"
  | misplacedValue => "mapping values are not allowed in this context"
  | directive => "found a malformed directive"
  | tag => "found a malformed tag"
  | anchor => "did not find expected alphabetic or numeric character"
  | unexpectedColon => "found unexpected ':'"
  | tabIndentation => "found a tab character that violates indentation"
  | documentIndicatorInScalar => "found unexpected document indicator"
  | unfinishedScalar => "found unexpected end of stream"
  | escape => "found unknown escape character"
  | blockHeader => "did not find expected comment or line break"
  | expectedNode => "did not find expected node content"
  | expectedEntry => "did not find expected '-' indicator"
  | expectedKey => "did not find expected key"
  | expectedListCommaOrEnd => "did not find expected ',' or ']'"
  | expectedObjectCommaOrEnd => "did not find expected ',' or '\x7d'"
  | expectedDocumentStart => "did not find expected <document start>"
  | version => "found incompatible YAML document"
  | undefinedTagHandle => "found undefined tag handle"
  | unknownAlias => "unknown anchor"
  | severalDocuments =>
    "deserializing from YAML containing more than one document is not supported"

/-- How a scalar is written. -/
inductive Style where
  | plain
  /-- A block scalar that keeps its lines. -/
  | literal
  /-- A folded block scalar, or a scalar between quotes. -/
  | quoted
deriving DecidableEq, Repr

/-- A tag as it is written: its handle, which is empty for a tag in full, and the rest. -/
structure TagText where
  handle : String
  suffix : String
deriving DecidableEq, Repr

inductive Token where
  | versionDirective (major minor : Nat)
  | tagDirective (handle : String) (start : String)
  | documentStart
  | documentEnd
  | blockSequenceStart
  | blockMappingStart
  | blockEnd
  | flowSequenceStart
  | flowSequenceEnd
  | flowMappingStart
  | flowMappingEnd
  | blockEntry
  | flowEntry
  | key
  | value
  | alias (name : String)
  | anchor (name : String)
  | tag (text : TagText)
  | scalar (text : String) (style : Style)
deriving DecidableEq, Repr

/-- A place in a stream, counted in characters from zero. -/
structure Place where
  index : Nat := 0
  line : Nat := 0
  column : Nat := 0
deriving DecidableEq, Repr

namespace Place

/-- The place after so many characters of the same line. -/
def after (p : Place) (count : Nat) : Place :=
  { p with index := p.index + count, column := p.column + count }

/-- The first place of the next line, after a break of so many characters. -/
def nextLine (p : Place) (count : Nat) : Place := ⟨p.index + count, p.line + 1, 0⟩

end Place

def isBreak (c : Char) : Bool :=
  c == '\n' || c == '\r' || c == '\u0085' || c == '\u2028' || c == '\u2029'

def isBlank (c : Char) : Bool := c == ' ' || c == '\t'

/-- Whether a text is over or goes on with a blank or a break. -/
def gap : List Char → Bool
  | [] => true
  | c :: _ => isBlank c || isBreak c

/-- Whether a text begins with a line break or is over. -/
def lineOver : List Char → Bool
  | [] => true
  | c :: _ => isBreak c

/-- A character of a name: a letter or digit of ASCII, a dash or an underscore. -/
def isWordChar (c : Char) : Bool := c.isAlphanum || c == '-' || c == '_'

/-- How a line break is kept in a scalar: most breaks become a line feed. -/
def keptBreak (c : Char) : Char := if c == '\u2028' || c == '\u2029' then c else '\n'

/-- Whether a line starts here with one of the two document indicators. -/
def atDocumentIndicator (p : Place) (cs : List Char) : Bool :=
  p.column == 0 && match cs with
    | '-' :: '-' :: '-' :: rest => gap rest
    | '.' :: '.' :: '.' :: rest => gap rest
    | _ => false

/-- A character that a stream may hold. -/
def isAllowed (c : Char) : Bool :=
  let n := c.toNat
  n == 0x9 || n == 0xA || n == 0xD || (0x20 ≤ n && n ≤ 0x7E) || n == 0x85 ||
    (0xA0 ≤ n && n ≤ 0xFFFD && n != 0xFEFF) || 0x10000 ≤ n

end ClusterReady.Yaml
