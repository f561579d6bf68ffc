import ClusterReady.Text.Utf8
import ClusterReady.Yaml.ScalarText

/-!
# The tokens of a YAML stream

`Token.scan` splits a stream into tokens.  In block context the columns of the lines open and
close collections.  A key needs no mark of its own: whatever may turn out to be a key is
remembered with the number of its first token, and the colon behind it puts the marks in there.
-/

namespace ClusterReady.Yaml

/-- Something that is a key if a colon follows it on the same line. -/
structure PossibleKey where
  place : Place
  /-- The number of its first token. -/
  number : Nat
  /-- Whether nothing but a key can stand there. -/
  required : Bool
deriving DecidableEq, Repr

/-- A stream that has been split as far as `rest`. -/
structure Scanner where
  rest : List Char
  place : Place := {}
  /-- The tokens, latest first. -/
  tokens : List Token := []
  count : Nat := 0
  /-- The columns of the open block collections, innermost first. -/
  indents : List Nat := []
  /-- Whether a key may start here. -/
  keyAllowed : Bool := true
  key : Option PossibleKey := none
  /-- The possible keys outside of each open flow collection, innermost first. -/
  outerKeys : List (Option PossibleKey) := []

namespace Scanner

/-- The longest key that needs no mark, in characters. -/
def keyLimit : Nat := 1024

def inFlow (s : Scanner) : Bool := !s.outerKeys.isEmpty

/-- The column of the innermost block collection; before the first one it is `-1`. -/
def indent (s : Scanner) : Int :=
  match s.indents with
  | column :: _ => column
  | [] => -1

def push (s : Scanner) (t : Token) : Scanner :=
  { s with tokens := t :: s.tokens, count := s.count + 1 }

/-- Puts tokens in front of the token of that number. -/
def insert (s : Scanner) (number : Nat) (ts : List Token) : Scanner :=
  let later := s.tokens.take (s.count - number)
  let earlier := s.tokens.drop (s.count - number)
  { s with tokens := later ++ ts.reverse ++ earlier, count := s.count + ts.length }

/-- Passes so many characters of the line. -/
def skip (s : Scanner) (n : Nat) : Scanner :=
  { s with rest := s.rest.drop n, place := s.place.after n }

/-- Closes the block collections whose column is beyond the given one, if there is one. -/
def unroll (s : Scanner) (column : Option Nat) : Scanner :=
  if s.inFlow then s
  else
    let open_ := s.indents.dropWhile fun indent => match column with
      | some column => column < indent
      | none => true
    let closed := s.indents.length - open_.length
    { s with
      indents := open_
      tokens := List.replicate closed Token.blockEnd ++ s.tokens
      count := s.count + closed }

/-- Opens a block collection at a column, in front of the token of that number, unless it is open
already. -/
def roll (s : Scanner) (column number : Nat) (t : Token) : Scanner :=
  if !s.inFlow && s.indent < column then
    { s.insert number [t] with indents := column :: s.indents }
  else s

/-- What may have been a key is none. -/
def dropKey (s : Scanner) : Except Malformed Scanner :=
  match s.key with
  | some key => if key.required then .error .unfinishedKey else .ok { s with key := none }
  | none => .ok s

/-- Remembers that a key may start here. -/
def saveKey (s : Scanner) : Except Malformed Scanner := do
  if s.keyAllowed then
    let required := !s.inFlow && s.indent == s.place.column
    return { ← s.dropKey with key := some ⟨s.place, s.count, required⟩ }
  else return s

/-- Passes blanks, comments and line breaks; a line of the block context may start with a key. -/
def blanksFrom (flow keyAllowed comment : Bool) (p : Place) :
    List Char → Place × Bool × List Char
  | [] => (p, keyAllowed, [])
  | c :: rest =>
    if isBreak c then
      match c, rest with
      | '\r', '\n' :: rest => blanksFrom flow (keyAllowed || !flow) false (p.nextLine 2) rest
      | _, rest => blanksFrom flow (keyAllowed || !flow) false (p.nextLine 1) rest
    else if comment || c == ' ' || (c == '\t' && (flow || !keyAllowed)) then
      blanksFrom flow keyAllowed comment (p.after 1) rest
    else if c == '#' then blanksFrom flow keyAllowed true (p.after 1) rest
    else (p, keyAllowed, c :: rest)

/-- Goes to the place of the next token. -/
def toToken (s : Scanner) : Scanner :=
  match blanksFrom s.inFlow s.keyAllowed false s.place s.rest with
  | (place, keyAllowed, rest) => { s with place, keyAllowed, rest }

/-! ### Directives, anchors and tags -/

/-- A character that a tag may hold as it is; `full` for a tag between angle brackets. -/
def isTagChar (full : Bool) (c : Char) : Bool :=
  isWordChar c || ";/?:@&=+$.!~*'()".toList.contains c || (full && ",[]".toList.contains c)

/-- The bytes of a tag from its characters and escapes, and what follows. -/
def tagBytes (full : Bool) (done : List UInt8) :
    List Char → Except Malformed (List UInt8 × List Char)
  | '%' :: a :: b :: rest =>
    match Text.hexValue? a, Text.hexValue? b with
    | some x, some y => tagBytes full ((x * 16 + y).toUInt8 :: done) rest
    | _, _ => .error .tag
  | '%' :: _ => .error .tag
  | c :: rest =>
    if isTagChar full c then
      tagBytes full ((Text.Utf8.encode (String.singleton c)).reverse ++ done) rest
    else .ok (done.reverse, c :: rest)
  | [] => .ok (done.reverse, [])

/-- The text of a tag, and what follows. -/
def tagText (full : Bool) (cs : List Char) : Except Malformed (String × List Char) := do
  let (bytes, rest) ← tagBytes full [] cs
  match Text.Utf8.decode bytes with
  | .ok text => return (text, rest)
  | .error _ => .error .tag

/-- The handle of a tag: a word between exclamation marks, the second of which may be missing. -/
def tagHandle (cs : List Char) : Except Malformed (List Char × List Char) :=
  match cs with
  | '!' :: rest =>
    let word := rest.takeWhile isWordChar
    match rest.drop word.length with
    | '!' :: rest => .ok ('!' :: word ++ ['!'], rest)
    | rest => .ok ('!' :: word, rest)
  | _ => .error .tag

/-- A tag, and what follows. -/
def tagFrom (flow : Bool) (cs : List Char) : Except Malformed (TagText × List Char) := do
  let (tag, rest) ← match cs with
    | '!' :: '<' :: rest => do
      let (suffix, rest) ← tagText true rest
      match rest with
      | '>' :: rest =>
        if suffix.isEmpty then .error .tag else pure ((⟨"", suffix⟩ : TagText), rest)
      | _ => .error .tag
    | _ => do
      let (handle, rest) ← tagHandle cs
      let (suffix, rest) ← tagText false rest
      if 1 < handle.length && handle.getLast? == some '!' then
        if suffix.isEmpty then .error .tag
        else pure ((⟨String.ofList handle, suffix⟩ : TagText), rest)
      else
        let suffix := String.ofList (handle.drop 1) ++ suffix
        pure (if suffix.isEmpty then (⟨"", "!"⟩ : TagText) else ⟨"!", suffix⟩, rest)
  if gap rest || (flow && rest.head? == some ',') then return (tag, rest) else .error .tag

/-- The number of a version, of at most nine digits, and what follows. -/
def versionNumber (cs : List Char) : Except Malformed (Nat × List Char) :=
  let digits := cs.takeWhile Char.isDigit
  if digits.isEmpty || 9 < digits.length then .error .directive
  else
    .ok (digits.foldl (fun n c => n * 10 + (c.toNat - '0'.toNat)) 0, cs.drop digits.length)

/-- A directive after its percent sign, and what follows. -/
def directive (cs : List Char) : Except Malformed (Token × List Char) := do
  let name := cs.takeWhile isWordChar
  let rest := cs.drop name.length
  if name.isEmpty || !gap rest then .error .directive
  else if name == "YAML".toList then
    let (major, rest) ← versionNumber (rest.dropWhile isBlank)
    match rest with
    | '.' :: rest => do
      let (minor, rest) ← versionNumber rest
      return (.versionDirective major minor, rest)
    | _ => .error .directive
  else if name == "TAG".toList then
    let (handle, rest) ← tagHandle (rest.dropWhile isBlank)
    if handle ≠ ['!'] && handle.getLast? ≠ some '!' then .error .directive
    else if !rest.head?.any isBlank then .error .directive
    else
      let (start, rest) ← tagText true (rest.dropWhile isBlank)
      if start.isEmpty || !gap rest then .error .directive
      else return (.tagDirective (String.ofList handle) start, rest)
  else .error .directive

/-- The name of an anchor or an alias, and what follows. -/
def anchorName (cs : List Char) : Except Malformed (String × List Char) :=
  let name := cs.takeWhile isWordChar
  let rest := cs.drop name.length
  let ended := gap rest || rest.head?.any ("?:,]\x7d%@`".toList.contains ·)
  if name.isEmpty || !ended then .error .anchor else .ok (String.ofList name, rest)

/-! ### One token -/

/-- Goes on after `rest`, which is on the same line. -/
def goTo (s : Scanner) (rest : List Char) : Scanner :=
  { s with rest, place := s.place.after (s.rest.length - rest.length) }

def fetchDirective (s : Scanner) : Except Malformed Scanner := do
  let s ← (s.unroll none).dropKey
  let (t, rest) ← directive (s.rest.drop 1)
  let rest := rest.dropWhile isBlank
  let rest := if rest.head? == some '#' then rest.dropWhile (!isBreak ·) else rest
  if lineOver rest then return (({ s with keyAllowed := false }).goTo rest).push t
  else .error .directive

/-- A token that begins or ends a document. -/
def fetchIndicator (s : Scanner) (t : Token) : Except Malformed Scanner := do
  let s ← (s.unroll none).dropKey
  return ({ s with keyAllowed := false }.skip 3).push t

def fetchFlowStart (s : Scanner) (t : Token) : Except Malformed Scanner := do
  let s ← s.saveKey
  let inner := { s with outerKeys := s.key :: s.outerKeys, key := none, keyAllowed := true }
  return (inner.skip 1).push t

def fetchFlowEnd (s : Scanner) (t : Token) : Except Malformed Scanner := do
  let s ← s.dropKey
  let s : Scanner := match s.outerKeys with
    | key :: outer => { s with key, outerKeys := outer }
    | [] => s
  return ({ s with keyAllowed := false }.skip 1).push t

def fetchFlowEntry (s : Scanner) : Except Malformed Scanner := do
  let s ← s.dropKey
  return ({ s with keyAllowed := true }.skip 1).push .flowEntry

def fetchBlockEntry (s : Scanner) : Except Malformed Scanner := do
  if !s.inFlow && !s.keyAllowed then .error .misplacedEntry
  else
    let s ← (s.roll s.place.column s.count .blockSequenceStart).dropKey
    return ({ s with keyAllowed := true }.skip 1).push .blockEntry

/-- A key with its mark. -/
def fetchKey (s : Scanner) : Except Malformed Scanner := do
  if !s.inFlow && !s.keyAllowed then .error .misplacedKey
  else
    let s ← (s.roll s.place.column s.count .blockMappingStart).dropKey
    return ({ s with keyAllowed := !s.inFlow }.skip 1).push .key

/-- A colon that follows a possible key. -/
def fetchValueOf (s : Scanner) (key : PossibleKey) : Scanner :=
  let s := (s.insert key.number [.key]).roll key.place.column key.number .blockMappingStart
  ({ s with key := none, keyAllowed := false }.skip 1).push .value

/-- A colon that follows no key. -/
def fetchValueAlone (s : Scanner) : Except Malformed Scanner := do
  if !s.inFlow && !s.keyAllowed then .error .misplacedValue
  else
    let s := s.roll s.place.column s.count .blockMappingStart
    return ({ s with key := none, keyAllowed := !s.inFlow }.skip 1).push .value

def fetchValue (s : Scanner) : Except Malformed Scanner :=
  match s.key with
  | some key =>
    if key.place.line = s.place.line ∧ s.place.index ≤ key.place.index + keyLimit then
      .ok (s.fetchValueOf key)
    else if key.required then .error .unfinishedKey
    else s.fetchValueAlone
  | none => s.fetchValueAlone

def fetchAnchor (s : Scanner) (token : String → Token) : Except Malformed Scanner := do
  let s ← s.saveKey
  let (name, rest) ← anchorName (s.rest.drop 1)
  return ({ s with keyAllowed := false }.goTo rest).push (token name)

def fetchTag (s : Scanner) : Except Malformed Scanner := do
  let s ← s.saveKey
  let (tag, rest) ← tagFrom s.inFlow s.rest
  return ({ s with keyAllowed := false }.goTo rest).push (.tag tag)

/-- Puts a scalar in. -/
def pushScalar (s : Scanner) (r : ScalarRead) (style : Style) (keyAllowed : Bool) : Scanner :=
  { s with rest := r.rest, place := r.place, keyAllowed }.push (.scalar r.text style)

def fetchBlock (s : Scanner) (literal : Bool) : Except Malformed Scanner := do
  let s ← s.dropKey
  let r ← blockScalar literal s.indent (s.place.after 1) (s.rest.drop 1)
  return s.pushScalar r (if literal then .literal else .quoted) true

def fetchQuoted (s : Scanner) (single : Bool) : Except Malformed Scanner := do
  let s ← s.saveKey
  let r ← quotedFrom single [] none none (s.place.after 1) (s.rest.drop 1)
  return s.pushScalar r .quoted false

def fetchPlain (s : Scanner) : Except Malformed Scanner := do
  let s ← s.saveKey
  let r ← plainFrom s.inFlow (s.indent + 1).toNat [] {} false s.place s.rest
  return s.pushScalar r .plain r.broken

/-- Whether a plain scalar may begin with `c`, which `rest` follows. -/
def startsPlain (flow : Bool) (c : Char) (rest : List Char) : Bool :=
  !(isBlank c || isBreak c || "-?:,[]\x7b\x7d#&*!|>'\"%@`".toList.contains c) ||
    (c == '-' && !rest.head?.any isBlank) ||
    (!flow && (c == '?' || c == ':') && !gap rest)

/-- Splits off the token that begins with `c`, which `rest` follows. -/
def fetch (s : Scanner) (c : Char) (rest : List Char) : Except Malformed Scanner :=
  if s.place.column == 0 && c == '%' then s.fetchDirective
  else if atDocumentIndicator s.place (c :: rest) then
    s.fetchIndicator (if c == '-' then .documentStart else .documentEnd)
  else if c == '[' then s.fetchFlowStart .flowSequenceStart
  else if c == '{' then s.fetchFlowStart .flowMappingStart
  else if c == ']' then s.fetchFlowEnd .flowSequenceEnd
  else if c == '}' then s.fetchFlowEnd .flowMappingEnd
  else if c == ',' then s.fetchFlowEntry
  else if c == '-' && gap rest then s.fetchBlockEntry
  else if c == '?' && (s.inFlow || gap rest) then s.fetchKey
  else if c == ':' && (s.inFlow || gap rest) then s.fetchValue
  else if c == '*' then s.fetchAnchor .alias
  else if c == '&' then s.fetchAnchor .anchor
  else if c == '!' then s.fetchTag
  else if c == '|' && !s.inFlow then s.fetchBlock true
  else if c == '>' && !s.inFlow then s.fetchBlock false
  else if c == '\'' then s.fetchQuoted true
  else if c == '"' then s.fetchQuoted false
  else if startsPlain s.inFlow c rest then s.fetchPlain
  else .error .cannotStartToken

/-- Closes what is open at the end of the stream. -/
def finish (s : Scanner) : Except Malformed (List Token) := do
  let s ← (s.unroll none).dropKey
  return s.tokens.reverse

/-- Splits off tokens until the stream is over; each takes a character at least. -/
def run (s : Scanner) : Except Malformed (List Token) :=
  let s' := s.toToken
  let s' := s'.unroll (some s'.place.column)
  match s'.rest with
  | [] => s'.finish
  | c :: rest =>
    match s'.fetch c rest with
    | .error fault => .error fault
    | .ok next =>
      if next.rest.length < s.rest.length then next.run else .error .cannotStartToken
termination_by s.rest.length

end Scanner

/-- The tokens of a stream. -/
def Token.scan (text : String) : Except Malformed (List Token) :=
  if text.toList.all isAllowed then Scanner.run { rest := text.toList }
  else .error .controlCharacter

end ClusterReady.Yaml
