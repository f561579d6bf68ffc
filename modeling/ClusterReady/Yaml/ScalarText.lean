import ClusterReady.Text.Characters
import ClusterReady.Yaml.Basic

/-!
# The text of scalars

Readers of the three kinds of scalars: plain, between quotes, and as a block of lines.  Each goes
once through the characters.  Line breaks inside of a scalar are folded: one break becomes a
blank, and of several the first is dropped; a literal block keeps them.
-/

namespace ClusterReady.Yaml

/-- The white space since the last text of a scalar, each part latest first. -/
structure White where
  /-- The blanks before the first break. -/
  blanks : List Char := []
  /-- Whether there has been a break. -/
  broken : Bool := false
  first : List Char := []
  others : List Char := []

namespace White

/-- One blank more; blanks after a break do not count. -/
def blank (w : White) (c : Char) : White :=
  if w.broken then w else { w with blanks := c :: w.blanks }

/-- One break more. -/
def lineBreak (w : White) (c : Char) : White :=
  if w.broken then { w with others := keptBreak c :: w.others }
  else { w with blanks := [], broken := true, first := [keptBreak c] }

/-- Puts the white space into a text, latest first: blanks as they are, breaks folded. -/
def fold (w : White) (text : List Char) : List Char :=
  if w.broken then
    if w.first == ['\n'] then
      if w.others.isEmpty then ' ' :: text else w.others ++ text
    else w.others ++ w.first ++ text
  else w.blanks ++ text

end White

/-- A scalar that has been read, the place after it, and what follows. -/
structure ScalarRead where
  text : String
  place : Place
  rest : List Char
  /-- Whether a line break follows the text. -/
  broken : Bool := false

/-- The characters that end a plain scalar in a flow collection. -/
def isFlowIndicator (c : Char) : Bool :=
  c == ',' || c == '[' || c == ']' || c == '{' || c == '}'

/-- Whether the text of a plain scalar ends before these characters. -/
def plainEnds (inFlow : Bool) : List Char → Bool
  | [] => true
  | c :: rest => (c == ':' && gap rest) || (inFlow && isFlowIndicator c)

/-- Whether a plain scalar meets a colon that it cannot hold. -/
def badColon (inFlow : Bool) : List Char → Bool
  | ':' :: c :: _ => inFlow && (isFlowIndicator c || c == '?')
  | _ => false

/-- Reads a plain scalar.  `fresh` says that white space has just been passed, so the scalar may
end here for other reasons than inside of a word; `indent` is the least column of its lines. -/
def plainFrom (inFlow : Bool) (indent : Nat) (text : List Char) (white : White) (fresh : Bool)
    (p : Place) : List Char → Except Malformed ScalarRead
  | [] => .ok ⟨String.ofList text.reverse, p, [], white.broken⟩
  | c :: rest =>
    if isBlank c then
      if white.broken && p.column < indent && c == '\t' then .error .tabIndentation
      else plainFrom inFlow indent text (white.blank c) true (p.after 1) rest
    else if isBreak c then
      match c, rest with
      | '\r', '\n' :: rest =>
        plainFrom inFlow indent text (white.lineBreak c) true (p.nextLine 2) rest
      | _, rest => plainFrom inFlow indent text (white.lineBreak c) true (p.nextLine 1) rest
    else if fresh && ((!inFlow && p.column < indent) || atDocumentIndicator p (c :: rest) ||
        c == '#') then
      .ok ⟨String.ofList text.reverse, p, c :: rest, white.broken⟩
    else if badColon inFlow (c :: rest) then .error .unexpectedColon
    else if plainEnds inFlow (c :: rest) then
      .ok ⟨String.ofList text.reverse, p, c :: rest, white.broken⟩
    else plainFrom inFlow indent (c :: white.fold text) {} false (p.after 1) rest

/-- The character of a one-letter escape between double quotes. -/
def escape? : Char → Option Char
  | '0' => some '\x00'
  | 'a' => some '\x07'
  | 'b' => some '\x08'
  | 't' | '\t' => some '\t'
  | 'n' => some '\n'
  | 'v' => some '\x0b'
  | 'f' => some '\x0c'
  | 'r' => some '\r'
  | 'e' => some '\x1b'
  | ' ' => some ' '
  | '"' => some '"'
  | '/' => some '/'
  | '\\' => some '\\'
  | 'N' => some '\u0085'
  | '_' => some '\u00a0'
  | 'L' => some '\u2028'
  | 'P' => some '\u2029'
  | _ => none

/-- The number of hexadecimal digits after the letter of an escape. -/
def escapeDigits : Char → Nat
  | 'x' => 2
  | 'u' => 4
  | 'U' => 8
  | _ => 0

/-- Reads the digits that are left of an escape, and then the scalar goes on. -/
structure Escape where
  left : Nat
  code : Nat

/-- Reads a scalar between quotes after the opening one.  `white` is there while white space is
being passed, `pending` while the digits of an escape are. -/
def quotedFrom (single : Bool) (text : List Char) (white : Option White) (pending : Option Escape)
    (p : Place) : List Char → Except Malformed ScalarRead
  | [] => .error .unfinishedScalar
  | c :: rest =>
    match pending with
    | some e =>
      match Text.hexValue? c with
      | none => .error .escape
      | some d =>
        let code := e.code * 16 + d
        if 1 < e.left then
          quotedFrom single text none (some ⟨e.left - 1, code⟩) (p.after 1) rest
        else if (0xD800 ≤ code && code ≤ 0xDFFF) || 0x10FFFF < code then .error .escape
        else quotedFrom single (Char.ofNat code :: text) none none (p.after 1) rest
    | none =>
      if isBlank c then
        quotedFrom single text (some ((white.getD {}).blank c)) none (p.after 1) rest
      else if isBreak c then
        let white := some ((white.getD {}).lineBreak c)
        match c, rest with
        | '\r', '\n' :: rest => quotedFrom single text white none (p.nextLine 2) rest
        | _, rest => quotedFrom single text white none (p.nextLine 1) rest
      else
        let text := match white with
          | some white => white.fold text
          | none => text
        if atDocumentIndicator p (c :: rest) then .error .documentIndicatorInScalar
        else if single then
          if c == '\'' then
            match rest with
            | '\'' :: rest => quotedFrom single ('\'' :: text) none none (p.after 2) rest
            | _ => .ok ⟨String.ofList text.reverse, p.after 1, rest, false⟩
          else quotedFrom single (c :: text) none none (p.after 1) rest
        else if c == '"' then .ok ⟨String.ofList text.reverse, p.after 1, rest, false⟩
        else if c == '\\' then
          match rest with
          | [] => .error .escape
          | '\r' :: '\n' :: rest =>
            quotedFrom single text (some { broken := true }) none ((p.after 1).nextLine 2) rest
          | d :: rest =>
            if isBreak d then
              quotedFrom single text (some { broken := true }) none ((p.after 1).nextLine 1) rest
            else if escapeDigits d ≠ 0 then
              quotedFrom single text none (some ⟨escapeDigits d, 0⟩) (p.after 2) rest
            else match escape? d with
              | some e => quotedFrom single (e :: text) none none (p.after 2) rest
              | none => .error .escape
        else quotedFrom single (c :: text) none none (p.after 1) rest

/-- What happens to the line breaks at the end of a block. -/
inductive Chomping where
  | strip
  | clip
  | keep
deriving DecidableEq, Repr

/-- A block scalar as far as it has been read, its texts latest first. -/
structure Block where
  text : List Char := []
  /-- The break that ended the last line. -/
  first : List Char := []
  /-- The breaks of the empty lines since. -/
  others : List Char := []
  /-- Whether the last line began with a blank. -/
  blankLine : Bool := false

namespace Block

/-- Begins a line with the character `c`: the breaks before it are folded, unless the block is
literal or one of the two lines begins with a blank. -/
def begin (b : Block) (literal : Bool) (c : Char) : Block :=
  let folds := !literal && b.first == ['\n'] && !b.blankLine && !isBlank c
  let text := if folds then (if b.others.isEmpty then ' ' :: b.text else b.text)
    else b.first ++ b.text
  { text := b.others ++ text, blankLine := isBlank c }

/-- The text of a block that is over. -/
def finish (b : Block) (chomping : Chomping) : String :=
  let text := match chomping with
    | .strip => b.text
    | .clip => b.first ++ b.text
    | .keep => b.others ++ b.first ++ b.text
  String.ofList text.reverse

end Block

/-- How a block scalar is read: its kind, what happens to its end, the column of its lines when it
is given, and the least column that they can have. -/
structure BlockForm where
  literal : Bool
  chomping : Chomping
  indent : Option Nat
  leastIndent : Nat

/-- Reads the lines of a block.  `inLine` says that a line has begun; `indent` is known after the
first line that is not empty, and `widest` is the widest empty line before it. -/
def blockFrom (form : BlockForm) (b : Block) (inLine : Bool) (indent : Option Nat) (widest : Nat)
    (p : Place) : List Char → Except Malformed ScalarRead
  | [] => .ok ⟨b.finish form.chomping, p, [], true⟩
  | c :: rest =>
    if isBreak c then
      let b := if inLine then { b with first := [keptBreak c] }
        else { b with others := keptBreak c :: b.others }
      let widest := if inLine then widest else max widest p.column
      match c, rest with
      | '\r', '\n' :: rest => blockFrom form b false indent widest (p.nextLine 2) rest
      | _, rest => blockFrom form b false indent widest (p.nextLine 1) rest
    else if inLine then
      blockFrom form { b with text := c :: b.text } true indent widest (p.after 1) rest
    else
      let outside := match indent with
        | some indent => p.column < indent
        | none => true
      if outside && c == ' ' then blockFrom form b false indent widest (p.after 1) rest
      else if outside && c == '\t' then .error .tabIndentation
      else
        let column := indent.getD (max (max widest p.column) form.leastIndent)
        if p.column = column then
          let b := b.begin form.literal c
          blockFrom form { b with text := c :: b.text } true (some column) widest (p.after 1) rest
        else .ok ⟨b.finish form.chomping, p, c :: rest, true⟩

/-- The digit that gives the column of a block's lines. -/
def indentDigit? (c : Char) : Option Nat :=
  if '1' ≤ c && c ≤ '9' then some (c.toNat - '0'.toNat) else none

/-- The indicators after the mark of a block, in either order, and the number of their
characters. -/
def blockIndicators : List Char → Chomping × Option Nat × Nat
  | c :: d :: _ =>
    match chomping? c, indentDigit? d, indentDigit? c, chomping? d with
    | some k, some n, _, _ => (k, some n, 2)
    | some k, none, _, _ => (k, none, 1)
    | none, _, some n, some k => (k, some n, 2)
    | none, _, some n, none => (.clip, some n, 1)
    | none, _, none, _ => (.clip, none, 0)
  | [c] =>
    match chomping? c, indentDigit? c with
    | some k, _ => (k, none, 1)
    | none, some n => (.clip, some n, 1)
    | none, none => (.clip, none, 0)
  | [] => (.clip, none, 0)
where
  chomping? (c : Char) : Option Chomping :=
    if c == '+' then some .keep else if c == '-' then some .strip else none

/-- Reads a block scalar after its mark; `indent` is the column of the collection around it. -/
def blockScalar (literal : Bool) (indent : Int) (p : Place) (cs : List Char) :
    Except Malformed ScalarRead :=
  let (chomping, given, count) := blockIndicators cs
  let rest := cs.drop count
  let blanks := (rest.takeWhile isBlank).length
  let rest := rest.drop blanks
  let comment := if rest.head? == some '#' then (rest.takeWhile (!isBreak ·)).length else 0
  let rest := rest.drop comment
  if !lineOver rest then .error .blockHeader
  else
    let p := p.after (count + blanks + comment)
    let form : BlockForm :=
      { literal, chomping, indent := given.map (· + indent.toNat)
        leastIndent := max (indent + 1).toNat 1 }
    match rest with
    | '\r' :: '\n' :: rest => blockFrom form {} false form.indent 0 (p.nextLine 2) rest
    | _ :: rest => blockFrom form {} false form.indent 0 (p.nextLine 1) rest
    | [] => blockFrom form {} false form.indent 0 p []

end ClusterReady.Yaml
