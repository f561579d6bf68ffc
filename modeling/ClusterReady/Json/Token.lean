import ClusterReady.Json.Basic
import ClusterReady.Text.Characters

/-!
# The tokens of a JSON text

`Token.scan` splits a text into punctuation, strings and other values.  A piece that is none of
these becomes a `bad` token with its fault and ends the list, since nothing after it is read.
-/

namespace ClusterReady.Json

inductive Token where
  | openBrace
  | closeBrace
  | openBracket
  | closeBracket
  | comma
  | colon
  | str (s : String)
  /-- A value that is neither a string nor a container. -/
  | leaf (value : Json)
  | bad (fault : Malformed)
deriving Repr

namespace Token

def isSpace (c : Char) : Bool := c == ' ' || c == '\n' || c == '\t' || c == '\r'

/-- The number written by four hexadecimal digits. -/
def hexFour? (a b c d : Char) : Option Nat := do
  return (← Text.hexValue? a) * 4096 + (← Text.hexValue? b) * 256 + (← Text.hexValue? c) * 16 +
    (← Text.hexValue? d)

/-- The character of a one-letter escape. -/
def simpleEscape? : Char → Option Char
  | '"' => some '"'
  | '\\' => some '\\'
  | '/' => some '/'
  | 'b' => some '\x08'
  | 'f' => some '\x0c'
  | 'n' => some '\n'
  | 'r' => some '\r'
  | 't' => some '\t'
  | _ => none

/-- The characters of a string after its opening quote, and what follows its closing quote. -/
def scanString (done : List Char) : List Char → Except Malformed (String × List Char)
  | [] => .error .endOfString
  | '"' :: rest => .ok (String.ofList done.reverse, rest)
  | '\\' :: 'u' :: a :: b :: c :: d :: rest =>
    match hexFour? a b c d with
    | none => .error .invalidEscape
    | some n =>
      if 0xDC00 ≤ n && n ≤ 0xDFFF then .error .loneSurrogate
      else if 0xD800 ≤ n && n ≤ 0xDBFF then
        match rest with
        | [] => .error .endOfString
        | '\\' :: [] => .error .endOfString
        | '\\' :: 'u' :: e :: f :: g :: h :: rest' =>
          match hexFour? e f g h with
          | none => .error .invalidEscape
          | some m =>
            if m < 0xDC00 || 0xDFFF < m then .error .loneSurrogate
            else
              let code := (n - 0xD800) * 1024 + (m - 0xDC00) + 0x10000
              scanString (Char.ofNat code :: done) rest'
        | '\\' :: 'u' :: _ => .error .endOfString
        | _ => .error .endOfHexEscape
      else scanString (Char.ofNat n :: done) rest
  | '\\' :: 'u' :: _ => .error .endOfString
  | '\\' :: c :: rest =>
    match simpleEscape? c with
    | some e => scanString (e :: done) rest
    | none => .error .invalidEscape
  | '\\' :: [] => .error .endOfString
  | c :: rest =>
    if c.toNat < 0x20 then .error .controlCharacter else scanString (c :: done) rest

/-- Adds digits to a significand of at most 64 bits; the digits from the first that does not fit
on are counted instead. -/
def gather (significand : Nat) : List Char → Nat × Nat
  | [] => (significand, 0)
  | c :: rest =>
    let next := significand * 10 + (c.toNat - '0'.toNat)
    if next < UInt64.size then gather next rest else (significand, rest.length + 1)

/-- The double `significand · 10 ^ exponent`: one rounding for the significand, one for each
scaling by a power of ten. -/
def scaled (negative : Bool) (significand : Nat) (exponent : Int) : Except Malformed Json :=
  let base := significand.toUInt64.toFloat
  let power (e : Int) : Float := Float.ofScientific 1 false e.toNat
  let finish (f : Float) : Except Malformed Json :=
    .ok (.float (if negative then -f else f).toBits)
  if significand = 0 then finish base
  else if exponent < -616 then finish 0
  else if exponent < -308 then finish (base / power 308 / power (-(exponent + 308)))
  else if exponent < 0 then finish (base / power (-exponent))
  else if exponent ≤ 308 then
    let f := base * power exponent
    if f.isInf then .error .numberOutOfRange else finish f
  else .error .numberOutOfRange

/-- The exponent of a number after its `e`, at most the 32-bit maximum. -/
def scanExponent (negative : Bool) (significand : Nat) (exponent : Int) (cs : List Char) :
    Except Malformed (Json × List Char) :=
  let (down, cs) := match cs with
    | '+' :: rest => (false, rest)
    | '-' :: rest => (true, rest)
    | _ => (false, cs)
  match cs with
  | [] => .error .endOfValue
  | c :: _ =>
    if c.isDigit then do
      let digits := cs.takeWhile Char.isDigit
      let rest := cs.dropWhile Char.isDigit
      let e := digits.foldl (fun n d => n * 10 + (d.toNat - '0'.toNat)) 0
      if Nat.pow 2 31 ≤ e then
        if significand ≠ 0 && !down then .error .numberOutOfRange
        else return (.float (if negative then (-0.0 : Float) else 0.0).toBits, rest)
      else
        return (← scaled negative significand (if down then exponent - e else exponent + e), rest)
    else .error .invalidNumber

/-- The fraction of a number after its point. -/
def scanFraction (negative : Bool) (significand : Nat) (exponent : Int) (cs : List Char) :
    Except Malformed (Json × List Char) := do
  let digits := cs.takeWhile Char.isDigit
  let rest := cs.dropWhile Char.isDigit
  if digits.isEmpty then
    if rest.isEmpty then .error .endOfValue else .error .invalidNumber
  else
    let (significand, dropped) := gather significand digits
    let exponent := exponent - ((digits.length - dropped : Nat) : Int)
    match rest with
    | 'e' :: rest => scanExponent negative significand exponent rest
    | 'E' :: rest => scanExponent negative significand exponent rest
    | _ => return (← scaled negative significand exponent, rest)

/-- A number from its sign on.  An integer of 64 bits stays one; any other number is a double. -/
def scanNumber (cs : List Char) : Except Malformed (Json × List Char) :=
  let (negative, cs) := match cs with
    | '-' :: rest => (true, rest)
    | _ => (false, cs)
  let digits := match cs with
    | '0' :: _ => ['0']
    | _ => cs.takeWhile Char.isDigit
  let rest := cs.drop digits.length
  if digits.isEmpty then if cs.isEmpty then .error .endOfValue else .error .invalidNumber
  else if digits == ['0'] && rest.head?.any Char.isDigit then .error .invalidNumber
  else
    let (significand, dropped) := gather 0 digits
    match rest with
    | '.' :: rest => scanFraction negative significand dropped rest
    | 'e' :: rest => scanExponent negative significand dropped rest
    | 'E' :: rest => scanExponent negative significand dropped rest
    | _ =>
      if dropped = 0 && !negative then .ok (.int significand, rest)
      else if dropped = 0 && significand ≠ 0 && significand ≤ Nat.pow 2 63 then
        .ok (.int (-(significand : Int)), rest)
      else do return (← scaled negative significand dropped, rest)

/-- The rest of a word such as `true` after its first letter. -/
def scanWord (value : Json) : (word cs : List Char) → Except Malformed (Json × List Char)
  | [], cs => .ok (value, cs)
  | _ :: _, [] => .error .endOfValue
  | w :: word, c :: cs => if c = w then scanWord value word cs else .error .expectedIdent

/-- One token and the text after it; the text begins with the character `c`, not a space. -/
def scanOne (c : Char) (rest : List Char) : Token × List Char :=
  let leaf (r : Except Malformed (Json × List Char)) : Token × List Char := match r with
    | .ok (value, rest) => (.leaf value, rest)
    | .error fault => (.bad fault, [])
  match c with
  | '{' => (.openBrace, rest)
  | '}' => (.closeBrace, rest)
  | '[' => (.openBracket, rest)
  | ']' => (.closeBracket, rest)
  | ',' => (.comma, rest)
  | ':' => (.colon, rest)
  | '"' => match scanString [] rest with
    | .ok (s, rest) => (.str s, rest)
    | .error fault => (.bad fault, [])
  | 'n' => leaf (scanWord .null ['u', 'l', 'l'] rest)
  | 't' => leaf (scanWord (.bool true) ['r', 'u', 'e'] rest)
  | 'f' => leaf (scanWord (.bool false) ['a', 'l', 's', 'e'] rest)
  | _ =>
    if c == '-' || c.isDigit then leaf (scanNumber (c :: rest)) else (.bad .expectedValue, [])

/-- The tokens of a text.  Each takes at least one character, so no more than the length of the
text are asked for. -/
def scanUpTo : (limit : Nat) → List Char → List Token
  | 0, _ => []
  | limit + 1, cs =>
    match cs.dropWhile isSpace with
    | [] => []
    | c :: rest =>
      match scanOne c rest with
      | (token, rest) => token :: scanUpTo limit rest

def scan (s : String) : List Token := scanUpTo s.length s.toList

end Token

end ClusterReady.Json
