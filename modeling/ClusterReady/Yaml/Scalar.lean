import ClusterReady.DecodeFault
import ClusterReady.Yaml.Node

/-!
# What scalars mean

A plain scalar is nothing, a truth value, a number or a text, by the way it looks.  Integers may
have a base; digits behind a leading zero are a text.  A tag of the core schema asks for a
meaning, and one in quotes is a text.
-/

namespace ClusterReady.Yaml

namespace Tag

def bool : String := "tag:yaml.org,2002:bool"

def int : String := "tag:yaml.org,2002:int"

def float : String := "tag:yaml.org,2002:float"

def null : String := "tag:yaml.org,2002:null"

/-- The name of a tag of the application itself. -/
def local? (tag : Option String) : Option String :=
  match tag.map String.toList with
  | some ('!' :: []) => some "!"
  | some ('!' :: name) => some (String.ofList name)
  | _ => none

end Tag

namespace Scalar

def isNull (s : String) : Bool := s == "null" || s == "Null" || s == "NULL" || s == "~"

def bool? (s : String) : Option Bool :=
  if s == "true" || s == "True" || s == "TRUE" then some true
  else if s == "false" || s == "False" || s == "FALSE" then some false
  else none

/-- Whether a text is made of digits and has a zero in front, and so is no number. -/
def isPadded (cs : List Char) : Bool :=
  let cs := match cs with
    | '-' :: rest | '+' :: rest => rest
    | _ => cs
  1 < cs.length && cs.head? == some '0' && cs.all Char.isDigit

/-- The number that digits of a base write. -/
def natural? (base : Nat) (cs : List Char) : Option Nat :=
  if cs.isEmpty then none
  else cs.foldlM (fun n c => do
    let d ← Text.hexValue? c
    if d < base then some (n * base + d) else none) 0

/-- The number that is written in decimal, or behind the mark of another base. -/
def based? (cs : List Char) : Option Nat :=
  match cs with
  | '0' :: 'x' :: rest => natural? 16 rest
  | '0' :: 'o' :: rest => natural? 8 rest
  | '0' :: 'b' :: rest => natural? 2 rest
  | _ => natural? 10 cs

/-- An integer that is not negative. -/
def natural (s : String) : Option Nat :=
  let cs := s.toList
  if isPadded cs then none
  else match cs with
    | '+' :: rest => based? rest
    | _ => based? cs

/-- A negative integer, by its magnitude. -/
def negative (s : String) : Option Nat :=
  match s.toList with
  | '-' :: rest => if isPadded rest then none else based? rest
  | _ => none

/-- The parts of a decimal number: its digits and the power of ten of the last one. -/
def decimalParts? (cs : List Char) : Option (Nat × Int) := do
  let whole := cs.takeWhile Char.isDigit
  let rest := cs.drop whole.length
  let (fraction, rest) := match rest with
    | '.' :: rest => (rest.takeWhile Char.isDigit, rest.dropWhile Char.isDigit)
    | _ => ([], rest)
  if whole.isEmpty && fraction.isEmpty then none
  else
    let digits := (whole ++ fraction).foldl (fun n c => n * 10 + (c.toNat - '0'.toNat)) 0
    let exponent : Int ← match rest with
      | [] => some 0
      | e :: rest =>
        if e == 'e' || e == 'E' then
          match rest with
          | '-' :: rest => (natural? 10 rest).map fun n => -(n : Int)
          | '+' :: rest => (natural? 10 rest).map Int.ofNat
          | rest => (natural? 10 rest).map Int.ofNat
        else none
    return (digits, exponent - fraction.length)

/-- The double that is nearest to `digits · 10 ^ exponent`. -/
def nearest (digits : Nat) (exponent : Int) : Float :=
  let magnitude := exponent + (Nat.toDigits 10 digits).length
  if digits = 0 || magnitude < -400 then 0
  else if 400 < magnitude then Float.ofScientific 1 false 400
  else Float.ofScientific digits (exponent < 0) exponent.natAbs

/-- The bits of the finite double that a text writes in decimal. -/
def decimal? (negative : Bool) (cs : List Char) : Option UInt64 := do
  let (digits, exponent) ← decimalParts? cs
  let f := nearest digits exponent
  if f.isInf then none else some (if negative then -f else f).toBits

/-- The bits of the double that a text writes. -/
def float? (s : String) : Option UInt64 :=
  let infinite (cs : List Char) : Bool :=
    cs == ".inf".toList || cs == ".Inf".toList || cs == ".INF".toList
  if s == ".nan" || s == ".NaN" || s == ".NAN" then some 0x7FF8000000000000
  else match s.toList with
    | '-' :: rest => if infinite rest then some 0xFFF0000000000000 else decimal? true rest
    | '+' :: rest => if infinite rest then some 0x7FF0000000000000 else decimal? false rest
    | cs => if infinite cs then some 0x7FF0000000000000 else decimal? false cs

/-- The integer that a text writes, as wide a one as 128 bits hold. -/
def int? (s : String) : Option Found :=
  match natural s, negative s with
  | some n, _ =>
    if n < Nat.pow 2 64 then some (.int n)
    else if n < Nat.pow 2 128 then some (.wideInt n)
    else none
  | none, some n =>
    if n ≤ Nat.pow 2 63 then some (.int (-(n : Int)))
    else if n ≤ Nat.pow 2 127 then some (.wideInt (-(n : Int)))
    else none
  | none, none => none

/-- What a plain scalar means. -/
def plain (s : String) : Found :=
  if s.isEmpty || isNull s then .unit
  else match bool? s with
    | some b => .bool b
    | none =>
      match int? s with
      | some n => n
      | none =>
        if isPadded s.toList then .str s
        else match float? s with
          | some bits => .float bits
          | none => .str s

/-- What a scalar means with its tag. -/
def meaning (text : String) (style : Style) (tag : Option String) : Except DecodeFault Found :=
  let wanted (found : Option Found) (name : String) : Except DecodeFault Found :=
    match found with
    | some found => .ok found
    | none => .error (.invalidValue (.str text) name)
  match tag with
  | some tag =>
    if tag == Tag.bool then wanted ((bool? text).map .bool) "a boolean"
    else if tag == Tag.int then wanted (int? text) "an integer"
    else if tag == Tag.float then wanted ((float? text).map .float) "a float"
    else if tag == Tag.null then wanted (if isNull text then some .unit else none) "null"
    else if "!".isPrefixOf tag && style == .plain then .ok (plain text)
    else .ok (.str text)
  | none => .ok (if style == .plain then plain text else .str text)

end Scalar

end ClusterReady.Yaml
