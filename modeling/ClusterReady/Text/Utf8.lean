/-!
# UTF-8

`Utf8.decode` reads a text from its bytes.  A fault is the place of the first byte that begins no
character, with the number of bytes that could have begun one; a character that the end of the
bytes cuts off is a fault of its own.
-/

namespace ClusterReady.Text.Utf8

/-- Why bytes are not UTF-8; `index` is the place of the first byte of the fault. -/
inductive Fault where
  | invalid (length index : Nat)
  | incomplete (index : Nat)
deriving DecidableEq, Repr

def Fault.message : Fault → String
  | invalid length index => s!"invalid utf-8 sequence of {length} bytes from index {index}"
  | incomplete index => s!"incomplete utf-8 byte sequence from index {index}"

/-- A byte that continues a character. -/
def isTail (b : UInt8) : Bool := 0x80 ≤ b && b ≤ 0xBF

/-- The second bytes that may follow a first byte of a character of three bytes or more: no
character is written longer than it need be, none is a surrogate, none is beyond the last one. -/
def isSecond (first second : UInt8) : Bool :=
  if first == 0xE0 then 0xA0 ≤ second && second ≤ 0xBF
  else if first == 0xED then 0x80 ≤ second && second ≤ 0x9F
  else if first == 0xF0 then 0x90 ≤ second && second ≤ 0xBF
  else if first == 0xF4 then 0x80 ≤ second && second ≤ 0x8F
  else isTail second

/-- The payload of a byte that continues a character. -/
def tailBits (b : UInt8) : Nat := b.toNat % 0x40

/-- The characters of bytes of which `index` have been read into `done`, latest first. -/
def decodeFrom (index : Nat) (done : List Char) : List UInt8 → Except Fault (List Char)
  | [] => .ok done.reverse
  | a :: rest =>
    if a < 0x80 then decodeFrom (index + 1) (Char.ofNat a.toNat :: done) rest
    else if 0xC2 ≤ a && a ≤ 0xDF then
      match rest with
      | [] => .error (.incomplete index)
      | b :: rest =>
        if !isTail b then .error (.invalid 1 index)
        else
          decodeFrom (index + 2) (Char.ofNat (a.toNat % 0x20 * 0x40 + tailBits b) :: done) rest
    else if 0xE0 ≤ a && a ≤ 0xEF then
      match rest with
      | [] => .error (.incomplete index)
      | [b] => if !isSecond a b then .error (.invalid 1 index) else .error (.incomplete index)
      | b :: c :: rest =>
        if !isSecond a b then .error (.invalid 1 index)
        else if !isTail c then .error (.invalid 2 index)
        else
          decodeFrom (index + 3)
            (Char.ofNat (a.toNat % 0x10 * 0x1000 + tailBits b * 0x40 + tailBits c) :: done) rest
    else if 0xF0 ≤ a && a ≤ 0xF4 then
      match rest with
      | [] => .error (.incomplete index)
      | [b] => if !isSecond a b then .error (.invalid 1 index) else .error (.incomplete index)
      | [b, c] =>
        if !isSecond a b then .error (.invalid 1 index)
        else if !isTail c then .error (.invalid 2 index)
        else .error (.incomplete index)
      | b :: c :: d :: rest =>
        if !isSecond a b then .error (.invalid 1 index)
        else if !isTail c then .error (.invalid 2 index)
        else if !isTail d then .error (.invalid 3 index)
        else
          decodeFrom (index + 4)
            (Char.ofNat (a.toNat % 8 * 0x40000 + tailBits b * 0x1000 + tailBits c * 0x40 +
              tailBits d) :: done) rest
    else .error (.invalid 1 index)

/-- The text that bytes stand for. -/
def decode (bytes : List UInt8) : Except Fault String :=
  (decodeFrom 0 [] bytes).map String.ofList

/-- The characters of bytes, with a replacement character in the place of every fault. -/
def decodeReplacing : (limit : Nat) → List UInt8 → List Char
  | 0, _ => []
  | limit + 1, bytes =>
    match decodeFrom 0 [] bytes with
    | .ok cs => cs
    | .error (.invalid length index) =>
      ((decodeFrom 0 [] (bytes.take index)).toOption.getD []) ++
        '\ufffd' :: decodeReplacing limit (bytes.drop (index + length))
    | .error (.incomplete index) =>
      ((decodeFrom 0 [] (bytes.take index)).toOption.getD []) ++ ['\ufffd']

/-- The text that bytes stand for, whatever they are. -/
def decodeLossy (bytes : List UInt8) : String :=
  String.ofList (decodeReplacing (bytes.length + 1) bytes)

/-- The bytes of a text. -/
def encode (s : String) : List UInt8 := s.toUTF8.toList

end ClusterReady.Text.Utf8
