/-!
# The address of a cluster

An address is a scheme, an authority and a path.  `Address.parse` takes a text apart and refuses
what is no address.
-/

namespace ClusterReady

/-- Why a text is no address. -/
inductive AddressFault where
  | empty
  | tooLong
  | schemeTooLong
  | badChar
  | badAuthority
  | badFormat
deriving DecidableEq, Repr

def AddressFault.message : AddressFault → String
  | empty => "empty string"
  | tooLong => "uri too long"
  | schemeTooLong => "scheme too long"
  | badChar => "invalid uri character"
  | badAuthority => "invalid authority"
  | badFormat => "invalid format"

structure Address where
  scheme : Option String
  authority : String
  path : String
deriving DecidableEq, Repr

namespace Address

/-- The address as a text; after an authority with a scheme there is a path. -/
def text (a : Address) : String :=
  match a.scheme with
  | some scheme => scheme ++ "://" ++ a.authority ++ (if a.path.isEmpty then "/" else a.path)
  | none => a.authority ++ a.path

/-- A character of a scheme. -/
def isSchemeChar (c : Char) : Bool :=
  c.isAlphanum || c == '+' || c == '-' || c == '.' || c == '~'

/-- The greatest lengths of an address and of its scheme. -/
def longest : Nat := 65534

def longestScheme : Nat := 64

/-- The scheme in front of two slashes, and what follows these. -/
def splitScheme (cs : List Char) : Except AddressFault (Option String × List Char) :=
  let scheme := cs.takeWhile isSchemeChar
  match cs.drop scheme.length with
  | ':' :: '/' :: '/' :: rest =>
    if longestScheme < scheme.length then .error .schemeTooLong
    else .ok (some (String.ofList scheme), rest)
  | _ => .ok (none, cs)

/-- A character that ends an authority. -/
def endsAuthority (c : Char) : Bool := c == '/' || c == '?' || c == '#'

/-- A character of an authority, a percent sign apart. -/
def isAuthorityChar (c : Char) : Bool :=
  c.isAlphanum || "!$&'()*+,-.:;=@[]_~".toList.contains c

/-- What has been seen of an authority. -/
structure AuthorityScan where
  colons : Nat := 0
  opened : Bool := false
  closed : Bool := false
  percent : Bool := false
  /-- Whether the last character was an at sign. -/
  atEnd : Bool := false

/-- Takes one more character of an authority into account. -/
def AuthorityScan.next (s : AuthorityScan) (c : Char) : Except AddressFault AuthorityScan :=
  if c == ':' then
    if 8 ≤ s.colons then .error .badAuthority
    else .ok { s with colons := s.colons + 1, atEnd := false }
  else if c == '[' then
    if s.percent || s.opened then .error .badAuthority
    else .ok { s with opened := true, atEnd := false }
  else if c == ']' then
    if !s.opened || s.closed then .error .badAuthority
    else .ok { s with closed := true, colons := 0, percent := false, atEnd := false }
  else if c == '@' then .ok { s with colons := 0, percent := false, atEnd := true }
  else if c == '%' then .ok { s with percent := true, atEnd := false }
  else if isAuthorityChar c then .ok { s with atEnd := false }
  else .error .badChar

/-- Checks an authority: one number after a colon at most, brackets in pairs, a host after an at
sign. -/
def checkAuthority (cs : List Char) : Except AddressFault Unit := do
  let s ← cs.foldlM AuthorityScan.next {}
  if s.opened != s.closed || 1 < s.colons || s.atEnd || s.percent then .error .badAuthority

/-- A character of the path of an address. -/
def isPathChar (c : Char) : Bool :=
  0x20 < c.toNat && c != '<' && c != '>' && c.toNat != 0x60

/-- A character of the query of an address. -/
def isQueryChar (c : Char) : Bool :=
  0x20 < c.toNat && c != '"' && c != '<' && c != '>'

/-- Checks a path with its query; what follows a number sign is dropped. -/
def checkPath (cs : List Char) : Except AddressFault (List Char) :=
  let kept := cs.takeWhile (· != '#')
  let path := kept.takeWhile (· != '?')
  let query := kept.drop (path.length + 1)
  if path.all isPathChar && query.all isQueryChar then .ok kept else .error .badChar

/-- The address that a text is. -/
def parse (text : String) : Except AddressFault Address :=
  let cs := text.toList
  if longest < text.utf8ByteSize then .error .tooLong
  else match cs with
    | [] => .error .empty
    | ['*'] => .ok ⟨none, "", "*"⟩
    | ['?'] | ['#'] => .error .badChar
    | '/' :: _ => do return ⟨none, "", String.ofList (← checkPath cs)⟩
    | _ => do
      let (scheme, rest) ← splitScheme cs
      let authority := rest.takeWhile (!endsAuthority ·)
      let path := rest.drop authority.length
      checkAuthority authority
      match scheme with
      | none =>
        if path.isEmpty then return ⟨none, String.ofList authority, ""⟩ else .error .badFormat
      | some scheme =>
        if authority.isEmpty then .error .badFormat
        else return ⟨some scheme, String.ofList authority, String.ofList (← checkPath path)⟩

end Address

end ClusterReady
