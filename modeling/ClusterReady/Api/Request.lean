import ClusterReady.Api.Address
import ClusterReady.Json.Basic
import ClusterReady.Text.Characters
import ClusterReady.Text.Utf8

/-!
# Requests and replies

A `Request` is what is sent to the API server, an `Exchange` what comes of it: a reply, or the
reason why the transport failed.

`Url.target` takes the text of a target apart: its path, and the pairs of the query that the text
brings with it.  A question mark ends the path and a number sign the target; a character that a
target cannot hold is refused.
-/

namespace ClusterReady

inductive Method where
  | get
  | post
  | delete
deriving DecidableEq, Repr

def Method.text : Method → String
  | get => "GET"
  | post => "POST"
  | delete => "DELETE"

structure Request where
  method : Method
  path : String
  query : List (String × String) := []
  body : Option Json := none
deriving BEq

/-- A reply of the server: its HTTP status and its body. -/
structure Reply where
  status : Nat
  body : List UInt8

/-- The reply to a request, or the reason why there is none. -/
abbrev Exchange := Except String Reply

namespace Url

/-- The bytes of a word of a query: a plus sign is a blank, and two hexadecimal digits after a
percent sign are a byte. -/
def wordBytes : List Char → List UInt8
  | [] => []
  | '+' :: rest => 0x20 :: wordBytes rest
  | '%' :: a :: b :: rest =>
    match Text.hexValue? a, Text.hexValue? b with
    | some x, some y => (x * 16 + y).toUInt8 :: wordBytes rest
    | _, _ => 0x25 :: wordBytes (a :: b :: rest)
  | c :: rest => Text.Utf8.encode (String.singleton c) ++ wordBytes rest

/-- A word of a query. -/
def word (cs : List Char) : String := Text.Utf8.decodeLossy (wordBytes cs)

/-- The pairs of a query: between ampersands, the key before the first equals sign. -/
def pairs (cs : List Char) : List (String × String) :=
  ((cs.splitOn '&').filter (!·.isEmpty)).map fun piece =>
    (word (piece.takeWhile (· != '=')), word ((piece.dropWhile (· != '=')).drop 1))

/-- The path and the query of a target that ends in this path and this query; `none` when it
cannot be the target of a request. -/
def target (path : String) (query : List (String × String)) :
    Option (String × List (String × String)) :=
  let cs := path.toList
  let head := cs.takeWhile fun c => c != '?' && c != '#'
  if !head.all Address.isPathChar then none
  else match cs.drop head.length with
    | [] => some (path, query)
    | '?' :: tail =>
      let kept := tail.takeWhile (· != '#')
      if !kept.all Address.isQueryChar then none
      else if kept.length = tail.length then
        some (String.ofList head, pairs (kept ++ ['?']) ++ query)
      else some (String.ofList head, pairs kept)
    | _ => some (String.ofList head, [])

end Url

end ClusterReady
