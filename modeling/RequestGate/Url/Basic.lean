import RequestGate.Text.Percent
import RequestGate.Url.Domain

/-!
# Web addresses

Whether a text is an address of the web: its scheme is `http` or `https`, and a host follows that is
an address in brackets, a version 4 address or a domain name.  Readers of such addresses are lenient:
control characters and spaces at the ends and line breaks and tabs anywhere do not count, slashes
after the scheme may be of either kind and of any number, and nothing after the host is refused.
-/

namespace RequestGate
namespace Url

/-- The text without control characters and spaces at its ends and without tabs and line breaks. -/
def clean (text : List Char) : List Char :=
  let blank (c : Char) : Bool := c ≤ ' '
  ((text.dropWhile blank).reverse.dropWhile blank).reverse.filter fun c =>
    !(c = '\t' || c = '\n' || c = '\r')

/-- The scheme in lower case and what follows its colon. -/
def scheme? (text : List Char) : Option (List Char × List Char) :=
  match Pieces.cut ':' text with
  | (c :: scheme, some rest) =>
    if c.isAlpha && scheme.all fun d => d.isAlphanum || d = '+' || d = '-' || d = '.' then
      some ((c :: scheme).map Char.toLower, rest)
    else none
  | _ => none

/-- Characters that end the part of an address that names a host. -/
def endsAuthority (c : Char) : Bool :=
  c = '/' || c = '\\' || c = '?' || c = '#'

/-- The text after its last `@`, or all of it. -/
def afterUser (authority : List Char) : List Char :=
  (authority.reverse.takeWhile (· ≠ '@')).reverse

/-- The host and the colon that follows it, with all behind it.  A colon inside brackets belongs to
the host. -/
def splitHost (inBrackets : Bool) : List Char → List Char × List Char
  | [] => ([], [])
  | c :: rest =>
    if c = ':' && !inBrackets then ([], c :: rest)
    else
      let (host, socket) := splitHost (c = '[' || (inBrackets && c ≠ ']')) rest
      (c :: host, socket)

/-- Whether a text behind a host names a socket: it is empty, a colon, or a colon and a number of 16
bits. -/
def isSocket : List Char → Bool
  | [] => true
  | _ :: digits => digits.all Char.isDigit && Numeral.value digits < Nat.pow 2 16

/-- Whether a text is a host. -/
def isHost (text : List Char) : Bool :=
  match text with
  | '[' :: rest => rest.getLast? = some ']' && isAddress6 rest.dropLast
  | text =>
    match Utf8.decode? (Percent.decode (Utf8.encode (String.ofList text))) with
    | none => false
    | some decoded =>
      match domain? decoded.toList with
      | none | some [] => false
      | some domain => !endsInNumber domain || isAddress4 domain

/-- Whether a text is an address of the web. -/
def isWeb (text : String) : Bool :=
  match scheme? (clean text.toList) with
  | none => false
  | some (scheme, rest) =>
    if scheme = "http".toList || scheme = "https".toList then
      let rest := rest.dropWhile fun c => c = '/' || c = '\\'
      let (host, socket) := splitHost false (afterUser (rest.takeWhile fun c => !endsAuthority c))
      isSocket socket && isHost host
    else false

end Url
end RequestGate
