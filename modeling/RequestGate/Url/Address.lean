import RequestGate.Json.Token
import RequestGate.Text.Pieces

/-!
# Addresses in host names

Internet addresses of both versions as they may stand in a host.  A host whose last label is a number
has to be a version 4 address, of at most four numbers in decimal, octal or hexadecimal; the last of
them takes the place of those that are missing.
-/

namespace RequestGate
namespace Url

/-- The digits of a version 4 number without the mark of its base, and the base. -/
def numberBase : List Char → Nat × List Char
  | '0' :: 'x' :: rest => (16, rest)
  | '0' :: 'X' :: rest => (16, rest)
  | '0' :: c :: rest => (8, c :: rest)
  | text => (10, text)

/-- The number that digits of a base denote. -/
def numberValue? (base : Nat) (digits : List Char) : Option Nat :=
  digits.foldlM (fun n c =>
    (Json.Token.hexValue? c).bind fun d => if d < base then some (n * base + d) else none) 0

/-- The number that a part of a version 4 address is. -/
def addressNumber? (text : List Char) : Option Nat :=
  if text = [] then none
  else
    let (base, digits) := numberBase text
    numberValue? base digits

/-- The parts of a host without the empty part after a final point. -/
def hostParts (host : List Char) : List (List Char) :=
  let parts := Pieces.pieces '.' host
  if 1 < parts.length && parts.getLast? = some [] then parts.dropLast else parts

/-- Whether the last label of a host is a number. -/
def endsInNumber (host : List Char) : Bool :=
  (hostParts host).getLast?.any fun last => (addressNumber? last).isSome ||
    (last ≠ [] && last.all Char.isDigit)

/-- Whether a host is a version 4 address. -/
def isAddress4 (host : List Char) : Bool :=
  let parts := hostParts host
  match parts.mapM addressNumber? with
  | none => false
  | some numbers =>
    parts.length ≤ 4 && numbers.dropLast.all (· ≤ 255) &&
      numbers.getLast?.any (· < Nat.pow 2 (8 * (5 - numbers.length)))

/-- Whether a text is a number from 0 to 255 without needless zeros. -/
def isOctet (text : List Char) : Bool :=
  text ≠ [] && text.all Char.isDigit && (text.head? ≠ some '0' || text.length = 1) &&
    text.length ≤ 3 && Numeral.value text ≤ 255

/-- Whether a text is a version 4 address in four plain decimal numbers. -/
def isDottedQuad (text : List Char) : Bool :=
  let parts := Pieces.pieces '.' text
  parts.length = 4 && parts.all isOctet

/-- Whether a text is one to four hexadecimal digits. -/
def isGroup (text : List Char) : Bool :=
  text ≠ [] && text.length ≤ 4 && text.all fun c => (Json.Token.hexValue? c).isSome

/-- How many groups of a version 6 address a text is: groups with colons between them, of which the
last may be a version 4 address where `tail` says so.  The empty text has none. -/
def groupCount? (tail : Bool) (text : List Char) : Option Nat :=
  if text = [] then some 0
  else
    let groups := Pieces.pieces ':' text
    if groups.all isGroup then some groups.length
    else if tail && groups.dropLast.all isGroup && groups.getLast?.any isDottedQuad then
      some (groups.length + 1)
    else none

/-- What stands before and after the first two colons in a row. -/
def splitGap : List Char → Option (List Char × List Char)
  | [] => none
  | [_] => none
  | c :: d :: rest =>
    if c = ':' ∧ d = ':' then some ([], rest)
    else (splitGap (d :: rest)).map fun (before, after) => (c :: before, after)

/-- Whether a text is a version 6 address: eight groups, or fewer with one gap. -/
def isAddress6 (text : List Char) : Bool :=
  match splitGap text with
  | none => groupCount? true text == some 8
  | some (before, after) =>
    match groupCount? false before, groupCount? true after with
    | some a, some b => a + b ≤ 7
    | _, _ => false

end Url
end RequestGate
