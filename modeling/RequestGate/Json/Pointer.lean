import RequestGate.Json.Basic
import RequestGate.Text.Pieces

/-!
# JSON pointers

A pointer is empty, for the whole value, or a slash before each of its steps.  Within a step `~1`
stands for a slash and `~0` for a tilde.  A step names a member of an object or, in plain decimal
without needless zeros, the position of an array item.
-/

namespace RequestGate
namespace Json
namespace Pointer

/-- A text with the two characters `from1 from2` replaced by one, scanned from the left. -/
def replacePair (first second replacement : Char) : List Char → List Char
  | [] => []
  | [c] => [c]
  | c :: d :: rest =>
    if c = first ∧ d = second then replacement :: replacePair first second replacement rest
    else c :: replacePair first second replacement (d :: rest)

/-- The key that a step stands for: `~1` is read before `~0`. -/
def unescape (step : List Char) : String :=
  String.ofList (replacePair '~' '0' '~' (replacePair '~' '1' '/' step))

/-- The position that a step stands for. -/
def index? (key : String) : Option Nat :=
  let digits := key.toList
  if digits ≠ [] ∧ digits.all Char.isDigit ∧ (digits.head? = some '0' → digits.length = 1) then
    some (Numeral.value digits)
  else none

/-- The part of a value that one key leads to. -/
def child? (key : String) : Json → Option Json
  | .object members => Fields.get? key members
  | .array items => (index? key).bind fun i => items[i]?
  | _ => none

/-- The part of a value that a path of keys leads to. -/
def follow? : List String → Json → Option Json
  | [], value => some value
  | key :: rest, value => (child? key value).bind (follow? rest)

/-- The keys of a pointer. -/
def keys? : List Char → Option (List String)
  | [] => some []
  | '/' :: rest => some ((Pieces.pieces '/' rest).map unescape)
  | _ => none

end Pointer

/-- The part of a value that a pointer leads to. -/
def pointer? (value : Json) (pointer : String) : Option Json :=
  (Pointer.keys? pointer.toList).bind fun keys => Pointer.follow? keys value

end Json
end RequestGate
