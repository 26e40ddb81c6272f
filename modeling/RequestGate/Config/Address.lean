import RequestGate.Url.Address

/-!
# Socket addresses

An internet address of either version with a number of 16 bits after it.  A version 6 address stands
in brackets and may have a zone, which is a number too.
-/

namespace RequestGate
namespace SocketAddress

/-- Whether a text is a decimal number below a bound; leading zeros do not matter. -/
def isNumberBelow (bound : Nat) (text : List Char) : Bool :=
  text ≠ [] && text.all Char.isDigit && Numeral.value text < bound

/-- Whether a text is a version 6 address, possibly with a zone. -/
def isZonedAddress (text : List Char) : Bool :=
  match Pieces.cut '%' text with
  | (address, none) => Url.isAddress6 address
  | (address, some zone) => Url.isAddress6 address && isNumberBelow (Nat.pow 2 32) zone

/-- Whether a text is a socket address. -/
def isValid (text : String) : Bool :=
  match text.toList with
  | '[' :: rest =>
    match Pieces.cut ']' rest with
    | (address, some (':' :: number)) => isZonedAddress address && isNumberBelow (Nat.pow 2 16) number
    | _ => false
  | chars =>
    match Pieces.cut ':' chars with
    | (address, some number) => Url.isDottedQuad address && isNumberBelow (Nat.pow 2 16) number
    | (_, none) => false

end SocketAddress
end RequestGate
