import RequestGate.Text.Percent
import RequestGate.Text.Pieces

/-!
# Urlencoded data

The pairs of an `application/x-www-form-urlencoded` text.  Pairs are separated by `&`, and an empty
part between two separators is no pair.  A name ends at the first `=`; without one the value is
empty.  In both, `+` is a space, escapes are decoded, and the bytes are read as UTF-8.
-/

namespace RequestGate
namespace Urlencoded

/-- The text of one name or value: `+` is a space, and escapes are decoded. -/
def component (bytes : List UInt8) : String :=
  Utf8.decodeLossy (Percent.decode (bytes.map fun b => if b = 0x2B then 0x20 else b))

/-- The name and the value of one nonempty part. -/
def pair (part : List UInt8) : String × String :=
  let (name, value) := Pieces.cut 0x3D part
  (component name, component (value.getD []))

/-- The pairs of the data, in order. -/
def pairs (bytes : List UInt8) : List (String × String) :=
  ((Pieces.pieces 0x26 bytes).filter (!·.isEmpty)).map pair

end Urlencoded
end RequestGate
