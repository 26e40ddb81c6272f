import RequestGate.Json.Basic
import RequestGate.Text.Utf8

/-!
# Coercion of query values

Values of a query are texts.  A text that is a numeral becomes a number, `true` and `false` become
truth values, and every other text stays as it is.  A numeral has digits, then possibly a point with
digits and an exponent; it is recognised by its bytes (`isNumeric`), each part taking what it can from
the bytes that the part before has left.  Its value is an integer when it is written as one in the signed 64-bit
range, or when the nearest double is an integer up to `2 ^ 53`; otherwise it is that double, and a
text past the largest double stays a text.
-/

namespace RequestGate

/-- Named values of one place of a request. -/
abbrev Bag := Fields Json

namespace Coercion

/-- Whether a byte is a digit. -/
def isDigit (byte : UInt8) : Bool :=
  0x30 ≤ byte && byte ≤ 0x39

/-- The bytes after a sign, if there is one. -/
def afterSign : List UInt8 → List UInt8
  | [] => []
  | byte :: rest => if byte = 0x2B || byte = 0x2D then rest else byte :: rest

/-- The bytes after leading digits, of which there must be one. -/
def afterDigits? (bytes : List UInt8) : Option (List UInt8) :=
  let rest := bytes.dropWhile isDigit
  if rest.length < bytes.length then some rest else none

/-- The bytes after a point with its digits, if there is a point. -/
def afterFraction? : List UInt8 → Option (List UInt8)
  | [] => some []
  | byte :: rest => if byte = 0x2E then afterDigits? rest else some (byte :: rest)

/-- The bytes after an exponent, if there is one. -/
def afterExponent? : List UInt8 → Option (List UInt8)
  | [] => some []
  | byte :: rest =>
    if byte = 0x65 || byte = 0x45 then afterDigits? (afterSign rest) else some (byte :: rest)

/-- Whether bytes are a sign, digits, a point with digits and an exponent, where only the digits must be
there. -/
def isNumeric (bytes : List UInt8) : Bool :=
  ((afterDigits? (afterSign bytes)).bind afterFraction?).bind afterExponent? = some []

/-- The numeral that a text is. -/
def numeral? (text : String) : Option Numeral :=
  if isNumeric (Utf8.encode text) then Numeral.split? text.toList else none

/-- The integer that a numeral without point and exponent is. -/
def integer? (n : Numeral) : Option Int :=
  let magnitude := Numeral.value n.whole
  let i : Int := if n.sign = some true then -(magnitude : Int) else magnitude
  if n.fraction = none ∧ n.exponent = none ∧ -(Nat.pow 2 63) ≤ i ∧ i < Nat.pow 2 63 then some i
  else none

/-- A double as a number: an integer up to `2 ^ 53` is written as one. -/
def ofBinary64 (x : Binary64) : Number :=
  match x.toInt? with
  | some i => if i.natAbs ≤ Nat.pow 2 53 then .integer i else .double x
  | none => .double x

/-- The number that a numeral denotes. -/
def number? (n : Numeral) : Option Number :=
  match integer? n with
  | some i => some (.integer i)
  | none => n.toDecimal.toBinary64?.map ofBinary64

/-- The value that a text is taken for. -/
def value (text : String) : Json :=
  match (numeral? text).bind number? with
  | some n => .number n
  | none =>
    if text = "true" then .bool true
    else if text = "false" then .bool false
    else .string text

/-- The value of a query field: texts are coerced, anything else is kept. -/
def field : Json → Json
  | .string text => value text
  | other => other

/-- The bag with every text coerced. -/
def bag (fields : Bag) : Bag :=
  fields.map fun (name, value) => (name, field value)

end Coercion
end RequestGate
