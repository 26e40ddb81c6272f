import RequestGate.Text.Utf8

/-!
# Percent encoding

An escape is a percent sign and two hexadecimal digits of either case and stands for one byte; a
percent sign that starts no escape stands for itself.  `decodeText` reads the bytes of the result as
UTF-8 with replacement characters.  `encode` escapes every byte but the ASCII letters and digits.
-/

namespace RequestGate
namespace Percent

/-- The byte `%`. -/
def sign : UInt8 := 0x25

/-- The value of an ASCII hexadecimal digit. -/
def hexValue? (b : UInt8) : Option UInt8 :=
  if 0x30 ≤ b && b ≤ 0x39 then some (b - 0x30)
  else if 0x41 ≤ b && b ≤ 0x46 then some (b - 0x41 + 10)
  else if 0x61 ≤ b && b ≤ 0x66 then some (b - 0x61 + 10)
  else none

/-- The byte that two hexadecimal digits stand for. -/
def escaped? (high low : UInt8) : Option UInt8 := do
  return (← hexValue? high) * 16 + (← hexValue? low)

/-- `decode` with the bytes already read, the latest first. -/
def decodeOnto (read : List UInt8) : List UInt8 → List UInt8
  | [] => read.reverse
  | [a] => (a :: read).reverse
  | [a, b] => (b :: a :: read).reverse
  | a :: high :: low :: rest =>
    if a = sign then
      match escaped? high low with
      | some byte => decodeOnto (byte :: read) rest
      | none => decodeOnto (a :: read) (high :: low :: rest)
    else
      decodeOnto (a :: read) (high :: low :: rest)

/-- The bytes with every escape replaced by the byte it stands for. -/
def decode (bytes : List UInt8) : List UInt8 :=
  decodeOnto [] bytes

/-- A text with its escapes replaced, read as UTF-8. -/
def decodeText (text : String) : String :=
  Utf8.decodeLossy (decode (Utf8.encode text))

/-- A hexadecimal digit in upper case. -/
def hexDigit (n : Nat) : Char :=
  if n < 10 then Char.ofNat (0x30 + n) else Char.ofNat (0x41 + (n - 10))

/-- A byte as itself when it is an ASCII letter or digit, and as an escape otherwise. -/
def encodeByte (b : UInt8) : List Char :=
  if (Char.ofNat b.toNat).isAlphanum then [Char.ofNat b.toNat]
  else ['%', hexDigit (b.toNat / 16), hexDigit (b.toNat % 16)]

/-- The escaped form of bytes. -/
def encode (bytes : List UInt8) : String :=
  String.ofList (bytes.flatMap encodeByte)

end Percent
end RequestGate
