import RequestGate.Binary64.Decimal

/-!
# Numbers as text

Decimal numerals are split once, into a sign, whole digits, an optional fraction and an optional
exponent (`split?`); the grammars that the gate reads are conditions on those parts.

Numbers are written with their shortest digits.  A `Layout` says which decimal exponents are written
positionally, what ends a whole number, and whether a positive exponent shows its sign.
-/

namespace RequestGate

/-- The parts of a decimal numeral; all digits are ASCII. -/
structure Numeral where
  /-- The sign as written: `true` is a minus. -/
  sign : Option Bool
  whole : List Char
  /-- The digits after the point, when there is a point. -/
  fraction : Option (List Char)
  /-- The sign and the digits of the exponent, when there is one. -/
  exponent : Option (Option Bool × List Char)
  deriving DecidableEq

namespace Numeral

/-- The natural number that decimal digits denote. -/
def value (digits : List Char) : Nat :=
  digits.foldl (fun n c => 10 * n + (c.toNat - 0x30)) 0

/-- A leading sign and the rest. -/
def splitSign : List Char → Option Bool × List Char
  | '+' :: rest => (some false, rest)
  | '-' :: rest => (some true, rest)
  | rest => (none, rest)

/-- The leading digits and the rest. -/
def splitDigits (text : List Char) : List Char × List Char :=
  text.span Char.isDigit

/-- A point with the digits after it, and the rest. -/
def splitFraction : List Char → Option (List Char) × List Char
  | '.' :: rest => let (digits, rest) := splitDigits rest; (some digits, rest)
  | rest => (none, rest)

/-- The exponent that a whole text is; fails on anything else. -/
def splitExponent? : List Char → Option (Option (Option Bool × List Char))
  | [] => some none
  | c :: rest =>
    if c = 'e' ∨ c = 'E' then
      let (sign, rest) := splitSign rest
      let (digits, rest) := splitDigits rest
      if digits ≠ [] ∧ rest = [] then some (some (sign, digits)) else none
    else none

/-- The parts of a text that is a sign, digits, a fraction and an exponent, each possibly missing or
empty, except that a written exponent has a digit. -/
def split? (text : List Char) : Option Numeral := do
  let (sign, text) := splitSign text
  let (whole, text) := splitDigits text
  let (fraction, text) := splitFraction text
  return ⟨sign, whole, fraction, ← splitExponent? text⟩

/-- The integer an exponent denotes. -/
def exponentValue (n : Numeral) : Int :=
  match n.exponent with
  | none => 0
  | some (some true, digits) => -(value digits : Int)
  | some (_, digits) => value digits

/-- The decimal number a numeral denotes. -/
def toDecimal (n : Numeral) : Decimal where
  negative := n.sign = some true
  digits := value (n.whole ++ n.fraction.getD [])
  exponent := n.exponentValue - (n.fraction.getD []).length

/-- The double precision number nearest to a free numeral: one with a digit before or after the
point.  None for any other text and for values that round past the largest number. -/
def readFree? (text : List Char) : Option Binary64 := do
  let n ← split? text
  if n.whole = [] ∧ n.fraction.getD [] = [] then none
  else n.toDecimal.toBinary64?

/-- How a double precision number is laid out. -/
structure Layout where
  /-- Whether a number with this decimal exponent is written without exponent. -/
  positional : Int → Bool
  /-- What follows the digits of a whole number. -/
  wholeSuffix : String
  /-- What stands before a positive exponent. -/
  plus : String

/-- JSON text keeps a fraction or an exponent on every double; the exponent shows from `16` up and
below `-5`, always with its sign. -/
def Layout.json : Layout :=
  ⟨fun e => -5 ≤ e && e < 16, ".0", "+"⟩

/-- A mapping key shows its exponent where JSON text does, without a plus sign. -/
def Layout.key : Layout :=
  ⟨fun e => -5 ≤ e && e < 16, ".0", ""⟩

/-- A message never shows an exponent, and whole numbers have no fraction. -/
def Layout.message : Layout :=
  ⟨fun _ => true, "", ""⟩

/-- Digits written without exponent; `e` is the decimal exponent of the first of them. -/
def Layout.writePositional (layout : Layout) (digits : List Char) (e : Int) : List Char :=
  if e < 0 then '0' :: '.' :: (List.replicate (-e - 1).toNat '0' ++ digits)
  else if digits.length ≤ e.toNat + 1 then
    digits ++ List.replicate (e.toNat + 1 - digits.length) '0' ++ layout.wholeSuffix.toList
  else digits.take (e.toNat + 1) ++ '.' :: digits.drop (e.toNat + 1)

/-- Digits written with an exponent. -/
def Layout.writeScientific (layout : Layout) (digits : List Char) (e : Int) : List Char :=
  let fraction := digits.drop 1
  digits.take 1 ++ (if fraction = [] then [] else '.' :: fraction) ++
    'e' :: ((if e < 0 then "-" else layout.plus).toList ++ Nat.toDigits 10 e.natAbs)

/-- The text of a double precision number. -/
def Layout.write (layout : Layout) (x : Binary64) : String :=
  let d := x.shortest
  let digits := Nat.toDigits 10 d.digits
  let e := if d.digits = 0 then 0 else d.exponent + digits.length - 1
  let body := if layout.positional e then layout.writePositional digits e
    else layout.writeScientific digits e
  String.ofList (if d.negative then '-' :: body else body)

end Numeral
end RequestGate
