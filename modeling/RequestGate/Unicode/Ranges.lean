/-!
# Sets of characters as ranges

A set of characters is an ascending list of ranges of code points.  In tables ranges are written in
hexadecimal with blanks between them: `A-B` takes every code point from the first to the last,
`A-B/` every second one, and `A` a single one.
-/

namespace RequestGate
namespace Unicode

/-- A set of code points as ascending ranges, each with its first and last. -/
abbrev Ranges := List (Nat × Nat)

namespace Ranges

/-- Whether a code point lies in one of the ranges; those after it are not looked at. -/
def contains (code : Nat) : Ranges → Bool
  | [] => false
  | (first, last) :: rest =>
    if code < first then false else if code ≤ last then true else contains code rest

/-- The value of a hexadecimal digit in upper case. -/
def digitValue (c : Char) : Nat :=
  if c.isDigit then c.toNat - 0x30 else c.toNat - 0x41 + 10

/-- Every second code point of a range, for a number of steps. -/
def everySecond (first : Nat) : Nat → Ranges
  | 0 => [(first, first)]
  | steps + 1 => (first, first) :: everySecond (first + 2) steps

/-- A range that is being read: its first code point, when a hyphen has been read, and the digits
read since. -/
structure Partial where
  first : Option Nat
  code : Nat

/-- The ranges of a part that is complete. -/
def Partial.ranges (part : Partial) (striding : Bool) : Ranges :=
  match part.first with
  | none => [(part.code, part.code)]
  | some first =>
    if striding then everySecond first ((part.code - first) / 2) else [(first, part.code)]

/-- Reads written ranges; the ranges read so far are the latest first. -/
def readOnto (ranges : Ranges) (part : Partial) : List Char → Ranges
  | [] => ((part.ranges false).reverse ++ ranges).reverse
  | '/' :: ' ' :: rest => readOnto ((part.ranges true).reverse ++ ranges) ⟨none, 0⟩ rest
  | '/' :: _ => ((part.ranges true).reverse ++ ranges).reverse
  | ' ' :: rest => readOnto ((part.ranges false).reverse ++ ranges) ⟨none, 0⟩ rest
  | '-' :: rest => readOnto ranges ⟨some part.code, 0⟩ rest
  | c :: rest => readOnto ranges ⟨part.first, part.code * 16 + digitValue c⟩ rest

/-- The ranges that lines of a table write. -/
def ofLines (lines : List String) : Ranges :=
  lines.flatMap fun line => readOnto [] ⟨none, 0⟩ line.toList

end Ranges
end Unicode
end RequestGate
