import RequestGate.Unicode.Digit
import RequestGate.Unicode.Folding
import RequestGate.Unicode.Property

/-!
# Sets of characters in patterns

The sets that a pattern can name or build: ranges, complements, unions and the other set operations,
and the closure of a set under change of case.
-/

namespace RequestGate
namespace Pattern

/-- How two sets are combined. -/
inductive SetOperation where
  | union
  | intersection
  | difference
  | symmetricDifference
  deriving DecidableEq

/-- A set of code points. -/
inductive CharSet where
  | ranges (ranges : Unicode.Ranges)
  /-- Everything outside a set. -/
  | complement (set : CharSet)
  | combined (operation : SetOperation) (first second : CharSet)
  /-- Everything that differs from a member in case only. -/
  | caseless (set : CharSet)
  /-- Everything that differs from a member in the case of an ASCII letter only. -/
  | caselessAscii (set : CharSet)

/-- Membership in a combination. -/
def SetOperation.apply : SetOperation → Bool → Bool → Bool
  | union, a, b => a || b
  | intersection, a, b => a && b
  | difference, a, b => a && !b
  | symmetricDifference, a, b => a != b

namespace CharSet

/-- The code points that differ from one in the case of an ASCII letter only. -/
def asciiOrbit (code : Nat) : List Nat :=
  if 0x41 ≤ code ∧ code ≤ 0x5A then [code, code + 32]
  else if 0x61 ≤ code ∧ code ≤ 0x7A then [code, code - 32]
  else [code]

/-- Membership of a code point. -/
def hasCode : CharSet → Nat → Bool
  | ranges r, code => r.contains code
  | complement set, code => !set.hasCode code
  | combined operation first second, code => operation.apply (first.hasCode code) (second.hasCode code)
  | caseless set, code => (Unicode.orbit code).any set.hasCode
  | caselessAscii set, code => (asciiOrbit code).any set.hasCode

/-- Membership of a character. -/
def contains (set : CharSet) (c : Char) : Bool :=
  set.hasCode c.toNat

/-- The set without members. -/
def empty : CharSet := .ranges []

/-- The set of one character. -/
def single (c : Char) : CharSet := .ranges [(c.toNat, c.toNat)]

/-- The characters from one to another. -/
def interval (first last : Char) : CharSet := .ranges [(first.toNat, last.toNat)]

/-- The members of either set. -/
def union (first second : CharSet) : CharSet := .combined .union first second

/-- Every character. -/
def full : CharSet := .complement empty

/-- The complement when the flag is set. -/
def complementIf (flag : Bool) (set : CharSet) : CharSet :=
  if flag then .complement set else set

/-- A named set. -/
def ofNamed : Unicode.NamedSet → CharSet
  | .ranges r => .ranges r
  | .outside r => .complement (.ranges r)

/-- Whether no byte outside ASCII is a member. -/
def isAscii (set : CharSet) : Bool :=
  (List.range 0x80).all fun i => !set.hasCode (0x80 + i)

/-- The decimal digits of all scripts. -/
def digits : CharSet := .ranges Unicode.digitRanges

/-- The blank characters of all scripts. -/
def blanks : CharSet :=
  .ranges [(0x09, 0x0D), (0x20, 0x20), (0x85, 0x85), (0xA0, 0xA0), (0x1680, 0x1680),
    (0x2000, 0x200A), (0x2028, 0x2029), (0x202F, 0x202F), (0x205F, 0x205F), (0x3000, 0x3000)]

/-- The characters of words in all scripts. -/
def words : CharSet := .ranges Unicode.wordRanges

/-- The ASCII digits. -/
def asciiDigits : CharSet := .ranges [(0x30, 0x39)]

/-- The ASCII blanks. -/
def asciiBlanks : CharSet := .ranges [(0x09, 0x0D), (0x20, 0x20)]

/-- The ASCII letters, digits and the underscore. -/
def asciiWords : CharSet := .ranges [(0x30, 0x39), (0x41, 0x5A), (0x5F, 0x5F), (0x61, 0x7A)]

/-- How much memory a set takes in a program for a matcher, in bytes: nearly nothing for sets of
ASCII characters, and a part for every range otherwise. -/
def weight : CharSet → Nat
  | ranges r => if r.all fun (_, last) => last < 0x80 then 40 else 40 + 60 * r.length
  | complement set => 400 + set.weight
  | combined _ first second => first.weight + second.weight
  | caseless set => set.weight
  | caselessAscii set => set.weight

end CharSet
end Pattern
end RequestGate
