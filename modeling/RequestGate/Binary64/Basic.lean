/-!
# Finite binary64 numbers

The finite IEEE 754 double precision numbers as exact values: a sign, a mantissa below `2 ^ 53` and
a power of two.  Every number has one form, the canonical one, so equality of forms tells the two
zeros apart while `sameValue` does not.

Rounding is to the nearest number, ties to the even mantissa, and is computed in exact natural
number arithmetic: `ofRatio` rounds a quotient and `ofInt` an integer, and products and quotients of
numbers are rounded in the same way.  A value that rounds past the largest finite number has no result.
-/

namespace RequestGate

/-- The mantissa and exponent of the one form that each finite number has. -/
def IsCanonical (mantissa : Nat) (exponent : Int) : Prop :=
  mantissa < Nat.pow 2 53 ∧ -1074 ≤ exponent ∧ exponent ≤ 971 ∧
    (Nat.pow 2 52 ≤ mantissa ∨ exponent = -1074)

instance (mantissa : Nat) (exponent : Int) : Decidable (IsCanonical mantissa exponent) :=
  inferInstanceAs (Decidable (_ ∧ _ ∧ _ ∧ _))

/-- A finite double precision number, `± mantissa * 2 ^ exponent`. -/
structure Binary64 where
  negative : Bool
  mantissa : Nat
  exponent : Int
  canonical : IsCanonical mantissa exponent
  deriving DecidableEq

namespace Binary64

/-- Zero with a sign. -/
def zero (negative : Bool) : Binary64 :=
  ⟨negative, 0, -1074, by decide⟩

/-- The number with these parts, when they are canonical. -/
def ofParts? (negative : Bool) (mantissa : Nat) (exponent : Int) : Option Binary64 :=
  if h : IsCanonical mantissa exponent then some ⟨negative, mantissa, exponent, h⟩ else none

/-- The mantissa with the sign of the number. -/
def signed (x : Binary64) : Int :=
  if x.negative then -(x.mantissa : Int) else x.mantissa

/-- The signed mantissas of two numbers over their lesser power of two. -/
def aligned (x y : Binary64) : Int × Int :=
  (x.signed * Nat.pow 2 (x.exponent - y.exponent).toNat,
    y.signed * Nat.pow 2 (y.exponent - x.exponent).toNat)

/-- Whether one number is less than another. -/
def lt (x y : Binary64) : Bool :=
  (aligned x y).1 < (aligned x y).2

/-- Whether two numbers have the same value; the two zeros do. -/
def sameValue (x y : Binary64) : Bool :=
  (aligned x y).1 == (aligned x y).2

/-- The integer that a number is, if it is one. -/
def toInt? (x : Binary64) : Option Int :=
  if 0 ≤ x.exponent then some (x.signed * Nat.pow 2 x.exponent.toNat)
  else if x.mantissa % Nat.pow 2 (-x.exponent).toNat = 0 then
    some (if x.negative then -((x.mantissa / Nat.pow 2 (-x.exponent).toNat : Nat) : Int)
      else (x.mantissa / Nat.pow 2 (-x.exponent).toNat : Nat))
  else none

/-- The greatest power of two that does not exceed a positive quotient. -/
def floorLog2 (num den : Nat) : Int :=
  let guess : Int := num.log2 - den.log2
  if den * Nat.pow 2 guess.toNat ≤ num * Nat.pow 2 (-guess).toNat then guess else guess - 1

/-- A quotient rounded to the nearest natural number, ties to the even one. -/
def roundEven (num den : Nat) : Nat :=
  let quotient := num / den
  let rest := num % den
  if den < 2 * rest ∨ (2 * rest = den ∧ quotient % 2 = 1) then quotient + 1 else quotient

/-- The number nearest to `± num / den`, ties to the even mantissa; none beyond the largest. -/
def ofRatio (negative : Bool) (num den : Nat) : Option Binary64 :=
  if num = 0 then some (zero negative)
  else
    let exponent := max (-1074) (floorLog2 num den - 52)
    let mantissa := roundEven (num * Nat.pow 2 (-exponent).toNat) (den * Nat.pow 2 exponent.toNat)
    if mantissa = Nat.pow 2 53 then ofParts? negative (Nat.pow 2 52) (exponent + 1)
    else ofParts? negative mantissa exponent

/-- The number nearest to an integer. -/
def ofInt (i : Int) : Option Binary64 :=
  ofRatio (i < 0) i.natAbs 1

/-- The number nearest to the product of two numbers. -/
def mul? (x y : Binary64) : Option Binary64 :=
  let exponent := x.exponent + y.exponent
  ofRatio (x.negative != y.negative) (x.mantissa * y.mantissa * Nat.pow 2 exponent.toNat)
    (Nat.pow 2 (-exponent).toNat)

/-- The number nearest to the quotient of two numbers, the second of which is not zero. -/
def div? (x y : Binary64) : Option Binary64 :=
  let exponent := x.exponent - y.exponent
  ofRatio (x.negative != y.negative) (x.mantissa * Nat.pow 2 exponent.toNat)
    (y.mantissa * Nat.pow 2 (-exponent).toNat)

end Binary64
end RequestGate
