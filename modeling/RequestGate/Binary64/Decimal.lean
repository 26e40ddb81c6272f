import RequestGate.Binary64.Basic

/-!
# Decimal numbers and binary64

A decimal number `± digits * 10 ^ exponent` rounds to a double precision number (`toBinary64?`), and
every double precision number has a shortest decimal that rounds back to it (`Binary64.shortest`).

The shortest decimal is found on grids of growing precision: the grid of `n` digits holds the
multiples of a power of ten of that many leading digits.  The first grid on which one of the
number's two neighbours rounds back to it decides; of two such neighbours the nearer is taken, and
of two equally near ones the even one.
-/

namespace RequestGate

/-- The decimal number `± digits * 10 ^ exponent`. -/
structure Decimal where
  negative : Bool
  digits : Nat
  exponent : Int
  deriving DecidableEq

namespace Decimal

/-- How many decimal digits a natural number is written with. -/
def length (n : Nat) : Nat :=
  (Nat.toDigits 10 n).length

/-- The nearest double precision number; none when the value rounds past the largest.  Values far
outside the range are decided by their size alone. -/
def toBinary64? (d : Decimal) : Option Binary64 :=
  if d.digits = 0 then some (.zero d.negative)
  else
    let size := d.exponent + length d.digits
    if 310 < size then none
    else if size < -330 then some (.zero d.negative)
    else
      Binary64.ofRatio d.negative (d.digits * Nat.pow 10 d.exponent.toNat)
        (Nat.pow 10 (-d.exponent).toNat)

end Decimal

namespace Binary64

/-- The least `n` from `start` on with `den ≤ num * 10 ^ n`, searched for `fuel` steps. -/
def leastShift (num den : Nat) : Nat → Nat → Nat
  | 0, start => start
  | fuel + 1, start =>
    if den ≤ num * Nat.pow 10 start then start else leastShift num den fuel (start + 1)

/-- The greatest power of ten that does not exceed a positive quotient above `10 ^ -400`. -/
def floorLog10 (num den : Nat) : Int :=
  if den ≤ num then (Decimal.length (num / den) : Int) - 1 else -(leastShift num den 400 1 : Int)

/-- A positive number and the ends of the interval of reals that round to it, each as a multiple of
a quarter of the number's last place. -/
structure Interval where
  low : Nat
  value : Nat
  high : Nat
  /-- The ends belong to the interval. -/
  closed : Bool
  /-- A quarter of the last place is `2 ^ exponent`. -/
  exponent : Int

/-- The interval that rounds to a positive number.  Just above a power of two the gap below is half
as wide. -/
def interval (x : Binary64) : Interval where
  low :=
    if x.mantissa = Nat.pow 2 52 ∧ x.exponent ≠ -1074 then 4 * x.mantissa - 1
    else 4 * x.mantissa - 2
  value := 4 * x.mantissa
  high := 4 * x.mantissa + 2
  closed := x.mantissa % 2 = 0
  exponent := x.exponent - 2

namespace Interval

/-- A multiple of the interval's unit over the common scale of the interval and of `10 ^ k`. -/
def scaled (i : Interval) (k : Int) (multiple : Nat) : Nat :=
  multiple * Nat.pow 2 i.exponent.toNat * Nat.pow 10 (-k).toNat

/-- The decimal `digits * 10 ^ k` over the same scale. -/
def point (i : Interval) (k : Int) (digits : Nat) : Nat :=
  digits * Nat.pow 2 (-i.exponent).toNat * Nat.pow 10 k.toNat

/-- Whether `digits * 10 ^ k` rounds to the number. -/
def contains (i : Interval) (k : Int) (digits : Nat) : Bool :=
  let p := i.point k digits
  if i.closed then i.scaled k i.low ≤ p && p ≤ i.scaled k i.high
  else i.scaled k i.low < p && p < i.scaled k i.high

/-- The multiple of `10 ^ k` next to the number that rounds to it, if there is one. -/
def onGrid? (i : Interval) (k : Int) : Option Nat :=
  let v := i.scaled k i.value
  let below := v / i.point k 1
  match i.contains k below, i.contains k (below + 1) with
  | false, false => none
  | true, false => some below
  | false, true => some (below + 1)
  | true, true =>
    let left := v - i.point k below
    let right := i.point k (below + 1) - v
    if left < right || (left == right && below % 2 == 0) then some below else some (below + 1)

end Interval

/-- A natural number without its trailing zeros, and how many there were, for `fuel` steps. -/
def dropZeros : Nat → Nat → Nat → Nat × Nat
  | 0, n, dropped => (n, dropped)
  | fuel + 1, n, dropped =>
    if n ≠ 0 ∧ n % 10 = 0 then dropZeros fuel (n / 10) (dropped + 1) else (n, dropped)

/-- The decimal with the fewest digits that rounds to the number, without trailing zeros. -/
def shortest (x : Binary64) : Decimal :=
  if x.mantissa = 0 then ⟨x.negative, 0, 0⟩
  else
    let top := floorLog10 (x.mantissa * Nat.pow 2 x.exponent.toNat) (Nat.pow 2 (-x.exponent).toNat)
    let hit := (List.range 17).findSome? fun n =>
      (x.interval.onGrid? (top - (n : Nat))).map fun digits => (digits, top - (n : Nat))
    match hit with
    | some (digits, k) =>
      let (digits, dropped) := dropZeros 18 digits 0
      ⟨x.negative, digits, k + dropped⟩
    | none => ⟨x.negative, x.mantissa * Nat.pow 2 x.exponent.toNat, 0⟩

end Binary64
end RequestGate
