/-!
# Punycode

The decoding of labels that write any characters in ASCII: the ASCII characters come first, and the
others follow as differences between their positions, in digits of base 36 with a bias that adapts.
-/

namespace RequestGate
namespace Url
namespace Punycode

/-- The value of a digit. -/
def digit? (c : Char) : Option Nat :=
  if 'a' ≤ c ∧ c ≤ 'z' then some (c.toNat - 0x61)
  else if 'A' ≤ c ∧ c ≤ 'Z' then some (c.toNat - 0x41)
  else if '0' ≤ c ∧ c ≤ '9' then some (c.toNat - 0x30 + 26)
  else none

/-- Halves a difference by 35 until it is small, counting the steps. -/
def shrink : Nat → Nat → Nat → Nat × Nat
  | 0, delta, k => (delta, k)
  | fuel + 1, delta, k => if 455 < delta then shrink fuel (delta / 35) (k + 36) else (delta, k)

/-- The bias after a difference. -/
def adapt (delta count : Nat) (first : Bool) : Nat :=
  let delta := if first then delta / 700 else delta / 2
  let delta := delta + delta / count
  let (delta, k) := shrink 64 delta 0
  k + 36 * delta / (delta + 38)

/-- The least digit that goes on, at a place and a bias. -/
def threshold (k bias : Nat) : Nat :=
  if k ≤ bias then 1 else if bias + 26 ≤ k then 26 else k - bias

/-- Reads one difference: its value so far, the weight of the next digit and the place. -/
def difference? (bias : Nat) : Nat → Nat → Nat → List Char → Option (Nat × List Char)
  | _, _, _, [] => none
  | value, weight, k, c :: rest => do
    let d ← digit? c
    let value := value + d * weight
    let t := threshold k bias
    if Nat.pow 2 32 ≤ value then none
    else if d < t then some (value, rest)
    else difference? bias value (weight * (36 - t)) (k + 36) rest

/-- Inserts the characters that differences denote; the fuel is the number of digits left. -/
def insertAll? : Nat → List Char → Nat → Nat → Nat → List Char → Option (List Char)
  | 0, read, _, _, _, rest => if rest.isEmpty then some read else none
  | fuel + 1, read, code, position, bias, rest =>
    if rest.isEmpty then some read
    else do
      let (delta, rest) ← difference? bias 0 1 36 rest
      let total := position + delta
      let count := read.length + 1
      let code := code + total / count
      let place := total % count
      if !code.isValidChar then none
      else
        let read := read.take place ++ Char.ofNat code :: read.drop place
        insertAll? fuel read code (place + 1) (adapt delta count (position = 0)) rest

/-- The characters that a label denotes: after the last hyphen stand the digits. -/
def decode? (label : List Char) : Option (List Char) :=
  let digits := (label.reverse.takeWhile (· ≠ '-')).reverse
  let ascii := label.take (label.length - digits.length)
  if ascii = ['-'] then none
  else insertAll? (digits.length + 1) ascii.dropLast 0x80 0 72 digits

end Punycode
end Url
end RequestGate
