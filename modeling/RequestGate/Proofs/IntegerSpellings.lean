import RequestGate.Proofs.NumeralPattern

/-!
# The spellings of an integer

Signs, leading zeros, zeros behind a point and exponents of either sign do not matter: all texts that
denote one integer are coerced to that integer, if it is one up to `2 ^ 53`.  Rounding to the nearest
double does not change such an integer.  Texts without point and exponent are not rounded, so that every
integer of 64 bits is kept.

Main results:

- Theorem `Coercion.number?_of_small`: a numeral that denotes a small integer has it as its number.
- Theorem `Coercion.value_of_spelling`: what a text that denotes an integer is coerced to.
-/

namespace RequestGate
namespace Coercion

/-- Rounding keeps small integers, however they are written. -/
theorem number?_of_small {n : Numeral} {i : Int} (hi : n.rational = i) (hsmall : i.natAbs ≤ 2 ^ 53) :
    number? n = some (.integer i) := by
  have hsize : |n.rational| < Binary64.overflow := by
    have habs : |i| ≤ 2 ^ 63 := by
      rw [Int.abs_eq_natAbs]
      omega
    rw [hi]
    exact Binary64.abs_intCast_lt_overflow habs
  unfold number?
  cases hinteger : integer? n with
  | some j =>
    obtain rfl : j = i := Int.cast_injective ((rational_of_integer? hinteger).symm.trans hi)
    rfl
  | none =>
    obtain ⟨x, hx⟩ := n.toDecimal.exists_toBinary64?_iff.2 (by rwa [Numeral.value_toDecimal])
    have hnearest := Decimal.toBinary64?_isNearest hx
    obtain ⟨y, -, hy⟩ := Binary64.exists_ofInt hsmall
    rw [Numeral.value_toDecimal, hi] at hnearest
    have hrounded : ofBinary64 x = .integer i :=
      ofBinary64_eq_integer_iff.2 ⟨hnearest.value_eq hy, hsmall⟩
    rw [hx]
    exact congrArg some hrounded

/-- A text that denotes an integer is coerced to it, if it is one up to `2 ^ 53` or one of 64 bits that is
written without point and exponent. -/
theorem value_of_spelling {text : String} {n : Numeral} {i : Int} (htext : n.IsSpelling text.toList)
    (hi : n.rational = i)
    (hsize : i.natAbs ≤ 2 ^ 53 ∨
      n.fraction = none ∧ n.exponent = none ∧ -2 ^ 63 ≤ i ∧ i < 2 ^ 63) :
    value text = Json.ofInt i := by
  refine value_eq_number_iff.2 ⟨n, numeral?_eq_some_iff_isSpelling.2 htext, ?_⟩
  rcases hsize with hsmall | ⟨hfraction, hexponent, hleast, hbelow⟩
  · exact number?_of_small hi hsmall
  · unfold number?
    rw [integer?_of_plain hfraction hexponent hi hleast hbelow]

/-- The hypotheses are satisfied by a thousand with a fraction and an exponent, by zero with a minus sign
and by the least integer of 64 bits. -/
theorem value_of_spelling_thousand :
    (∃ n : Numeral, n.IsSpelling "+0.1E4".toList ∧ n.rational = (1000 : Int) ∧
      value "+0.1E4" = Json.ofInt 1000) ∧
    (∃ n : Numeral, n.IsSpelling "-0e999".toList ∧ n.rational = (0 : Int) ∧
      value "-0e999" = Json.ofInt 0) ∧
    ∃ n : Numeral, n.IsSpelling "-9223372036854775808".toList ∧ n.rational = (-2 ^ 63 : Int) ∧
      value "-9223372036854775808" = Json.ofInt (-2 ^ 63) := by
  refine ⟨?_, ?_, ?_⟩
  · have hn : numeral? "+0.1E4" = some ⟨some false, ['0'], some ['1'], some (none, ['4'])⟩ := by decide
    have htext := numeral?_eq_some_iff_isSpelling.1 hn
    have hparts : Numeral.rational ⟨some false, ['0'], some ['1'], some (none, ['4'])⟩ =
        ((0 : Nat) + (1 : Nat) / 10 ^ 1) * 10 ^ (4 : Int) := rfl
    have hvalue := hparts.trans (by norm_num : _ = (((1000 : Int) : ℚ)))
    exact ⟨_, htext, hvalue, value_of_spelling htext hvalue (Or.inl (by decide))⟩
  · have hn : numeral? "-0e999" = some ⟨some true, ['0'], none, some (none, "999".toList)⟩ := by decide
    have htext := numeral?_eq_some_iff_isSpelling.1 hn
    have hparts : Numeral.rational ⟨some true, ['0'], none, some (none, "999".toList)⟩ =
        -(((0 : Nat) + (0 : Nat) / 10 ^ 0) * 10 ^ (999 : Int)) := rfl
    have hvalue := hparts.trans (by simp : _ = (((0 : Int) : ℚ)))
    exact ⟨_, htext, hvalue, value_of_spelling htext hvalue (Or.inl (by decide))⟩
  · have hn : numeral? "-9223372036854775808" =
        some ⟨some true, "9223372036854775808".toList, none, none⟩ := by decide
    have htext := numeral?_eq_some_iff_isSpelling.1 hn
    have hvalue := (Numeral.rational_of_plain rfl rfl :
      Numeral.rational ⟨some true, "9223372036854775808".toList, none, none⟩ = _)
    exact ⟨_, htext, hvalue, value_of_spelling htext hvalue (Or.inr ⟨rfl, rfl, by decide, by decide⟩)⟩

end Coercion
end RequestGate
