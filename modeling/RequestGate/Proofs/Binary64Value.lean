import Mathlib.Algebra.Order.Field.Rat
import Mathlib.Tactic.FieldSimp
import Mathlib.Tactic.Linarith
import Mathlib.Tactic.Positivity
import Mathlib.Tactic.Ring
import RequestGate.Binary64.Basic

/-!
# The value of a binary64 number

A finite double is a rational number, its signed mantissa times a power of two.  Doubles are compared
over a common power of two, which is the comparison of these rational numbers, and an integer is found
in a double exactly when the double has its value.  The two zeros have one value and nothing tells them
apart afterwards.

Main results:

- Theorem `Binary64.lt_iff`: the comparison of doubles is that of their values.
- Theorem `Binary64.toInt?_eq_some_iff`: the integer that a double is.
- Theorem `Binary64.exists_ofInt`: integers up to `2 ^ 53` are not rounded.
-/

namespace RequestGate
namespace Binary64

/-- The rational number that a double is. -/
def value (x : Binary64) : ℚ :=
  x.signed * (2 : ℚ) ^ x.exponent

/-! ## Comparison -/

/-- A number over a lesser power of two. -/
theorem shifted_mul_zpow (n : Int) (e other : Int) :
    ((n * Nat.pow 2 (e - other).toNat : Int) : ℚ) * (2 : ℚ) ^ min e other = n * (2 : ℚ) ^ e := by
  have hexponent : (((e - other).toNat : Nat) : Int) + min e other = e := by omega
  have hpower : (2 : ℚ) ^ (e - other).toNat * (2 : ℚ) ^ min e other = (2 : ℚ) ^ e := by
    rw [← zpow_natCast, ← zpow_add₀ (by norm_num), hexponent]
  simp only [Nat.pow_eq]
  push_cast
  rw [mul_assoc, hpower]

theorem aligned_fst_mul (x y : Binary64) :
    ((aligned x y).1 : ℚ) * (2 : ℚ) ^ min x.exponent y.exponent = x.value :=
  shifted_mul_zpow x.signed x.exponent y.exponent

theorem aligned_snd_mul (x y : Binary64) :
    ((aligned x y).2 : ℚ) * (2 : ℚ) ^ min x.exponent y.exponent = y.value := by
  rw [min_comm]
  exact shifted_mul_zpow y.signed y.exponent x.exponent

/-- A double is less than another one when its value is. -/
theorem lt_iff {x y : Binary64} : x.lt y = true ↔ x.value < y.value := by
  have hpower : (0 : ℚ) < (2 : ℚ) ^ min x.exponent y.exponent := zpow_pos (by norm_num) _
  rw [← aligned_fst_mul x y, ← aligned_snd_mul x y, mul_lt_mul_iff_of_pos_right hpower, Int.cast_lt]
  exact decide_eq_true_iff

/-- Doubles of one value are less than the same doubles. -/
theorem lt_congr_left {x y : Binary64} (h : x.value = y.value) (z : Binary64) : x.lt z = y.lt z := by
  rw [Bool.eq_iff_iff, lt_iff, lt_iff, h]

/-- The same doubles are less than doubles of one value. -/
theorem lt_congr_right {x y : Binary64} (h : x.value = y.value) (z : Binary64) : z.lt x = z.lt y := by
  rw [Bool.eq_iff_iff, lt_iff, lt_iff, h]

theorem value_zero (negative : Bool) : (zero negative).value = 0 := by
  cases negative <;> simp [value, zero, signed]

/-! ## Integers -/

/-- A power times what it lacks is a power with a natural exponent. -/
theorem zpow_mul_pow_neg {base : ℚ} (hbase : base ≠ 0) (exponent : Int) :
    base ^ exponent * base ^ (-exponent).toNat = base ^ exponent.toNat := by
  have hexponent : exponent + ((-exponent).toNat : Int) = (exponent.toNat : Int) := by omega
  rw [← zpow_natCast, ← zpow_add₀ hbase, hexponent, zpow_natCast]

/-- A power is the quotient of two powers with natural exponents. -/
theorem zpow_eq_div {base : ℚ} (hbase : base ≠ 0) (exponent : Int) :
    base ^ exponent = base ^ exponent.toNat / base ^ (-exponent).toNat :=
  eq_div_of_mul_eq (pow_ne_zero _ hbase) (zpow_mul_pow_neg hbase exponent)

/-- The value of a double without its negative power of two. -/
theorem value_mul_pow (x : Binary64) :
    x.value * (2 : ℚ) ^ (-x.exponent).toNat = ((x.signed * 2 ^ x.exponent.toNat : Int) : ℚ) := by
  unfold value
  rw [mul_assoc, zpow_mul_pow_neg two_ne_zero]
  push_cast
  rfl

theorem value_eq_intCast_iff {x : Binary64} {i : Int} :
    x.value = i ↔ x.signed * 2 ^ x.exponent.toNat = i * 2 ^ (-x.exponent).toNat := by
  have hpower : (2 : ℚ) ^ (-x.exponent).toNat ≠ 0 := by positivity
  rw [← mul_left_inj' hpower, value_mul_pow]
  exact_mod_cast Iff.rfl

theorem natAbs_signed (x : Binary64) : x.signed.natAbs = x.mantissa := by
  unfold signed
  split <;> simp

/-- A factor of the mantissa takes the sign of the double. -/
theorem signed_of_mantissa_eq {x : Binary64} {quotient power : Nat}
    (h : x.mantissa = quotient * power) :
    x.signed = (if x.negative then -(quotient : Int) else quotient) * power := by
  unfold signed
  rw [h]
  push_cast
  split
  · rw [neg_mul]
  · rfl

/-- The integer in a double is its value. -/
theorem toInt?_eq_some_iff {x : Binary64} {i : Int} : x.toInt? = some i ↔ x.value = i := by
  rw [value_eq_intCast_iff]
  unfold toInt?
  split
  case isTrue hexponent =>
    have hnegative : (-x.exponent).toNat = 0 := by omega
    simp [hnegative]
  case isFalse hexponent =>
    have hpositive : x.exponent.toNat = 0 := by omega
    generalize (-x.exponent).toNat = k
    simp only [hpositive, pow_zero, mul_one, Nat.pow_eq]
    have hpower : (2 : Int) ^ k ≠ 0 := by positivity
    split
    case isTrue hrest =>
      have hmantissa : x.mantissa = x.mantissa / 2 ^ k * 2 ^ k :=
        (Nat.div_mul_cancel (Nat.dvd_of_mod_eq_zero hrest)).symm
      rw [signed_of_mantissa_eq hmantissa, Nat.cast_pow, Nat.cast_ofNat, mul_left_inj' hpower,
        Option.some.injEq]
    case isFalse hrest =>
      refine iff_of_false (by simp) fun h => hrest ?_
      have hmantissa : x.mantissa = i.natAbs * 2 ^ k := by
        rw [← natAbs_signed, h, Int.natAbs_mul, Int.natAbs_pow]
        rfl
      exact Nat.mod_eq_zero_of_dvd (hmantissa ▸ Dvd.intro_left _ rfl)

/-- Doubles of one value have the same integer. -/
theorem toInt?_congr {x y : Binary64} (h : x.value = y.value) : x.toInt? = y.toInt? := by
  apply Option.ext
  intro i
  rw [toInt?_eq_some_iff, toInt?_eq_some_iff, h]

/-! ## Integers as doubles -/

theorem roundEven_of_dvd {num den : Nat} (hden : 0 < den) (h : den ∣ num) :
    roundEven num den = num / den := by
  have hrest : num % den = 0 := Nat.mod_eq_zero_of_dvd h
  have hexact : ¬ (den < 2 * (num % den) ∨ 2 * (num % den) = den ∧ num / den % 2 = 1) := by omega
  exact if_neg hexact

theorem floorLog2_one {num : Nat} (h : num ≠ 0) : floorLog2 num 1 = num.log2 := by
  have hleast := Nat.log2_self_le h
  have hlog : Nat.log2 1 = 0 := by decide
  unfold floorLog2
  simp only [hlog, Nat.pow_eq]
  simp [hleast]

/-- A quotient that is a double over the power of two of its size is that double. -/
theorem ofRatio_of_exact {num den mantissa : Nat} {exponent : Int} (hnum : num ≠ 0) (hden : 0 < den)
    (hexponent : exponent = max (-1074) (floorLog2 num den - 52))
    (hcanonical : IsCanonical mantissa exponent)
    (hexact : num * 2 ^ (-exponent).toNat = mantissa * (den * 2 ^ exponent.toNat)) (negative : Bool) :
    ofRatio negative num den = some ⟨negative, mantissa, exponent, hcanonical⟩ := by
  have hscale : 0 < den * 2 ^ exponent.toNat := by positivity
  have hround : roundEven (num * 2 ^ (-exponent).toNat) (den * 2 ^ exponent.toNat) = mantissa := by
    rw [hexact, roundEven_of_dvd hscale (Dvd.intro_left _ rfl), Nat.mul_div_cancel _ hscale]
  have hmantissa : mantissa ≠ 2 ^ 53 := Nat.ne_of_lt hcanonical.1
  unfold ofRatio
  rw [if_neg hnum]
  simp only [← hexponent, Nat.pow_eq, hround]
  rw [if_neg hmantissa]
  exact dif_pos hcanonical

/-- A natural number up to `2 ^ 53` as a double. -/
theorem exists_ofRatio_one {num : Nat} (hnum : num ≠ 0) (hle : num ≤ 2 ^ 53) (negative : Bool) :
    ∃ mantissa : Nat, ∃ exponent : Int, ∃ h : IsCanonical mantissa exponent,
      ofRatio negative num 1 = some ⟨negative, mantissa, exponent, h⟩ ∧
        mantissa * 2 ^ exponent.toNat = num * 2 ^ (-exponent).toNat := by
  have hleast : 2 ^ num.log2 ≤ num := Nat.log2_self_le hnum
  have hbelow : num < 2 ^ (num.log2 + 1) := Nat.lt_log2_self
  by_cases hlog : num.log2 ≤ 52
  · obtain ⟨k, hk⟩ := Nat.exists_eq_add_of_le hlog
    have hpositive : 0 < 2 ^ k := by positivity
    have hlow : 2 ^ 52 ≤ num * 2 ^ k := by
      rw [hk, pow_add]
      exact Nat.mul_le_mul_right _ hleast
    have hhigh : num * 2 ^ k < 2 ^ 53 := by
      have hsum : 53 = num.log2 + 1 + k := by omega
      rw [hsum, pow_add]
      exact Nat.mul_lt_mul_of_pos_right hbelow hpositive
    have hcanonical : IsCanonical (num * 2 ^ k) (-(k : Int)) :=
      ⟨hhigh, by omega, by omega, Or.inl hlow⟩
    have hexponent : -(k : Int) = max (-1074) (floorLog2 num 1 - 52) := by
      rw [floorLog2_one hnum]
      omega
    refine ⟨num * 2 ^ k, -k, hcanonical, ?_, by simp⟩
    exact ofRatio_of_exact hnum Nat.one_pos hexponent hcanonical (by simp) negative
  · -- Only `2 ^ 53` is left.
    have hgreatest : 2 ^ 53 ≤ 2 ^ num.log2 := Nat.pow_le_pow_right (by norm_num) (by omega)
    obtain rfl : num = 2 ^ 53 := by omega
    exact ⟨2 ^ 52, 1, by decide, by cases negative <;> rfl, by decide⟩

/-- An integer up to `2 ^ 53` is a double. -/
theorem exists_ofInt {i : Int} (h : i.natAbs ≤ 2 ^ 53) : ∃ x, ofInt i = some x ∧ x.value = i := by
  by_cases hzero : i = 0
  · subst hzero
    exact ⟨zero false, rfl, by rw [value_zero, Int.cast_zero]⟩
  · have hnatAbs : i.natAbs ≠ 0 := Int.natAbs_ne_zero.2 hzero
    obtain ⟨mantissa, exponent, hcanonical, hratio, hexact⟩ :=
      exists_ofRatio_one hnatAbs h (decide (i < 0))
    refine ⟨_, hratio, value_eq_intCast_iff.2 ?_⟩
    have hcast : (mantissa : Int) * 2 ^ exponent.toNat = i.natAbs * 2 ^ (-exponent).toNat := by
      exact_mod_cast hexact
    unfold signed
    split
    case isTrue hnegative =>
      have hi : i = -(i.natAbs : Int) := by
        have hbelow : i < 0 := of_decide_eq_true hnegative
        omega
      rw [neg_mul, hcast, ← neg_mul, ← hi]
    case isFalse hnegative =>
      have hi : i = i.natAbs := by
        have habove : ¬ i < 0 := fun hbelow => hnegative (decide_eq_true hbelow)
        omega
      rw [hcast, ← hi]

end Binary64
end RequestGate
