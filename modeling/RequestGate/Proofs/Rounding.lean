import Mathlib.Algebra.Order.Field.Power
import Mathlib.Algebra.Order.Ring.Abs
import Mathlib.Data.Nat.Digits.Defs
import RequestGate.Binary64.Decimal
import RequestGate.Proofs.Binary64Value

/-!
# Rounding to the nearest double

A quotient, an integer or a decimal number is taken for the double that is nearest to it.  Rounding
works on the grid of the doubles of its size: the nearest multiple of the unit there is also nearest
among all doubles, since the doubles below that size are at most where the grid starts.

Nearest doubles keep the order of the numbers that they stand for, and a number that is a double stands
for itself.

Main results:

- Theorem `Binary64.IsNearest.value_le_value`: nearest doubles keep the order.
- Theorem `Binary64.ofRatio_isNearest`, `Binary64.ofInt_isNearest`: quotients and integers are rounded to
  the nearest double.
- Theorem `Decimal.toBinary64?_isNearest`: so are decimal numbers, however small they are.
- Theorem `Binary64.exists_ofRatio_iff`, `Decimal.exists_toBinary64?_iff`: which of them are rounded to a
  double at all.
- Theorem `Binary64.exists_ofInt_of_lt`: an integer up to `2 ^ 1023` has a nearest double.
-/

namespace RequestGate
namespace Binary64

/-- No double is nearer to a rational number. -/
def IsNearest (x : Binary64) (q : ℚ) : Prop :=
  ∀ y : Binary64, |x.value - q| ≤ |y.value - q|

/-! ## Order -/

/-- The double that is nearest to the value of a double has that value. -/
theorem IsNearest.value_eq {x y : Binary64} {q : ℚ} (h : x.IsNearest q) (hy : y.value = q) :
    x.value = q := by
  have hzero : |x.value - q| ≤ 0 := by
    have hle := h y
    rwa [hy, sub_self, abs_zero] at hle
  exact sub_eq_zero.1 (abs_nonpos_iff.1 hzero)

/-- The double that is nearest to a number is at least every double up to the number. -/
theorem IsNearest.le_value {x y : Binary64} {q : ℚ} (h : x.IsNearest q) (hy : y.value ≤ q) :
    y.value ≤ x.value := by
  by_contra hlt
  have hle := h y
  rw [abs_of_nonpos (by linarith), abs_of_nonpos (by linarith)] at hle
  linarith

/-- The double that is nearest to a number is at most every double from the number on. -/
theorem IsNearest.value_le {x y : Binary64} {q : ℚ} (h : x.IsNearest q) (hy : q ≤ y.value) :
    x.value ≤ y.value := by
  by_contra hlt
  have hle := h y
  rw [abs_of_nonneg (by linarith), abs_of_nonneg (by linarith)] at hle
  linarith

/-- Nearest doubles keep the order of different numbers. -/
theorem IsNearest.value_le_value {x y : Binary64} {p q : ℚ} (hx : x.IsNearest p) (hy : y.IsNearest q)
    (hlt : p < q) : x.value ≤ y.value := by
  by_contra hgt
  -- Both numbers would lie on the wrong side of the middle between the two doubles.
  have hp := sq_le_sq.2 (hx y)
  have hq := sq_le_sq.2 (hy x)
  have hproduct : 0 < (q - p) * (x.value - y.value) := mul_pos (by linarith) (by linarith)
  nlinarith

/-! ## The nearest point of a grid -/

/-- A quotient rounded to a natural number is off by less than one half, or the number is even. -/
theorem roundEven_error_lt_or_even (num : Nat) {den : Nat} (hden : 0 < den) :
    |(roundEven num den : ℚ) - num / den| < 1 / 2 ∨
      |(roundEven num den : ℚ) - num / den| = 1 / 2 ∧ Even (roundEven num den) := by
  have hpositive : (0 : ℚ) < den := Nat.cast_pos.2 hden
  have hdivision : (num : ℚ) / den = (num / den : Nat) + (num % den : Nat) / (den : ℚ) := by
    rw [eq_comm, eq_div_iff hpositive.ne', add_mul, div_mul_cancel₀ _ hpositive.ne']
    exact_mod_cast Nat.div_add_mod' num den
  have hfraction : (0 : ℚ) ≤ (num % den : Nat) / (den : ℚ) := by positivity
  have hbelow : ((num % den : Nat) : ℚ) / den < 1 :=
    (div_lt_one hpositive).2 (Nat.cast_lt.2 (Nat.mod_lt num hden))
  have hhalf : ((num % den : Nat) : ℚ) / den < 1 / 2 ↔ 2 * (num % den) < den := by
    rw [div_lt_div_iff₀ hpositive two_pos, one_mul, mul_comm]
    exact_mod_cast Iff.rfl
  have htie : ((num % den : Nat) : ℚ) / den = 1 / 2 ↔ 2 * (num % den) = den := by
    rw [div_eq_div_iff hpositive.ne' two_ne_zero, one_mul, mul_comm]
    exact_mod_cast Iff.rfl
  rw [hdivision]
  generalize ((num % den : Nat) : ℚ) / den = fraction at *
  unfold roundEven
  simp only
  split
  case isTrue hup =>
    rw [Nat.cast_add_one, add_sub_add_left_eq_sub, abs_of_pos (by linarith)]
    rcases hup with habove | ⟨heven, hodd⟩
    · have hle : 1 / 2 ≤ fraction := not_lt.1 (mt hhalf.1 (by omega))
      have hgreater : 1 / 2 < fraction := hle.lt_of_ne' (mt htie.1 (by omega))
      exact Or.inl (by linarith)
    · have hmiddle := htie.2 heven
      exact Or.inr ⟨by linarith, by rw [Nat.even_iff]; omega⟩
  case isFalse hdown =>
    rw [sub_add_cancel_left, abs_neg, abs_of_nonneg hfraction]
    rcases lt_or_eq_of_le (by omega : 2 * (num % den) ≤ den) with hless | heven
    · exact Or.inl (hhalf.2 hless)
    · exact Or.inr ⟨htie.2 heven, by rw [Nat.even_iff]; omega⟩

/-- The multiple of a unit that is off by half a unit at most is nearest among all multiples. -/
theorem abs_mul_unit_sub_le {m : Int} {q unit : ℚ} (hunit : 0 < unit) (h : |m - q / unit| ≤ 1 / 2)
    (k : Int) : |m * unit - q| ≤ |k * unit - q| := by
  have hscaled : ∀ n : Int, |n * unit - q| = |n - q / unit| * unit := by
    intro n
    rw [← abs_of_pos hunit, ← abs_mul, abs_of_pos hunit, sub_mul, div_mul_cancel₀ _ hunit.ne']
  rw [hscaled, hscaled]
  refine mul_le_mul_of_nonneg_right ?_ hunit.le
  by_cases hsame : m = k
  · rw [hsame]
  · -- Another integer is at least one away, of which the number is at most half away.
    have hone : (1 : ℚ) ≤ |(m : ℚ) - k| := by
      exact_mod_cast Int.one_le_abs (sub_ne_zero.2 hsame)
    have htriangle := abs_add_le ((m : ℚ) - q / unit) (q / unit - k)
    rw [sub_add_sub_cancel, abs_sub_comm (q / unit)] at htriangle
    linarith

/-- The nearest multiple of a unit is nearest among all doubles, when the unit is the least one or the
grid of its doubles starts below the number. -/
theorem abs_mul_zpow_sub_le {m exponent : Int} {q : ℚ}
    (herror : |m - q / (2 : ℚ) ^ exponent| ≤ 1 / 2)
    (hstart : exponent = -1074 ∨ (2 : ℚ) ^ (exponent + 52) ≤ q) {k other : Int}
    (hk : |k| < 2 ^ 53) (hother : -1074 ≤ other) :
    |m * (2 : ℚ) ^ exponent - q| ≤ |k * (2 : ℚ) ^ other - q| := by
  have hunit : (0 : ℚ) < 2 ^ exponent := zpow_pos (by norm_num) _
  rcases le_or_gt exponent other with hle | hlt
  · have hmultiple : k * (2 : ℚ) ^ other = ((k * 2 ^ (other - exponent).toNat : Int) : ℚ) *
        2 ^ exponent := by
      push_cast
      rw [mul_assoc, ← zpow_natCast, ← zpow_add₀ (by norm_num)]
      congr 2
      omega
    rw [hmultiple]
    exact abs_mul_unit_sub_le hunit herror _
  · -- A double of lesser size is at most the first point of the grid, which is at most the number.
    have hgrid : ((2 ^ 52 : Int) : ℚ) * 2 ^ exponent = 2 ^ (exponent + 52) := by
      rw [zpow_add₀ (by norm_num), mul_comm]
      norm_num
    have hbelow : (2 : ℚ) ^ (exponent + 52) ≤ q := hstart.resolve_left (by omega)
    have hless : k * (2 : ℚ) ^ other ≤ 2 ^ (exponent + 52) := by
      have hk' : (k : ℚ) ≤ 2 ^ 53 := by exact_mod_cast (abs_lt.1 hk).2.le
      calc k * (2 : ℚ) ^ other ≤ 2 ^ 53 * 2 ^ other :=
            mul_le_mul_of_nonneg_right hk' (zpow_pos (by norm_num) _).le
        _ = (2 : ℚ) ^ (other + 53) := by
            rw [zpow_add₀ (by norm_num), mul_comm]
            norm_num
        _ ≤ 2 ^ (exponent + 52) := zpow_le_zpow_right₀ (by norm_num) (by omega)
    have hnearest := abs_mul_unit_sub_le hunit herror (2 ^ 52)
    rw [hgrid] at hnearest
    refine hnearest.trans ?_
    rw [abs_of_nonpos (sub_nonpos.2 hbelow), abs_of_nonpos (sub_nonpos.2 (hless.trans hbelow))]
    linarith

/-! ## The size of a quotient -/

/-- A power of two is compared with a quotient over natural numbers. -/
theorem zpow_le_div_iff {num den : Nat} (hden : 0 < den) (k : Int) :
    (2 : ℚ) ^ k ≤ num / den ↔ den * 2 ^ k.toNat ≤ num * 2 ^ (-k).toNat := by
  have hpositive : (0 : ℚ) < den := Nat.cast_pos.2 hden
  have hpower : (0 : ℚ) < 2 ^ (-k).toNat := by positivity
  rw [le_div_iff₀ hpositive, ← mul_le_mul_iff_of_pos_right hpower, mul_right_comm,
    zpow_mul_pow_neg two_ne_zero, mul_comm]
  exact_mod_cast Iff.rfl

/-- The difference of two binary logarithms is off by less than one from that of the quotient. -/
theorem zpow_log2_sub_bounds {num den : Nat} (hnum : num ≠ 0) (hden : den ≠ 0) :
    (2 : ℚ) ^ ((num.log2 : Int) - den.log2 - 1) ≤ num / den ∧
      (num : ℚ) / den < 2 ^ ((num.log2 : Int) - den.log2 + 1) := by
  have hpositive : (0 : ℚ) < den := Nat.cast_pos.2 (Nat.pos_of_ne_zero hden)
  have hnumLow : (2 : ℚ) ^ (num.log2 : Int) ≤ num := by exact_mod_cast Nat.log2_self_le hnum
  have hnumHigh : (num : ℚ) < 2 ^ ((num.log2 : Int) + 1) := by
    exact_mod_cast (Nat.lt_log2_self : num < 2 ^ (num.log2 + 1))
  have hdenLow : (2 : ℚ) ^ (den.log2 : Int) ≤ den := by exact_mod_cast Nat.log2_self_le hden
  have hdenHigh : (den : ℚ) < 2 ^ ((den.log2 : Int) + 1) := by
    exact_mod_cast (Nat.lt_log2_self : den < 2 ^ (den.log2 + 1))
  constructor
  · rw [le_div_iff₀ hpositive]
    calc (2 : ℚ) ^ ((num.log2 : Int) - den.log2 - 1) * den
        ≤ 2 ^ ((num.log2 : Int) - den.log2 - 1) * 2 ^ ((den.log2 : Int) + 1) :=
          mul_le_mul_of_nonneg_left hdenHigh.le (zpow_pos (by norm_num) _).le
      _ = (2 : ℚ) ^ (num.log2 : Int) := by
          rw [← zpow_add₀ (by norm_num)]
          congr 1
          omega
      _ ≤ num := hnumLow
  · rw [div_lt_iff₀ hpositive]
    calc (num : ℚ) < 2 ^ ((num.log2 : Int) + 1) := hnumHigh
      _ = 2 ^ ((num.log2 : Int) - den.log2 + 1) * 2 ^ (den.log2 : Int) := by
          rw [← zpow_add₀ (by norm_num)]
          congr 1
          omega
      _ ≤ 2 ^ ((num.log2 : Int) - den.log2 + 1) * den :=
          mul_le_mul_of_nonneg_left hdenLow (zpow_pos (by norm_num) _).le

/-- A quotient is at least its power of two, and less than the next one. -/
theorem floorLog2_spec {num den : Nat} (hnum : num ≠ 0) (hden : den ≠ 0) :
    (2 : ℚ) ^ floorLog2 num den ≤ num / den ∧ (num : ℚ) / den < 2 ^ (floorLog2 num den + 1) := by
  obtain ⟨hlow, hhigh⟩ := zpow_log2_sub_bounds hnum hden
  unfold floorLog2
  simp only [Nat.pow_eq, ← zpow_le_div_iff (Nat.pos_of_ne_zero hden)]
  split
  case isTrue hguess => exact ⟨hguess, hhigh⟩
  case isFalse hguess =>
    rw [sub_add_cancel]
    exact ⟨hlow, lt_of_not_ge hguess⟩

/-! ## Rounding of quotients -/

/-- The exponent of the grid on which a quotient is rounded. -/
def gridExponent (num den : Nat) : Int :=
  max (-1074) (floorLog2 num den - 52)

/-- The multiple of the unit that a quotient is rounded to. -/
def gridMantissa (num den : Nat) : Nat :=
  roundEven (num * 2 ^ (-gridExponent num den).toNat) (den * 2 ^ (gridExponent num den).toNat)

/-- A number with a sign. -/
def withSign (negative : Bool) (q : ℚ) : ℚ :=
  if negative then -q else q

theorem ofRatio_eq {num : Nat} (hnum : num ≠ 0) (negative : Bool) (den : Nat) :
    ofRatio negative num den =
      if gridMantissa num den = 2 ^ 53 then ofParts? negative (2 ^ 52) (gridExponent num den + 1)
      else ofParts? negative (gridMantissa num den) (gridExponent num den) := by
  unfold ofRatio
  rw [if_neg hnum]
  rfl

theorem value_of_ofParts? {negative : Bool} {mantissa : Nat} {exponent : Int} {x : Binary64}
    (h : ofParts? negative mantissa exponent = some x) :
    x.value = withSign negative (mantissa * 2 ^ exponent) := by
  unfold ofParts? at h
  split at h
  · cases h
    cases negative <;> simp [value, signed, withSign]
  · cases h

/-- Canonical parts are those of a double. -/
theorem exists_ofParts?_iff {negative : Bool} {mantissa : Nat} {exponent : Int} :
    (∃ x, ofParts? negative mantissa exponent = some x) ↔ IsCanonical mantissa exponent := by
  unfold ofParts?
  split
  case isTrue hcanonical => simp [hcanonical]
  case isFalse hcanonical => simp [hcanonical]

/-- A quotient that is rounded has the value of a point of its grid. -/
theorem value_of_ofRatio {num den : Nat} (hnum : num ≠ 0) {negative : Bool} {x : Binary64}
    (h : ofRatio negative num den = some x) :
    x.value = withSign negative (gridMantissa num den * 2 ^ gridExponent num den) := by
  rw [ofRatio_eq hnum] at h
  split at h
  case isTrue hcarry =>
    rw [value_of_ofParts? h, hcarry, zpow_add₀ (by norm_num)]
    congr 1
    push_cast
    ring
  case isFalse => exact value_of_ofParts? h

/-- The quotient over the unit of its grid. -/
theorem grid_quotient (num den : Nat) :
    ((num * 2 ^ (-gridExponent num den).toNat : Nat) : ℚ) /
      (den * 2 ^ (gridExponent num den).toNat : Nat) = num / den / 2 ^ gridExponent num den := by
  generalize gridExponent num den = e
  rw [zpow_eq_div two_ne_zero e]
  push_cast
  rw [div_div_div_eq, ← div_div]

/-- A quotient is off from its point of the grid by less than half a unit, or the mantissa is even. -/
theorem gridMantissa_error_lt_or_even (num : Nat) {den : Nat} (hden : 0 < den) :
    |(gridMantissa num den : ℚ) - num / den / 2 ^ gridExponent num den| < 1 / 2 ∨
      |(gridMantissa num den : ℚ) - num / den / 2 ^ gridExponent num den| = 1 / 2 ∧
        Even (gridMantissa num den) := by
  rw [← grid_quotient]
  exact roundEven_error_lt_or_even _ (by positivity)

theorem gridMantissa_error (num : Nat) {den : Nat} (hden : 0 < den) :
    |(gridMantissa num den : ℚ) - num / den / 2 ^ gridExponent num den| ≤ 1 / 2 :=
  (gridMantissa_error_lt_or_even num hden).elim le_of_lt fun htie => htie.1.le

/-- The grid of a quotient is the finest one, or it starts below the quotient. -/
theorem gridExponent_start {num den : Nat} (hnum : num ≠ 0) (hden : den ≠ 0) :
    gridExponent num den = -1074 ∨ (2 : ℚ) ^ (gridExponent num den + 52) ≤ num / den := by
  unfold gridExponent
  rcases le_total (floorLog2 num den - 52) (-1074) with hle | hle
  · exact Or.inl (max_eq_left hle)
  · rw [max_eq_right hle, sub_add_cancel]
    exact Or.inr (floorLog2_spec hnum hden).1

theorem abs_signed_lt (x : Binary64) : |x.signed| < 2 ^ 53 := by
  have hmantissa : x.signed.natAbs < 2 ^ 53 := natAbs_signed x ▸ x.canonical.1
  rw [Int.abs_eq_natAbs]
  exact_mod_cast hmantissa

/-- A quotient is rounded to the nearest double. -/
theorem ofRatio_isNearest {negative : Bool} {num den : Nat} (hden : 0 < den) {x : Binary64}
    (h : ofRatio negative num den = some x) : x.IsNearest (withSign negative (num / den)) := by
  intro y
  by_cases hnum : num = 0
  · subst hnum
    have hx : x = zero negative := (Option.some.inj h).symm
    have hzero : withSign negative (((0 : Nat) : ℚ) / den) = 0 := by cases negative <;> simp [withSign]
    rw [hzero, hx, value_zero, sub_self, abs_zero]
    exact abs_nonneg _
  · have hnearest : ∀ k : Int, |k| < 2 ^ 53 →
        |(gridMantissa num den : ℚ) * 2 ^ gridExponent num den - num / den| ≤
          |k * (2 : ℚ) ^ y.exponent - num / den| := by
      intro k hk
      exact_mod_cast abs_mul_zpow_sub_le (m := gridMantissa num den)
        (by exact_mod_cast gridMantissa_error num hden)
        (gridExponent_start hnum hden.ne') hk y.canonical.2.1
    rw [value_of_ofRatio hnum h]
    unfold withSign value
    cases negative with
    | false => exact hnearest y.signed (abs_signed_lt y)
    | true =>
      -- The double on the other side of zero has the opposite mantissa.
      have hopposite := hnearest (-y.signed) (by rw [abs_neg]; exact abs_signed_lt y)
      push_cast at hopposite
      calc |-((gridMantissa num den : ℚ) * 2 ^ gridExponent num den) - -(num / den : ℚ)|
          = |(gridMantissa num den : ℚ) * 2 ^ gridExponent num den - num / den| := by
            rw [← neg_sub', abs_neg]
        _ ≤ |-(y.signed : ℚ) * 2 ^ y.exponent - num / den| := hopposite
        _ = |(y.signed : ℚ) * 2 ^ y.exponent - -(num / den : ℚ)| := by
            rw [← abs_neg]
            congr 1
            ring

/-! ## Which quotients are rounded -/

/-- A mantissa on the grid has 53 bits, or it is the power of two after them. -/
theorem gridMantissa_le {num den : Nat} (hnum : num ≠ 0) (hden : den ≠ 0) :
    gridMantissa num den ≤ 2 ^ 53 := by
  have hgrid : floorLog2 num den - 52 ≤ gridExponent num den := le_max_right _ _
  have hquotient : (num : ℚ) / den / 2 ^ gridExponent num den < 2 ^ 53 := by
    rw [div_lt_iff₀ (zpow_pos (by norm_num) _)]
    calc (num : ℚ) / den < 2 ^ (floorLog2 num den + 1) := (floorLog2_spec hnum hden).2
      _ ≤ 2 ^ (53 + gridExponent num den) := zpow_le_zpow_right₀ (by norm_num) (by omega)
      _ = 2 ^ 53 * 2 ^ gridExponent num den := by
          rw [zpow_add₀ (by norm_num)]
          norm_num
  have herror := (abs_le.1 (gridMantissa_error num (Nat.pos_of_ne_zero hden))).2
  have hnear : (gridMantissa num den : ℚ) < (2 ^ 53 + 1 : Nat) := by
    push_cast
    linarith
  exact Nat.lt_succ_iff.1 (Nat.cast_lt.1 hnear)

/-- A mantissa has its full length but on the finest grid. -/
theorem le_gridMantissa {num den : Nat} (hnum : num ≠ 0) (hden : den ≠ 0) :
    2 ^ 52 ≤ gridMantissa num den ∨ gridExponent num den = -1074 := by
  refine (gridExponent_start hnum hden).symm.imp_left fun hstart => ?_
  have hquotient : (2 : ℚ) ^ 52 ≤ num / den / 2 ^ gridExponent num den := by
    rw [le_div_iff₀ (zpow_pos (by norm_num) _)]
    refine le_of_eq_of_le ?_ hstart
    rw [zpow_add₀ (by norm_num), mul_comm]
    norm_num
  have herror := (abs_le.1 (gridMantissa_error num (Nat.pos_of_ne_zero hden))).1
  have hnear : ((2 ^ 52 : Nat) : ℚ) < (gridMantissa num den + 1 : Nat) := by
    push_cast
    linarith
  exact Nat.lt_succ_iff.1 (Nat.cast_lt.1 hnear)

/-- A quotient is carried to the power of two after the mantissas of 53 bits from the middle before it
on: the greatest mantissa is odd, so that the middle is not rounded to it. -/
theorem gridMantissa_eq_iff {num den : Nat} (hnum : num ≠ 0) (hden : den ≠ 0) :
    gridMantissa num den = 2 ^ 53 ↔ (2 ^ 53 - 1 / 2 : ℚ) ≤ num / den / 2 ^ gridExponent num den := by
  have hhalf := gridMantissa_error num (Nat.pos_of_ne_zero hden)
  have herror := gridMantissa_error_lt_or_even num (Nat.pos_of_ne_zero hden)
  have hle := gridMantissa_le hnum hden
  generalize (num : ℚ) / den / 2 ^ gridExponent num den = quotient at hhalf herror ⊢
  generalize gridMantissa num den = mantissa at hhalf herror hle ⊢
  constructor
  · rintro rfl
    have hclose := (abs_le.1 hhalf).2
    push_cast at hclose
    linarith
  · intro hmiddle
    by_contra hcarry
    have hmantissa : (mantissa : ℚ) ≤ 2 ^ 53 - 1 := by
      rw [le_sub_iff_add_le]
      exact_mod_cast Nat.lt_of_le_of_ne hle hcarry
    have hbelow : (mantissa : ℚ) - quotient ≤ -(1 / 2) := by linarith
    rw [abs_of_nonpos (by linarith)] at herror
    rcases herror with hless | ⟨htie, heven⟩
    · linarith
    · have hgreatest : (mantissa : ℚ) = (2 ^ 53 - 1 : Nat) := by
        push_cast
        linarith
      rw [Nat.cast_inj] at hgreatest
      rw [hgreatest] at heven
      exact absurd heven (by decide)

/-- The largest double. -/
def largest : Binary64 :=
  ⟨false, 2 ^ 53 - 1, 971, by decide⟩

/-- Where rounding leaves the doubles: the middle between the largest one and the power of two after
it, to which the middle itself goes. -/
def overflow : ℚ :=
  (largest.value + 2 ^ (1024 : Int)) / 2

theorem two_zpow_add (k : Nat) : (2 : ℚ) ^ ((k : Int) + 971) = 2 ^ k * 2 ^ (971 : Int) := by
  rw [zpow_add₀ two_ne_zero, zpow_natCast]

/-- On the coarsest grid the overflow lies half a unit behind the greatest mantissa. -/
theorem overflow_eq : overflow = (2 ^ 53 - 1 / 2) * 2 ^ (971 : Int) := by
  have hlargest : largest.value = ((2 ^ 53 - 1 : Int) : ℚ) * 2 ^ (971 : Int) := rfl
  have hpower : (2 : ℚ) ^ (1024 : Int) = 2 ^ 53 * 2 ^ (971 : Int) := two_zpow_add 53
  rw [overflow, hlargest, hpower]
  generalize (2 : ℚ) ^ (971 : Int) = unit
  push_cast
  ring

theorem zpow_le_overflow : (2 : ℚ) ^ (1023 : Int) ≤ overflow := by
  have hpower : (2 : ℚ) ^ (1023 : Int) = 2 ^ 52 * 2 ^ (971 : Int) := two_zpow_add 52
  rw [hpower, overflow_eq]
  exact mul_le_mul_of_nonneg_right (by norm_num) (zpow_pos two_pos _).le

theorem overflow_pos : 0 < overflow :=
  (zpow_pos two_pos _).trans_le zpow_le_overflow

theorem overflow_lt_zpow : overflow < (2 : ℚ) ^ (1024 : Int) := by
  have hpower : (2 : ℚ) ^ (1024 : Int) = 2 ^ 53 * 2 ^ (971 : Int) := two_zpow_add 53
  rw [hpower, overflow_eq]
  exact mul_lt_mul_of_pos_right (by norm_num) (zpow_pos two_pos _)

/-- Integers of 64 bits are far from the overflow. -/
theorem abs_intCast_lt_overflow {i : Int} (h : |i| ≤ 2 ^ 63) : |(i : ℚ)| < overflow := by
  calc |(i : ℚ)| ≤ 2 ^ (63 : Int) := by exact_mod_cast h
    _ < 2 ^ (1023 : Int) := zpow_lt_zpow_right₀ (by norm_num) (by norm_num)
    _ ≤ overflow := zpow_le_overflow

/-- The parts of a rounded quotient are those of a double unless its grid is too coarse. -/
theorem exists_ofRatio_iff_gridExponent {num den : Nat} (hnum : num ≠ 0) (hden : den ≠ 0)
    (negative : Bool) : (∃ x, ofRatio negative num den = some x) ↔
      gridExponent num den ≤ 970 ∨ gridExponent num den = 971 ∧ gridMantissa num den ≠ 2 ^ 53 := by
  have hfinest : -1074 ≤ gridExponent num den := le_max_left _ _
  rw [ofRatio_eq hnum]
  split
  case isTrue hcarry =>
    rw [exists_ofParts?_iff]
    constructor
    · intro hcanonical
      exact Or.inl (by have := hcanonical.2.2.1; omega)
    · intro hgrid
      exact ⟨by decide, by omega, by omega, Or.inl (by decide)⟩
  case isFalse hcarry =>
    rw [exists_ofParts?_iff]
    constructor
    · intro hcanonical
      have hcoarsest := hcanonical.2.2.1
      omega
    · intro hgrid
      exact ⟨lt_of_le_of_ne (gridMantissa_le hnum hden) hcarry, hfinest, by omega,
        le_gridMantissa hnum hden⟩

/-- A quotient has a nearest double exactly when it is below the overflow. -/
theorem exists_ofRatio_iff {num den : Nat} (hden : den ≠ 0) (negative : Bool) :
    (∃ x, ofRatio negative num den = some x) ↔ (num : ℚ) / den < overflow := by
  by_cases hnum : num = 0
  · subst hnum
    exact iff_of_true ⟨zero negative, if_pos rfl⟩ (by simpa using overflow_pos)
  obtain ⟨hlow, hhigh⟩ := floorLog2_spec hnum hden
  have hgrid : gridExponent num den = max (-1074) (floorLog2 num den - 52) := rfl
  rw [exists_ofRatio_iff_gridExponent hnum hden]
  rcases lt_trichotomy (gridExponent num den) 971 with hfine | hcoarsest | hcoarse
  · refine iff_of_true (Or.inl (by omega)) ?_
    calc (num : ℚ) / den < 2 ^ (floorLog2 num den + 1) := hhigh
      _ ≤ 2 ^ (1023 : Int) := zpow_le_zpow_right₀ (by norm_num) (by omega)
      _ ≤ overflow := zpow_le_overflow
  · rw [Ne, gridMantissa_eq_iff hnum hden, hcoarsest, not_le,
      div_lt_iff₀ (zpow_pos two_pos _), ← overflow_eq]
    simp
  · refine iff_of_false (by omega) (not_lt.2 ?_)
    calc overflow ≤ 2 ^ (1024 : Int) := overflow_lt_zpow.le
      _ ≤ 2 ^ floorLog2 num den := zpow_le_zpow_right₀ (by norm_num) (by omega)
      _ ≤ num / den := hlow

/-! ## Integers -/

/-- An integer is rounded to the nearest double. -/
theorem ofInt_isNearest {i : Int} {x : Binary64} (h : ofInt i = some x) : x.IsNearest i := by
  have hnearest := ofRatio_isNearest Nat.one_pos h
  have hvalue : withSign (decide (i < 0)) ((i.natAbs : ℚ) / (1 : Nat)) = i := by
    rw [Nat.cast_one, div_one]
    unfold withSign
    split
    case isTrue hnegative =>
      have hi : -(i.natAbs : Int) = i := by
        have hbelow : i < 0 := of_decide_eq_true hnegative
        omega
      rw [← Int.cast_natCast, ← Int.cast_neg, hi]
    case isFalse hnegative =>
      have hi : (i.natAbs : Int) = i := by
        have habove : ¬ i < 0 := fun hbelow => hnegative (decide_eq_true hbelow)
        omega
      rw [← Int.cast_natCast, hi]
  rwa [hvalue] at hnearest

/-- An integer up to `2 ^ 1023` has a nearest double. -/
theorem exists_ofInt_of_lt {i : Int} (h : i.natAbs < 2 ^ 1023) : ∃ x, ofInt i = some x := by
  have hsmall : (i.natAbs : ℚ) < 2 ^ (1023 : Int) := by exact_mod_cast h
  refine (exists_ofRatio_iff one_ne_zero _).2 ?_
  rw [Nat.cast_one, div_one]
  exact hsmall.trans_le zpow_le_overflow

/-- A double with a negative exponent is less than `2 ^ 53`. -/
theorem abs_value_lt {x : Binary64} (h : x.exponent < 0) : |x.value| < 2 ^ 53 := by
  have hunit : (2 : ℚ) ^ x.exponent ≤ 1 := zpow_le_one_of_nonpos₀ (by norm_num) h.le
  have hmantissa : |(x.signed : ℚ)| < 2 ^ 53 := by exact_mod_cast abs_signed_lt x
  unfold value
  rw [abs_mul, abs_of_pos (zpow_pos (by norm_num : (0 : ℚ) < 2) _)]
  exact (mul_le_of_le_one_right (abs_nonneg _) hunit).trans_lt hmantissa

/-- The double nearest to an integer is an integer. -/
theorem exists_toInt?_of_ofInt {i : Int} {x : Binary64} (h : ofInt i = some x) :
    ∃ j, x.toInt? = some j := by
  have hnearest := ofInt_isNearest h
  rcases le_or_gt i.natAbs (2 ^ 53) with hsmall | hlarge
  · obtain ⟨y, _, hy⟩ := exists_ofInt hsmall
    exact ⟨i, toInt?_eq_some_iff.2 (hnearest.value_eq hy)⟩
  · -- Beyond `2 ^ 53` doubles are multiples of powers of two with natural exponents.
    have hbeyond : (2 : ℚ) ^ 53 ≤ |x.value| := by
      rw [le_abs']
      rcases lt_or_ge i 0 with hnegative | hpositive
      · obtain ⟨y, _, hy⟩ := exists_ofInt (i := -2 ^ 53) (by decide)
        have hle : x.value ≤ y.value := hnearest.value_le (hy ▸ Int.cast_le.2 (by omega))
        rw [hy] at hle
        exact Or.inl (by exact_mod_cast hle)
      · obtain ⟨y, _, hy⟩ := exists_ofInt (i := 2 ^ 53) (by decide)
        have hle : y.value ≤ x.value := hnearest.le_value (hy ▸ Int.cast_le.2 (by omega))
        rw [hy] at hle
        exact Or.inr (by exact_mod_cast hle)
    exact ⟨_, if_pos (not_lt.1 fun hexponent => absurd (abs_value_lt hexponent) (not_lt.2 hbeyond))⟩

/-! ## Integers of one double -/

/-- Integers have the same nearest double. -/
def SameDouble (i j : Int) : Prop :=
  (ofInt i).map value = (ofInt j).map value

theorem SameDouble.symm {i j : Int} (h : SameDouble i j) : SameDouble j i :=
  Eq.symm h

/-- An integer below `2 ^ 53` shares its nearest double with no other one. -/
theorem SameDouble.eq {i j : Int} (h : SameDouble i j) (hi : i.natAbs < 2 ^ 53)
    (hj : j.natAbs < 2 ^ 1023) : i = j := by
  obtain ⟨x, hx, hvalue⟩ := exists_ofInt hi.le
  obtain ⟨y, hy⟩ := exists_ofInt_of_lt hj
  have hnearest := ofInt_isNearest hy
  have hsame : y.value = i := by
    unfold SameDouble at h
    rw [hx, hy, Option.map_some, Option.map_some, Option.some.injEq] at h
    rw [← h, hvalue]
  -- Another integer would lie at or beyond a neighbour of `i`, which is a double itself.
  rcases lt_trichotomy i j with hlt | heq | hgt
  · obtain ⟨z, _, hz⟩ := exists_ofInt (i := i + 1) (by omega)
    have hle : z.value ≤ y.value := hnearest.le_value (hz ▸ Int.cast_le.2 (by omega))
    rw [hz, hsame, Int.cast_le] at hle
    omega
  · exact heq
  · obtain ⟨z, _, hz⟩ := exists_ofInt (i := i - 1) (by omega)
    have hle : y.value ≤ z.value := hnearest.value_le (hz ▸ Int.cast_le.2 (by omega))
    rw [hz, hsame, Int.cast_le] at hle
    omega

/-- The doubles of integers are compared as the integers are, but for integers of one double. -/
theorem value_le_value_iff {i j : Int} {x y : Binary64} (hx : ofInt i = some x)
    (hy : ofInt j = some y) : x.value ≤ y.value ↔ i ≤ j ∨ SameDouble i j := by
  have hsame : SameDouble i j ↔ x.value = y.value := by
    unfold SameDouble
    rw [hx, hy, Option.map_some, Option.map_some, Option.some.injEq]
  rw [hsame]
  constructor
  · intro hle
    rcases le_or_gt i j with hij | hlt
    · exact Or.inl hij
    · have hge := (ofInt_isNearest hy).value_le_value (ofInt_isNearest hx) (Int.cast_lt.2 hlt)
      exact Or.inr (le_antisymm hle hge)
  · rintro (hij | heq)
    · rcases hij.lt_or_eq with hlt | rfl
      · exact (ofInt_isNearest hx).value_le_value (ofInt_isNearest hy) (Int.cast_lt.2 hlt)
      · rw [Option.some.inj (hx.symm.trans hy)]
    · exact heq.le

end Binary64

/-! ## Decimal numbers -/

namespace Decimal

open Binary64

/-- The rational number that a decimal is. -/
def value (d : Decimal) : ℚ :=
  withSign d.negative (d.digits * 10 ^ d.exponent)

/-- Zero is the double nearest to a number below half of the least double. -/
theorem zero_isNearest {q : ℚ} (h : |q| ≤ 2 ^ (-1075 : Int)) (negative : Bool) :
    (zero negative).IsNearest q := by
  intro y
  rw [value_zero, zero_sub, abs_neg]
  by_cases hzero : y.signed = 0
  · have hvalue : y.value = 0 := by
      unfold Binary64.value
      rw [hzero, Int.cast_zero, zero_mul]
    rw [hvalue, zero_sub, abs_neg]
  · have hleast : (2 : ℚ) ^ (-1074 : Int) ≤ |y.value| := by
      have hone : (1 : ℚ) ≤ |(y.signed : ℚ)| := by exact_mod_cast Int.one_le_abs hzero
      unfold Binary64.value
      rw [abs_mul, abs_of_pos (zpow_pos (by norm_num : (0 : ℚ) < 2) _)]
      calc (2 : ℚ) ^ (-1074 : Int) ≤ 2 ^ y.exponent :=
            zpow_le_zpow_right₀ (by norm_num) y.canonical.2.1
        _ ≤ |(y.signed : ℚ)| * 2 ^ y.exponent :=
            le_mul_of_one_le_left (zpow_pos (by norm_num) _).le hone
    have hhalf : (2 : ℚ) ^ (-1074 : Int) = 2 ^ (-1075 : Int) + 2 ^ (-1075 : Int) := by
      rw [← two_mul, ← zpow_one_add₀ (by norm_num)]
      norm_num
    have htriangle := abs_sub_abs_le_abs_sub y.value q
    linarith

theorem lt_pow_length (n : Nat) : n < 10 ^ length n :=
  (Nat.length_toDigits_le_iff (by norm_num) (Nat.length_toDigits_pos)).1 le_rfl

theorem pow_length_le {n : Nat} (h : n ≠ 0) : 10 ^ (length n - 1) ≤ n := by
  rcases Nat.eq_zero_or_pos (length n - 1) with hzero | hpositive
  · rw [hzero]
    exact Nat.pos_of_ne_zero h
  · refine Nat.le_of_not_lt fun hlt => ?_
    have hlength : length n ≤ length n - 1 :=
      (Nat.length_toDigits_le_iff (by norm_num) hpositive).2 hlt
    omega

theorem abs_value (d : Decimal) : |d.value| = d.digits * 10 ^ d.exponent := by
  have hnonneg : (0 : ℚ) ≤ d.digits * 10 ^ d.exponent := by positivity
  unfold value withSign
  split
  · rw [abs_neg, abs_of_nonneg hnonneg]
  · exact abs_of_nonneg hnonneg

/-- A decimal of a size far below that of the least double is below half of it. -/
theorem abs_value_le {d : Decimal} (h : d.exponent + length d.digits < -330) :
    |d.value| ≤ 2 ^ (-1075 : Int) := by
  have hdigits : (d.digits : ℚ) ≤ 10 ^ (length d.digits : Int) := by
    exact_mod_cast (lt_pow_length d.digits).le
  calc |d.value| = d.digits * 10 ^ d.exponent := d.abs_value
    _ ≤ 10 ^ (length d.digits : Int) * 10 ^ d.exponent :=
        mul_le_mul_of_nonneg_right hdigits (by positivity)
    _ = (10 : ℚ) ^ ((length d.digits : Int) + d.exponent) := (zpow_add₀ (by norm_num) _ _).symm
    _ ≤ 10 ^ (-331 : Int) := zpow_le_zpow_right₀ (by norm_num) (by omega)
    _ ≤ 2 ^ (-1075 : Int) := by
        have hpowers : (2 : ℚ) ^ 1075 ≤ 10 ^ 331 := by
          exact_mod_cast (by decide +kernel : 2 ^ 1075 ≤ 10 ^ 331)
        rw [zpow_neg, zpow_neg]
        exact inv_anti₀ (by positivity) hpowers

/-- A decimal of a size far above that of the largest double is above the overflow. -/
theorem overflow_le_abs_value {d : Decimal} (hdigits : d.digits ≠ 0)
    (h : 310 < d.exponent + length d.digits) : overflow ≤ |d.value| := by
  have hlength : 0 < length d.digits := Nat.length_toDigits_pos
  have hleast : (10 : ℚ) ^ ((length d.digits : Int) - 1) ≤ d.digits := by
    rw [← Nat.cast_pred hlength, zpow_natCast]
    exact_mod_cast pow_length_le hdigits
  calc overflow ≤ 2 ^ (1024 : Int) := overflow_lt_zpow.le
    _ ≤ 10 ^ (310 : Int) := by
        exact_mod_cast (by decide +kernel : 2 ^ 1024 ≤ 10 ^ 310)
    _ ≤ 10 ^ ((length d.digits : Int) - 1 + d.exponent) :=
        zpow_le_zpow_right₀ (by norm_num) (by omega)
    _ = 10 ^ ((length d.digits : Int) - 1) * 10 ^ d.exponent := zpow_add₀ (by norm_num) _ _
    _ ≤ d.digits * 10 ^ d.exponent := mul_le_mul_of_nonneg_right hleast (by positivity)
    _ = |d.value| := d.abs_value.symm

/-- The quotient that a decimal is rounded as. -/
theorem quotient_eq (digits : Nat) (exponent : Int) :
    ((digits * 10 ^ exponent.toNat : Nat) : ℚ) / (10 ^ (-exponent).toNat : Nat) =
      digits * 10 ^ exponent := by
  rw [zpow_eq_div (by norm_num) exponent]
  push_cast
  rw [mul_div_assoc]

/-- A decimal number is rounded to the nearest double. -/
theorem toBinary64?_isNearest {d : Decimal} {x : Binary64} (h : d.toBinary64? = some x) :
    x.IsNearest d.value := by
  unfold toBinary64? at h
  simp only [Nat.pow_eq] at h
  split at h
  case isTrue hzero =>
    have hvalue : d.value = 0 := by
      unfold value withSign
      rw [hzero]
      simp
    cases h
    rw [hvalue]
    exact zero_isNearest (by rw [abs_zero]; positivity) d.negative
  case isFalse hdigits =>
    split at h
    case isTrue => cases h
    case isFalse =>
      split at h
      case isTrue hsmall =>
        cases h
        exact zero_isNearest (abs_value_le hsmall) d.negative
      case isFalse =>
        have hden : 0 < 10 ^ (-d.exponent).toNat := by positivity
        have hnearest := ofRatio_isNearest hden h
        rwa [quotient_eq] at hnearest

/-- A decimal number has a nearest double exactly when it is below the overflow in size. -/
theorem exists_toBinary64?_iff (d : Decimal) :
    (∃ x, d.toBinary64? = some x) ↔ |d.value| < overflow := by
  unfold toBinary64?
  simp only [Nat.pow_eq]
  split
  case isTrue hzero =>
    refine iff_of_true ⟨_, rfl⟩ ?_
    rw [abs_value, hzero, Nat.cast_zero, zero_mul]
    exact overflow_pos
  case isFalse hdigits =>
    split
    case isTrue hlarge => exact iff_of_false (by simp) (not_lt.2 (overflow_le_abs_value hdigits hlarge))
    case isFalse =>
      split
      case isTrue hsmall =>
        refine iff_of_true ⟨_, rfl⟩ ((abs_value_le hsmall).trans_lt ?_)
        calc (2 : ℚ) ^ (-1075 : Int) < 2 ^ (1023 : Int) :=
              zpow_lt_zpow_right₀ (by norm_num) (by norm_num)
          _ ≤ overflow := zpow_le_overflow
      case isFalse =>
        have hden : 10 ^ (-d.exponent).toNat ≠ 0 := by positivity
        rw [exists_ofRatio_iff hden, quotient_eq, abs_value]

end Decimal
end RequestGate
