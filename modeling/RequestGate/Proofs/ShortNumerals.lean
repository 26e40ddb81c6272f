import RequestGate.Json.Token
import RequestGate.Proofs.Rounding

/-!
# Doubles of short numerals

JSON reads a numeral in doubles: its digits are rounded to a double, which is multiplied or divided by a
power of ten, and that is rounded again.  Digits up to `2 ^ 53` are not rounded, and neither are powers
of ten up to the 22nd.  So for a numeral with no more digits and no greater power only the last step
rounds, and JSON reads the double that is nearest to the numeral.

Main results:

- Theorem `Binary64.ofRatio_congr`: rounding depends on the quotient only.
- Theorem `Binary64.mul?_eq_ofRatio`, `Binary64.div?_eq_ofRatio`: products and quotients are rounded once.
- Theorem `Json.Token.double?_eq_toBinary64?`: the double of a short numeral is the nearest one.
- Theorem `Json.Token.double?_ne_toBinary64?`: with the 23rd power it need not be.
-/

namespace RequestGate

namespace Binary64

/-! ## Rounding depends on the quotient -/

theorem roundEven_mul (num : Nat) {den k : Nat} (hk : 0 < k) :
    roundEven (num * k) (den * k) = roundEven num den := by
  have hdouble : 2 * (num % den * k) = 2 * (num % den) * k := by ring
  unfold roundEven
  simp only [Nat.mul_div_mul_right num den hk, Nat.mul_mod_mul_right, hdouble,
    Nat.mul_lt_mul_right hk, Nat.mul_right_cancel_iff hk]

/-- Quotients are compared by their products across. -/
theorem roundEven_congr {num den other otherDen : Nat} (hden : 0 < den) (hother : 0 < otherDen)
    (h : num * otherDen = other * den) : roundEven num den = roundEven other otherDen := by
  rw [← roundEven_mul num hother, ← roundEven_mul other hden, h, Nat.mul_comm den]

theorem floorLog2_congr {num den other otherDen : Nat} (hnum : num ≠ 0) (hden : den ≠ 0)
    (hother : other ≠ 0) (hotherDen : otherDen ≠ 0) (h : (num : ℚ) / den = other / otherDen) :
    floorLog2 num den = floorLog2 other otherDen := by
  obtain ⟨hlow, hhigh⟩ := floorLog2_spec hnum hden
  obtain ⟨hotherLow, hotherHigh⟩ := floorLog2_spec hother hotherDen
  rw [h] at hlow hhigh
  have hle := (zpow_lt_zpow_iff_right₀ (by norm_num : (1 : ℚ) < 2)).1 (hlow.trans_lt hotherHigh)
  have hge := (zpow_lt_zpow_iff_right₀ (by norm_num : (1 : ℚ) < 2)).1 (hotherLow.trans_lt hhigh)
  omega

/-- Equal quotients are rounded to the same double. -/
theorem ofRatio_congr {num den other otherDen : Nat} (hden : den ≠ 0) (hotherDen : otherDen ≠ 0)
    (h : (num : ℚ) / den = other / otherDen) (negative : Bool) :
    ofRatio negative num den = ofRatio negative other otherDen := by
  have hcross : num * otherDen = other * den := by
    rw [div_eq_div_iff (Nat.cast_ne_zero.2 hden) (Nat.cast_ne_zero.2 hotherDen)] at h
    exact_mod_cast h
  by_cases hnum : num = 0
  · have hother : other = 0 := by
      rw [hnum, Nat.zero_mul] at hcross
      exact (Nat.mul_eq_zero.1 hcross.symm).resolve_right hden
    unfold ofRatio
    rw [if_pos hnum, if_pos hother]
  · have hother : other ≠ 0 := by
      rintro rfl
      rw [Nat.zero_mul] at hcross
      exact (Nat.mul_eq_zero.1 hcross).elim hnum hotherDen
    have hgrid : gridExponent num den = gridExponent other otherDen := by
      unfold gridExponent
      rw [floorLog2_congr hnum hden hother hotherDen h]
    have hmantissa : gridMantissa num den = gridMantissa other otherDen := by
      unfold gridMantissa
      rw [hgrid]
      generalize 2 ^ (-gridExponent other otherDen).toNat = scale
      refine roundEven_congr (by positivity) (by positivity) ?_
      rw [Nat.mul_mul_mul_comm, hcross, Nat.mul_mul_mul_comm]
    rw [ofRatio_eq hnum, ofRatio_eq hother, hgrid, hmantissa]

/-! ## Products and quotients -/

theorem abs_value_eq (x : Binary64) : |x.value| = x.mantissa * 2 ^ x.exponent := by
  have hsigned : |(x.signed : ℚ)| = x.mantissa := by
    rw [← Int.cast_abs, Int.abs_eq_natAbs, natAbs_signed, Int.cast_natCast]
  unfold value
  rw [abs_mul, hsigned, abs_of_pos (zpow_pos (by norm_num : (0 : ℚ) < 2) _)]

/-- A product is rounded as any quotient of its size is. -/
theorem mul?_eq_ofRatio {x y : Binary64} {num den : Nat} (hden : den ≠ 0)
    (h : |x.value| * |y.value| = num / den) :
    x.mul? y = ofRatio (x.negative != y.negative) num den := by
  unfold mul?
  simp only [Nat.pow_eq]
  refine ofRatio_congr (by positivity) hden ?_ _
  rw [← h, abs_value_eq, abs_value_eq]
  push_cast
  rw [mul_div_assoc, ← zpow_eq_div two_ne_zero, zpow_add₀ two_ne_zero]
  ring

/-- A quotient of doubles is rounded as any quotient of its size is. -/
theorem div?_eq_ofRatio {x y : Binary64} {num den : Nat} (hy : y.value ≠ 0) (hden : den ≠ 0)
    (h : |x.value| / |y.value| = num / den) :
    x.div? y = ofRatio (x.negative != y.negative) num den := by
  have hmantissa : y.mantissa ≠ 0 := by
    intro hzero
    refine hy (abs_eq_zero.1 ?_)
    rw [abs_value_eq, hzero, Nat.cast_zero, zero_mul]
  unfold div?
  simp only [Nat.pow_eq]
  refine ofRatio_congr (by positivity) hden ?_ _
  rw [← h, abs_value_eq, abs_value_eq]
  push_cast
  rw [mul_div_mul_comm, ← zpow_eq_div two_ne_zero, zpow_sub₀ two_ne_zero]
  ring

/-- A natural number up to `2 ^ 53` is not rounded, and its double keeps the sign. -/
theorem exists_ofRatio_of_le {m : Nat} (h : m ≤ 2 ^ 53) (negative : Bool) :
    ∃ x, ofRatio negative m 1 = some x ∧ x.negative = negative ∧ |x.value| = m := by
  by_cases hzero : m = 0
  · subst hzero
    exact ⟨zero negative, rfl, rfl, by rw [value_zero, abs_zero, Nat.cast_zero]⟩
  · obtain ⟨mantissa, exponent, hcanonical, hratio, hexact⟩ := exists_ofRatio_one hzero h negative
    refine ⟨_, hratio, rfl, ?_⟩
    rw [abs_value_eq, zpow_eq_div two_ne_zero, mul_div_assoc', div_eq_iff (by positivity)]
    exact_mod_cast hexact

end Binary64

/-! ## Short numerals -/

/-- A decimal with few digits and a small exponent is rounded as a quotient. -/
theorem Decimal.toBinary64?_of_short {d : Decimal} (hdigits : d.digits ≤ 2 ^ 53)
    (hexponent : d.exponent.natAbs ≤ 22) :
    d.toBinary64? = Binary64.ofRatio d.negative (d.digits * 10 ^ d.exponent.toNat)
      (10 ^ (-d.exponent).toNat) := by
  have hlength : length d.digits ≤ 16 :=
    (Nat.length_toDigits_le_iff (by norm_num) (by norm_num)).2 (by omega)
  unfold toBinary64?
  by_cases hzero : d.digits = 0
  · rw [if_pos hzero, hzero, Nat.zero_mul]
    rfl
  · simp only [Nat.pow_eq]
    rw [if_neg hzero, if_neg (by omega), if_neg (by omega)]

namespace Json.Token

/-- A power of ten up to the 22nd is a double. -/
theorem exists_power? {k : Nat} (hk : k ≤ 22) :
    ∃ power, power? k = some power ∧ power.negative = false ∧ power.value = 10 ^ k := by
  have hexact : ∀ k ∈ List.range 23, (power? k).any (fun power => !power.negative &&
      power.signed * 2 ^ power.exponent.toNat = 10 ^ k * 2 ^ (-power.exponent).toNat) = true := by
    decide +kernel
  obtain ⟨power, hpower, hvalue⟩ :=
    (Option.any_eq_true _ _).1 (hexact k (List.mem_range.2 (Nat.lt_succ_of_le hk)))
  rw [Bool.and_eq_true, Bool.not_eq_true', decide_eq_true_eq] at hvalue
  refine ⟨power, hpower, hvalue.1, ?_⟩
  exact_mod_cast Binary64.value_eq_intCast_iff.2 hvalue.2

/-- A natural number is scaled by a small power of ten in one step. -/
theorem scale?_eq_ofRatio {x : Binary64} {m : Nat} (hx : |x.value| = m) {exponent : Int}
    (hexponent : exponent.natAbs ≤ 22) :
    scale? x exponent =
      Binary64.ofRatio x.negative (m * 10 ^ exponent.toNat) (10 ^ (-exponent).toNat) := by
  obtain ⟨power, hpower, hnegative, hvalue⟩ := exists_power? hexponent
  have hpositive : (0 : ℚ) < power.value := by
    rw [hvalue]
    positivity
  have hsize : |power.value| = 10 ^ exponent.natAbs := by
    rw [abs_of_pos hpositive, hvalue]
  have hsign : (x.negative != power.negative) = x.negative := by
    rw [hnegative]
    exact Bool.bne_false x.negative
  have hden : 10 ^ (-exponent).toNat ≠ 0 := by positivity
  unfold scale? maxPower
  rw [if_pos (by omega), hpower, Option.bind_some]
  split
  case isTrue hleast =>
    have hquotient : |x.value| * |power.value| =
        (m * 10 ^ exponent.toNat : Nat) / (10 ^ (-exponent).toNat : Nat) := by
      rw [Decimal.quotient_eq, hx, hsize, ← zpow_natCast, Int.natAbs_of_nonneg hleast]
    rw [Binary64.mul?_eq_ofRatio hden hquotient, hsign]
  case isFalse hbelow =>
    have hquotient : |x.value| / |power.value| =
        (m * 10 ^ exponent.toNat : Nat) / (10 ^ (-exponent).toNat : Nat) := by
      have hnatAbs : exponent = -(exponent.natAbs : Int) := by omega
      rw [Decimal.quotient_eq, hx, hsize, ← zpow_natCast, div_eq_mul_inv, ← zpow_neg, ← hnatAbs]
    rw [Binary64.div?_eq_ofRatio hpositive.ne' hden hquotient, hsign]

/-- More digits make no lesser number. -/
theorem le_foldl (digits : List Char) (read : Nat) :
    read ≤ digits.foldl (fun n c => 10 * n + (c.toNat - 0x30)) read := by
  induction digits generalizing read with
  | nil => exact le_rfl
  | cons c rest ih =>
    calc read ≤ 10 * read + (c.toNat - 0x30) := by omega
      _ ≤ _ := ih _

/-- Digits whose number fits are all read. -/
theorem significand_eq {digits : List Char} {read : Nat}
    (h : digits.foldl (fun n c => 10 * n + (c.toNat - 0x30)) read < 2 ^ 64) :
    significand read digits =
      (digits.foldl (fun n c => 10 * n + (c.toNat - 0x30)) read, []) := by
  induction digits generalizing read with
  | nil => rfl
  | cons c rest ih =>
    rw [List.foldl_cons] at h ⊢
    have hnext := (le_foldl _ _).trans_lt h
    unfold significand
    simp only [Nat.pow_eq]
    rw [if_pos hnext, ih h]

/-- A numeral with digits up to `2 ^ 53` and a power of ten up to the 22nd is read as the nearest double,
which is the double that the numeral is coerced to elsewhere. -/
theorem double?_eq_toBinary64? {n : Numeral} (hdigits : n.toDecimal.digits ≤ 2 ^ 53)
    (hexponent : n.toDecimal.exponent.natAbs ≤ 22) : double? n = n.toDecimal.toBinary64? := by
  have hread : (n.fraction.getD []).foldl (fun n c => 10 * n + (c.toNat - 0x30))
      (n.whole.foldl (fun n c => 10 * n + (c.toNat - 0x30)) 0) = n.toDecimal.digits :=
    List.foldl_append.symm
  have hfraction := significand_eq (hread.trans_lt (hdigits.trans_lt (by norm_num)))
  have hwhole := significand_eq
    ((le_foldl _ _).trans_lt (hread.trans_lt (hdigits.trans_lt (by norm_num))))
  rw [hread] at hfraction
  have hdouble : double? n =
      (Binary64.ofRatio n.toDecimal.negative n.toDecimal.digits 1).bind
        (scale? · n.toDecimal.exponent) := by
    have hlast : n.exponentValue + (0 : Nat) - ((n.fraction.getD []).length - 0 : Nat) =
        n.toDecimal.exponent := by
      unfold Numeral.toDecimal
      simp
    unfold double?
    simp only [hwhole, hfraction, List.length_nil, hlast]
    rfl
  obtain ⟨x, hx, hnegative, hvalue⟩ :=
    Binary64.exists_ofRatio_of_le hdigits n.toDecimal.negative
  rw [hdouble, hx, Option.bind_some, scale?_eq_ofRatio hvalue hexponent, hnegative,
    Decimal.toBinary64?_of_short hdigits hexponent]

/-- The 23rd power of ten is rounded: three times that power is not read as the nearest double. -/
theorem double?_ne_toBinary64? : ∃ n : Numeral, n.toDecimal.digits = 3 ∧ n.toDecimal.exponent = 23 ∧
    double? n ≠ n.toDecimal.toBinary64? := by
  refine ⟨⟨none, ['3'], none, some (none, ['2', '3'])⟩, rfl, rfl, ?_⟩
  unfold double? scale?
  decide +kernel

end Json.Token
end RequestGate
