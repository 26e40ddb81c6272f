import RequestGate.Proofs.Conversion
import RequestGate.Proofs.Rounding

/-!
# Texts that are coerced to integers

A text that is coerced to an integer is a numeral, written as a sign, digits, a fraction and an
exponent.  Written without point and exponent it is that integer.  Otherwise its decimal number is
first taken for the nearest double, and the double is an integer up to `2 ^ 53`: an integer of that size
is kept, and any other number may be rounded to one.

Main results:

- Theorem `Numeral.value_toDecimal`: the decimal number that a numeral denotes.
- Theorem `Coercion.numeral?_eq_some_iff_isSpelling`: the texts that are numerals.
- Theorem `Coercion.exists_standsFor`: what an integer says about the text that it comes from.
- Theorem `Coercion.value_not_exact`: it need not be the number that the text denotes.
-/

namespace RequestGate

/-! ## The number of a numeral -/

namespace Numeral

/-- The decimal number that a numeral denotes. -/
def rational (n : Numeral) : ℚ :=
  Binary64.withSign (n.sign = some true)
    ((value n.whole + value (n.fraction.getD []) / 10 ^ (n.fraction.getD []).length) *
      10 ^ n.exponentValue)

/-- Further digits shift the number of the digits before. -/
theorem value_append (digits more : List Char) :
    value (digits ++ more) = value digits * 10 ^ more.length + value more := by
  induction more using List.reverseRecOn with
  | nil => simp [value]
  | append_singleton more c ih =>
    unfold value at ih ⊢
    rw [← List.append_assoc, List.foldl_append, ih, List.foldl_append, List.length_append]
    simp only [List.foldl_cons, List.foldl_nil, List.length_singleton, pow_succ]
    ring

/-- A numeral is read as the decimal number that it denotes. -/
theorem value_toDecimal (n : Numeral) : n.toDecimal.value = n.rational := by
  have hdigits : (value (n.whole ++ n.fraction.getD []) : ℚ) *
      10 ^ (n.exponentValue - ((n.fraction.getD []).length : Int)) =
        (value n.whole + value (n.fraction.getD []) / 10 ^ (n.fraction.getD []).length) *
          10 ^ n.exponentValue := by
    have hpower : (10 : ℚ) ^ (n.fraction.getD []).length ≠ 0 := by positivity
    rw [value_append, zpow_sub₀ (by norm_num), zpow_natCast]
    push_cast
    field_simp
  unfold Decimal.value rational toDecimal
  simp only [hdigits]

/-- A numeral without point and exponent denotes its digits. -/
theorem rational_of_plain {n : Numeral} (hfraction : n.fraction = none) (hexponent : n.exponent = none) :
    n.rational = ((if n.sign = some true then -(value n.whole : Int) else value n.whole : Int) : ℚ) := by
  have hnone : n.exponentValue = 0 := by
    unfold exponentValue
    rw [hexponent]
  have hzero : value [] = 0 := rfl
  unfold rational Binary64.withSign
  rw [hnone, hfraction]
  by_cases hsign : n.sign = some true
  · simp [hsign, hzero]
  · simp [hsign, hzero]

end Numeral

namespace Coercion

/-- The texts that are numerals are those written with a digit in every part. -/
theorem numeral?_eq_some_iff_isSpelling {text : String} {n : Numeral} :
    numeral? text = some n ↔ n.IsSpelling text.toList := by
  rw [numeral?_eq_some_iff]
  constructor
  · rintro ⟨hsplit, hwhole, hfraction⟩
    exact ⟨Numeral.isWritten_of_split? hsplit, hwhole, hfraction, Numeral.exponent_ne_of_split? hsplit⟩
  · intro h
    exact ⟨h.split?, h.whole, h.fraction⟩

/-! ## Integers -/

/-- A double is written as an integer when it is one up to `2 ^ 53`. -/
theorem ofBinary64_eq_integer_iff {x : Binary64} {i : Int} :
    ofBinary64 x = .integer i ↔ x.value = i ∧ i.natAbs ≤ 2 ^ 53 := by
  rw [← Binary64.toInt?_eq_some_iff]
  unfold ofBinary64
  simp only [Nat.pow_eq]
  cases x.toInt? with
  | none => simp
  | some j =>
    simp only [Option.some.injEq]
    split
    case isTrue hle =>
      rw [Number.integer.injEq]
      exact ⟨fun h => ⟨h, h ▸ hle⟩, fun h => h.1⟩
    case isFalse hlt => exact iff_of_false nofun (fun h => hlt (h.1 ▸ h.2))

/-- A text that is coerced to an integer is a numeral that is one itself or has one as its nearest
double. -/
theorem cases_of_value_eq_integer {text : String} {i : Int} (h : value text = Json.ofInt i) :
    ∃ n, numeral? text = some n ∧ (integer? n = some i ∨ integer? n = none ∧
      i.natAbs ≤ 2 ^ 53 ∧ ∃ x : Binary64, x.value = i ∧ x.IsNearest n.rational) := by
  obtain ⟨n, hn, hnumber⟩ := value_eq_number_iff.1 h
  refine ⟨n, hn, ?_⟩
  unfold number? at hnumber
  cases hinteger : integer? n with
  | some j =>
    rw [hinteger] at hnumber
    cases hnumber
    exact Or.inl rfl
  | none =>
    rw [hinteger] at hnumber
    obtain ⟨x, hx, hrounded⟩ := Option.map_eq_some_iff.1 hnumber
    obtain ⟨hvalue, hsmall⟩ := ofBinary64_eq_integer_iff.1 hrounded
    have hnearest := Decimal.toBinary64?_isNearest hx
    rw [Numeral.value_toDecimal] at hnearest
    exact Or.inr ⟨rfl, hsmall, x, hvalue, hnearest⟩

/-- The integer of a numeral is the number that it denotes. -/
theorem rational_of_integer? {n : Numeral} {i : Int} (h : integer? n = some i) : n.rational = i := by
  obtain ⟨⟨hfraction, hexponent, -, -⟩, rfl⟩ := integer?_eq_some_iff.1 h
  exact Numeral.rational_of_plain hfraction hexponent

/-- A number of 64 bits and more has no small double nearest to it. -/
theorem abs_lt_of_isNearest {x : Binary64} {q : ℚ} (h : x.IsNearest q) (hsmall : |x.value| ≤ 2 ^ 53) :
    |q| < 2 ^ 63 := by
  -- Doubles that lie between the small ones and such numbers.
  have hdouble : ∀ negative : Bool, ∃ y : Binary64, y.value = Binary64.withSign negative (2 ^ 54) := by
    intro negative
    refine ⟨⟨negative, 2 ^ 52, 2, by decide⟩, ?_⟩
    cases negative <;> norm_num [Binary64.value, Binary64.signed, Binary64.withSign]
  obtain ⟨hlow, hhigh⟩ := abs_le.1 hsmall
  by_contra hlarge
  rcases le_abs.1 (not_lt.1 hlarge) with habove | hbelow
  · obtain ⟨y, hy⟩ := hdouble false
    have hle : y.value ≤ x.value := h.le_value (by rw [hy]; norm_num [Binary64.withSign]; linarith)
    rw [hy] at hle
    norm_num [Binary64.withSign] at hle
    linarith
  · obtain ⟨y, hy⟩ := hdouble true
    have hle : x.value ≤ y.value := h.value_le (by rw [hy]; norm_num [Binary64.withSign]; linarith)
    rw [hy] at hle
    norm_num [Binary64.withSign] at hle
    linarith

/-- A numeral without point and exponent is the integer that it denotes, if that has at most 64 bits. -/
theorem integer?_of_plain {n : Numeral} {i : Int} (hfraction : n.fraction = none)
    (hexponent : n.exponent = none) (hi : n.rational = i) (hleast : -2 ^ 63 ≤ i) (hbelow : i < 2 ^ 63) :
    integer? n = some i := by
  rw [Numeral.rational_of_plain hfraction hexponent] at hi
  exact integer?_eq_some_iff.2 ⟨⟨hfraction, hexponent, hleast, hbelow⟩, Int.cast_injective hi⟩

/-- A numeral without point and exponent that is no integer has 64 bits and more. -/
theorem le_abs_rational_of_plain {n : Numeral} (hfraction : n.fraction = none)
    (hexponent : n.exponent = none) (hnone : integer? n = none) : 2 ^ 63 ≤ |n.rational| := by
  obtain ⟨i, hi⟩ : ∃ i : Int, n.rational = i := ⟨_, Numeral.rational_of_plain hfraction hexponent⟩
  have houtside : ¬ (-2 ^ 63 ≤ i ∧ i < 2 ^ 63) := by
    rintro ⟨hleast, hbelow⟩
    rw [integer?_of_plain hfraction hexponent hi hleast hbelow] at hnone
    cases hnone
  have habs : 2 ^ 63 ≤ |i| := by
    rw [le_abs]
    omega
  rw [hi]
  exact_mod_cast habs

/-! ## What an integer stands for -/

/-- How an integer stands for the decimal number that a numeral denotes: it is that number when the
numeral has neither point nor exponent and when the number is an integer up to `2 ^ 53`; otherwise it is
the nearest double. -/
structure StandsFor (i : Int) (n : Numeral) : Prop where
  plain : n.fraction = none → n.exponent = none → n.rational = i
  integral : ∀ j : Int, n.rational = j → j.natAbs ≤ 2 ^ 53 → i = j
  rounded : n.rational ≠ i →
    i.natAbs ≤ 2 ^ 53 ∧ ∃ x : Binary64, x.value = i ∧ x.IsNearest n.rational

/-- A text that is coerced to an integer is a numeral, and the integer stands for its number. -/
theorem exists_standsFor {text : String} {i : Int} (h : value text = Json.ofInt i) :
    ∃ n : Numeral, n.IsSpelling text.toList ∧ StandsFor i n := by
  obtain ⟨n, hn, hcases⟩ := cases_of_value_eq_integer h
  refine ⟨n, numeral?_eq_some_iff_isSpelling.1 hn, ?_⟩
  rcases hcases with hinteger | ⟨hnone, hsmall, x, hvalue, hnearest⟩
  · have hrational := rational_of_integer? hinteger
    constructor
    · exact fun _ _ => hrational
    · exact fun j hj _ => Int.cast_injective (hrational.symm.trans hj)
    · exact fun hne => absurd hrational hne
  · constructor
    · intro hfraction hexponent
      have hlarge := le_abs_rational_of_plain hfraction hexponent hnone
      have hbound : |x.value| ≤ 2 ^ 53 := by
        rw [hvalue, ← Int.cast_abs, Int.abs_eq_natAbs]
        exact_mod_cast hsmall
      exact absurd (abs_lt_of_isNearest hnearest hbound) (not_lt.2 hlarge)
    · intro j hj hjsmall
      obtain ⟨y, _, hy⟩ := Binary64.exists_ofInt hjsmall
      exact Int.cast_injective (hvalue.symm.trans (hnearest.value_eq (hy.trans hj.symm) |>.trans hj))
    · exact fun _ => ⟨hsmall, x, hvalue, hnearest⟩

/-- A thousand written with an exponent is exact. -/
theorem thousand_standsFor :
    ∃ n : Numeral, n.IsSpelling "1e3".toList ∧ StandsFor 1000 n ∧ n.rational = 1000 := by
  have hvalue : value "1e3" = Json.ofInt 1000 := rfl
  obtain ⟨n, hspelling, hstands⟩ := exists_standsFor hvalue
  have hn : numeral? "1e3" = some ⟨none, ['1'], none, some (none, ['3'])⟩ := by decide
  obtain rfl := Option.some.inj ((numeral?_eq_some_iff_isSpelling.2 hspelling).symm.trans hn)
  have hrational : Numeral.rational ⟨none, ['1'], none, some (none, ['3'])⟩ =
      ((1 : Nat) + (0 : Nat) / 10 ^ 0) * 10 ^ (3 : Int) := rfl
  refine ⟨_, hspelling, hstands, hrational.trans ?_⟩
  norm_num

/-- A text that is coerced to an integer need not denote it. -/
theorem value_not_exact :
    ¬ ∀ (text : String) (i : Int), value text = Json.ofInt i →
      ∃ n : Numeral, n.IsSpelling text.toList ∧ n.rational = i := by
  intro h
  have hvalue : value "1.00000000000000000001" = Json.ofInt 1 := rfl
  obtain ⟨n, hspelling, hrational⟩ := h _ _ hvalue
  have hn : numeral? "1.00000000000000000001" =
      some ⟨none, ['1'], some "00000000000000000001".toList, none⟩ := by decide
  obtain rfl := Option.some.inj ((numeral?_eq_some_iff_isSpelling.2 hspelling).symm.trans hn)
  have hexact : Numeral.rational ⟨none, ['1'], some "00000000000000000001".toList, none⟩ =
      ((1 : Nat) + (1 : Nat) / 10 ^ 20) * 10 ^ (0 : Int) := rfl
  rw [hexact] at hrational
  norm_num at hrational

end Coercion
end RequestGate
