import RequestGate.Proofs.Checking
import RequestGate.Proofs.Rounding

/-!
# Bounds

A rule bounds numbers, and the lengths of texts and of arrays, by its options `min` and `max`.  A
number and its bounds are compared as doubles, each the one nearest to what was written.  Rounding
keeps the order, so a number within the bounds is never refused.  Two integers are told apart unless
they are rounded to one double, which happens from `2 ^ 53` on only.

Main results:

- Theorem `Number.value_le_value`: rounding keeps the order of numbers.
- Theorem `Checker.checkBounds_eq_ok_iff`: the bounds of a rule, by values.
- Theorem `Checker.checkLength_eq_ok`: a length that the bounds admit is accepted.
- Theorem `Checker.boundsLength_iff_admitsLength`: below `2 ^ 53` no other length is accepted.
- Theorem `Checker.check_integer_within`: the integers that a rule with integer bounds accepts, and where
  these are exactly the integers within the bounds.
- Theorem `Checker.check_integer_not_exact`: elsewhere there may be more of them.
-/

namespace RequestGate

open Binary64 (SameDouble)

/-! ## Numbers -/

namespace Number

/-- The rational number that a number is. -/
def value : Number → ℚ
  | .integer i => i
  | .double x => x.value

/-- A number is taken for the nearest double. -/
theorem toBinary64?_isNearest {number : Number} {x : Binary64} (h : number.toBinary64? = some x) :
    x.IsNearest number.value := by
  cases number with
  | integer i => exact Binary64.ofInt_isNearest h
  | double y =>
    obtain rfl : y = x := Option.some.inj h
    intro z
    simp [value]

/-- The doubles of numbers are ordered as the numbers are, also where these are equal. -/
theorem value_le_value {first second : Number} {x y : Binary64}
    (hx : first.toBinary64? = some x) (hy : second.toBinary64? = some y)
    (hle : first.value ≤ second.value) : x.value ≤ y.value := by
  rcases hle.lt_or_eq with hlt | heq
  · exact (toBinary64?_isNearest hx).value_le_value (toBinary64?_isNearest hy) hlt
  · -- Equal numbers are the same integer, or one of them is a double that both stand for.
    cases second with
    | double z =>
      obtain rfl : z = y := Option.some.inj hy
      exact ((toBinary64?_isNearest hx).value_eq heq.symm).le.trans heq.le
    | integer j =>
      cases first with
      | double z =>
        obtain rfl : z = x := Option.some.inj hx
        exact heq.le.trans ((toBinary64?_isNearest hy).value_eq heq).ge
      | integer i =>
        obtain rfl : i = j := Int.cast_injective heq
        rw [Option.some.inj (hx.symm.trans hy)]

/-- Rounding takes no number past a natural number that is below `2 ^ 53`, from either side. -/
theorem toBinary64?_value_le_iff {number : Number} {x : Binary64} (h : number.toBinary64? = some x)
    {n : Nat} (hn : n < 2 ^ 53) : x.value ≤ n ↔ number.value ≤ n := by
  have hnearest := toBinary64?_isNearest h
  rw [← Int.cast_natCast n]
  cases number with
  | double y =>
    obtain rfl : y = x := Option.some.inj h
    exact Iff.rfl
  | integer i =>
    constructor
    · intro hle
      by_contra hgt
      have hnext : (n : Int) + 1 ≤ i := Int.add_one_le_iff.2 (Int.cast_lt.1 (not_le.1 hgt))
      obtain ⟨y, _, hy⟩ := Binary64.exists_ofInt (i := n + 1) (by omega)
      have hbeyond : ((n + 1 : Int) : ℚ) ≤ x.value :=
        hy.ge.trans (hnearest.le_value (hy.le.trans (Int.cast_le.2 hnext)))
      exact absurd (Int.cast_le.1 (hbeyond.trans hle)) (by omega)
    · intro hle
      obtain ⟨y, _, hy⟩ := Binary64.exists_ofInt (i := n) hn.le
      exact (hnearest.value_le (hle.trans hy.ge)).trans hy.le

theorem le_toBinary64?_value_iff {number : Number} {x : Binary64} (h : number.toBinary64? = some x)
    {n : Nat} (hn : n < 2 ^ 53) : n ≤ x.value ↔ n ≤ number.value := by
  have hnearest := toBinary64?_isNearest h
  rw [← Int.cast_natCast n]
  cases number with
  | double y =>
    obtain rfl : y = x := Option.some.inj h
    exact Iff.rfl
  | integer i =>
    constructor
    · intro hle
      by_contra hgt
      have hbefore : i ≤ (n : Int) - 1 := Int.le_sub_one_iff.2 (Int.cast_lt.1 (not_le.1 hgt))
      obtain ⟨y, _, hy⟩ := Binary64.exists_ofInt (i := n - 1) (by omega)
      have hbeyond : x.value ≤ ((n - 1 : Int) : ℚ) :=
        (hnearest.value_le ((Int.cast_le.2 hbefore).trans hy.ge)).trans hy.le
      exact absurd (Int.cast_le.1 (hle.trans hbeyond)) (by omega)
    · intro hle
      obtain ⟨y, _, hy⟩ := Binary64.exists_ofInt (i := n) hn.le
      exact hy.ge.trans (hnearest.le_value (hy.le.trans hle))

/-- Integers of 64 bits are far below the greatest double. -/
theorem InRange.natAbs_lt {i : Int} (h : InRange i) : i.natAbs < 2 ^ 1023 := by
  unfold InRange at h
  simp only [Nat.pow_eq] at h
  have hbits : i.natAbs < 2 ^ 64 := by omega
  exact hbits.trans_le (pow_le_pow_right₀ one_le_two (by decide))

/-- An integer of 64 bits has a nearest double. -/
theorem InRange.exists_ofInt {i : Int} (h : InRange i) : ∃ x, Binary64.ofInt i = some x :=
  Binary64.exists_ofInt_of_lt h.natAbs_lt

end Number

/-! ## Bounds of a rule -/

theorem Binary64.lt_eq_false_iff {x y : Binary64} : x.lt y = false ↔ y.value ≤ x.value := by
  rw [← Bool.not_eq_true, lt_iff, not_lt]

/-- A length satisfies the numbers that a rule has as bounds. -/
structure Rule.AdmitsLength (rule : Rule) (length : Nat) : Prop where
  least : ∀ bound, rule.option? "min" = some (.number bound) → bound.value ≤ length
  most : ∀ bound, rule.option? "max" = some (.number bound) → length ≤ bound.value

/-- A length is within the numbers that a rule has as bounds, all of them taken for the nearest doubles. -/
structure Rule.BoundsLength (rule : Rule) (length : Nat) : Prop where
  least : ∀ bound ∈ (rule.option? "min").bind Json.asBinary64?,
    ∀ x ∈ Binary64.ofInt length, bound.value ≤ x.value
  most : ∀ bound ∈ (rule.option? "max").bind Json.asBinary64?,
    ∀ x ∈ Binary64.ofInt length, x.value ≤ bound.value

/-- The integers among the bounds of a rule have at most 64 bits. -/
def Rule.HasBoundsInRange (rule : Rule) : Prop :=
  ∀ key ∈ ["min", "max"], ∀ i, rule.option? key = some (Json.ofInt i) → Number.InRange i

/-- A bound has a nearest double. -/
theorem Rule.HasBoundsInRange.exists_toBinary64? {rule : Rule} (h : rule.HasBoundsInRange)
    {key : String} (hkey : key ∈ ["min", "max"]) {bound : Number}
    (hbound : rule.option? key = some (.number bound)) : ∃ x, bound.toBinary64? = some x := by
  cases bound with
  | integer i => exact (h key hkey i hbound).exists_ofInt
  | double x => exact ⟨x, rfl⟩

namespace Checker

theorem bind_asBinary64?_eq_some_iff {option : Option Json} {x : Binary64} :
    option.bind Json.asBinary64? = some x ↔
      ∃ number, option = some (.number number) ∧ number.toBinary64? = some x := by
  constructor
  · intro h
    obtain ⟨value, rfl, hvalue⟩ := Option.bind_eq_some_iff.1 h
    cases value with
    | number number => exact ⟨number, rfl, hvalue⟩
    | null | bool | string | array | object => cases hvalue
  · rintro ⟨number, rfl, h⟩
    exact h

/-- A number is within the bounds of a rule when its value is. -/
theorem checkBounds_eq_ok_iff {rule : Rule} {x : Binary64} {subject : String} :
    checkBounds rule x subject = .ok () ↔
      (∀ least ∈ (rule.option? "min").bind Json.asBinary64?, least.value ≤ x.value) ∧
        ∀ most ∈ (rule.option? "max").bind Json.asBinary64?, x.value ≤ most.value := by
  have hlow : ∀ least : Binary64, (∀ bound ∈ some least, bound.value ≤ x.value) ↔ x.lt least = false :=
    fun least => by rw [Binary64.lt_eq_false_iff]; simp
  have hhigh : ∀ most : Binary64, (∀ bound ∈ some most, x.value ≤ bound.value) ↔ most.lt x = false :=
    fun most => by rw [Binary64.lt_eq_false_iff]; simp
  have hfree : ∀ P : Binary64 → Prop, (∀ bound ∈ (none : Option Binary64), P bound) ↔ True :=
    fun P => by simp
  unfold checkBounds
  cases (rule.option? "min").bind Json.asBinary64? <;>
    cases (rule.option? "max").bind Json.asBinary64? <;>
    simp only [hlow, hhigh, hfree, true_and, and_true]
  case none.none => exact iff_of_true rfl trivial
  case none.some most =>
    cases most.lt x with
    | false => exact iff_of_true rfl rfl
    | true => exact iff_of_false nofun nofun
  case some.none least =>
    cases x.lt least with
    | false => exact iff_of_true rfl rfl
    | true => exact iff_of_false nofun nofun
  case some.some least most =>
    cases x.lt least with
    | true => exact iff_of_false nofun (fun h => nomatch h.1)
    | false =>
      cases most.lt x with
      | false => exact iff_of_true rfl ⟨rfl, rfl⟩
      | true => exact iff_of_false nofun (fun h => nomatch h.2)

/-- A length that the bounds of a rule admit is accepted, whatever they are rounded to. -/
theorem checkLength_eq_ok {rule : Rule} {length : Nat} (h : rule.AdmitsLength length) :
    checkLength rule length = .ok () := by
  unfold checkLength
  split
  case h_2 => rfl
  case h_1 x hx =>
    have hlength : (Number.integer length).toBinary64? = some x := hx
    rw [checkBounds_eq_ok_iff]
    constructor
    · intro least hleast
      obtain ⟨bound, hbound, hrounded⟩ := bind_asBinary64?_eq_some_iff.1 hleast
      exact Number.value_le_value hrounded hlength (h.least bound hbound)
    · intro most hmost
      obtain ⟨bound, hbound, hrounded⟩ := bind_asBinary64?_eq_some_iff.1 hmost
      exact Number.value_le_value hlength hrounded (h.most bound hbound)

theorem checkLength_eq_ok_iff {rule : Rule} {length : Nat} :
    checkLength rule length = .ok () ↔ rule.BoundsLength length := by
  unfold checkLength
  cases hx : Binary64.ofInt length with
  | none =>
    refine iff_of_true rfl ⟨fun _ _ z hz => ?_, fun _ _ z hz => ?_⟩
    · exact nomatch hx.symm.trans hz
    · exact nomatch hx.symm.trans hz
  | some x =>
    simp only [checkBounds_eq_ok_iff]
    constructor
    · rintro ⟨hleast, hmost⟩
      refine ⟨fun bound hbound z hz => ?_, fun bound hbound z hz => ?_⟩
      · rw [← Option.some.inj (hx.symm.trans hz)]
        exact hleast bound hbound
      · rw [← Option.some.inj (hx.symm.trans hz)]
        exact hmost bound hbound
    · intro h
      exact ⟨fun bound hbound => h.least bound hbound x hx, fun bound hbound => h.most bound hbound x hx⟩

/-- Below `2 ^ 53` a length is within the doubles of bounds exactly when it is within the bounds as they
are written. -/
theorem boundsLength_iff_admitsLength {rule : Rule} (hrange : rule.HasBoundsInRange) {length : Nat}
    (hlength : length < 2 ^ 53) : rule.BoundsLength length ↔ rule.AdmitsLength length := by
  obtain ⟨x, hx, hvalue⟩ := Binary64.exists_ofInt (i := length) hlength.le
  rw [Int.cast_natCast] at hvalue
  constructor
  · intro h
    constructor
    · intro bound hbound
      obtain ⟨y, hy⟩ := hrange.exists_toBinary64? (by decide) hbound
      have hle := h.least y (bind_asBinary64?_eq_some_iff.2 ⟨bound, hbound, hy⟩) x hx
      exact (Number.toBinary64?_value_le_iff hy hlength).1 (hle.trans hvalue.le)
    · intro bound hbound
      obtain ⟨y, hy⟩ := hrange.exists_toBinary64? (by decide) hbound
      have hle := h.most y (bind_asBinary64?_eq_some_iff.2 ⟨bound, hbound, hy⟩) x hx
      exact (Number.le_toBinary64?_value_iff hy hlength).1 (hvalue.ge.trans hle)
  · intro h
    have hexact : ∀ z ∈ Binary64.ofInt length, z.value = length := by
      intro z hz
      rw [← Option.some.inj (hx.symm.trans hz), hvalue]
    constructor
    · intro y hy z hz
      obtain ⟨bound, hbound, hy⟩ := bind_asBinary64?_eq_some_iff.1 hy
      exact ((Number.toBinary64?_value_le_iff hy hlength).2 (h.least bound hbound)).trans
        (hexact z hz).ge
    · intro y hy z hz
      obtain ⟨bound, hbound, hy⟩ := bind_asBinary64?_eq_some_iff.1 hy
      exact (hexact z hz).le.trans
        ((Number.le_toBinary64?_value_iff hy hlength).2 (h.most bound hbound))

/-! ## Integers with integers as bounds -/

/-- A rule for integers whose bounds are integers of at most 64 bits, where it has any. -/
structure BoundsIntegers (rule : Rule) (least most : Option Int) : Prop where
  kind : rule.kind = some "int" ∨ rule.kind = some "integer"
  min : rule.option? "min" = least.map Json.ofInt
  max : rule.option? "max" = most.map Json.ofInt
  least_inRange : ∀ bound ∈ least, Number.InRange bound
  most_inRange : ∀ bound ∈ most, Number.InRange bound

/-- An integer is at least one bound and at most the other. -/
def IsWithin (least most : Option Int) (n : Int) : Prop :=
  (∀ bound ∈ least, bound ≤ n) ∧ ∀ bound ∈ most, n ≤ bound

/-- The bounds of an option that is an integer. -/
theorem bind_asBinary64?_ofInt (bound : Option Int) :
    (bound.map Json.ofInt).bind Json.asBinary64? = bound.bind Binary64.ofInt := by
  cases bound <;> rfl

/-- A bound is exact as soon as it or the number is less than `2 ^ 53`, whatever their signs. -/
theorem le_or_sameDouble_iff {i j : Int} (hi : Number.InRange i) (hj : Number.InRange j)
    (hsmall : i.natAbs < 2 ^ 53 ∨ j.natAbs < 2 ^ 53) : i ≤ j ∨ SameDouble i j ↔ i ≤ j := by
  refine or_iff_left_of_imp fun hsame => ?_
  rcases hsmall with hsmall | hsmall
  · exact (hsame.eq hsmall hj.natAbs_lt).le
  · exact (hsame.symm.eq hsmall hi.natAbs_lt).ge

/-- A rule accepts the integers within its bounds, and those that are rounded to the same double as the
bound that they are beyond. -/
theorem check_integer_eq_ok_iff {checker : Checker} {rule : Rule} {least most : Option Int}
    (hrule : BoundsIntegers rule least most) {n : Int} (hn : Number.InRange n) :
    checker.check rule (Json.ofInt n) = .ok () ↔
      (∀ bound ∈ least, bound ≤ n ∨ SameDouble bound n) ∧
        ∀ bound ∈ most, n ≤ bound ∨ SameDouble n bound := by
  obtain ⟨x, hx⟩ := hn.exists_ofInt
  have hkind : rule.kind.bind Kind.ofName? = some .integer := by
    rcases hrule.kind with h | h <;> rw [h] <;> rfl
  have hnumber : (checker.number? (Json.ofInt n)).filter (fun y => y.toInt?.isSome) = some x := by
    obtain ⟨j, hj⟩ := Binary64.exists_toInt?_of_ofInt hx
    have hread : checker.number? (Json.ofInt n) = some x := hx
    rw [hread, Option.filter_some, hj]
    rfl
  rw [check_eq_checkKind hkind]
  unfold checkKind
  rw [hnumber]
  simp only
  rw [checkBounds_eq_ok_iff, hrule.min, hrule.max, bind_asBinary64?_ofInt, bind_asBinary64?_ofInt]
  refine and_congr ?_ ?_
  · cases least with
    | none => simp
    | some bound =>
      obtain ⟨y, hy⟩ := (hrule.least_inRange bound rfl).exists_ofInt
      simp [hy, Binary64.value_le_value_iff hy hx]
  · cases most with
    | none => simp
    | some bound =>
      obtain ⟨y, hy⟩ := (hrule.most_inRange bound rfl).exists_ofInt
      simp [hy, Binary64.value_le_value_iff hx hy]

/-- A rule refuses an integer exactly when it is beyond a bound and the two have different doubles; where
one of the two is less than `2 ^ 53`, the bound is exact. -/
theorem check_integer_within {checker : Checker} {rule : Rule} {least most : Option Int}
    (hrule : BoundsIntegers rule least most) {n : Int} (hn : Number.InRange n) :
    (checker.check rule (Json.ofInt n) = .ok () ↔
      (∀ bound ∈ least, bound ≤ n ∨ SameDouble bound n) ∧
        ∀ bound ∈ most, n ≤ bound ∨ SameDouble n bound) ∧
    ((∀ bound, bound ∈ least ∨ bound ∈ most → bound.natAbs < 2 ^ 53 ∨ n.natAbs < 2 ^ 53) →
      (checker.check rule (Json.ofInt n) = .ok () ↔ IsWithin least most n)) := by
  refine ⟨check_integer_eq_ok_iff hrule hn, fun hsmall => ?_⟩
  rw [check_integer_eq_ok_iff hrule hn]
  refine and_congr ?_ ?_
  · refine forall₂_congr fun bound hbound => ?_
    exact le_or_sameDouble_iff (hrule.least_inRange bound hbound) hn (hsmall bound (Or.inl hbound))
  · refine forall₂_congr fun bound hbound => ?_
    exact le_or_sameDouble_iff hn (hrule.most_inRange bound hbound)
      (hsmall bound (Or.inr hbound)).symm

/-- A rule for integers from zero to `2 ^ 53`. -/
def safeRule : Rule :=
  ⟨some "integer", true, [("min", Json.ofInt 0), ("max", Json.ofInt 9007199254740992)]⟩

theorem safeRule_boundsIntegers : BoundsIntegers safeRule (some 0) (some 9007199254740992) where
  kind := Or.inr rfl
  min := rfl
  max := rfl
  least_inRange := by rintro _ ⟨⟩; decide
  most_inRange := by rintro _ ⟨⟩; decide

/-- A negative integer is refused, and the one after the greatest bound is not. -/
theorem check_safeRule :
    (Checker.fresh true).check safeRule (Json.ofInt (-1)) ≠ .ok () ∧
      (Checker.fresh true).check safeRule (Json.ofInt 9007199254740993) = .ok () := by
  constructor
  · rw [Ne, (check_integer_within safeRule_boundsIntegers (by decide)).2 fun _ _ => Or.inr (by decide)]
    exact fun h => absurd (h.1 0 rfl) (by decide)
  · rw [(check_integer_within safeRule_boundsIntegers (by decide)).1]
    constructor
    · rintro _ ⟨⟩
      exact Or.inl (by decide)
    · rintro _ ⟨⟩
      have hdouble : Binary64.ofInt 9007199254740993 = Binary64.ofInt 9007199254740992 := by
        decide +kernel
      exact Or.inr (congrArg (Option.map Binary64.value) hdouble)

/-- The integers that a rule accepts are not exactly those within its bounds. -/
theorem check_integer_not_exact :
    ¬ ∀ (checker : Checker) (rule : Rule) (least most : Option Int) (n : Int),
      BoundsIntegers rule least most → Number.InRange n →
        (checker.check rule (Json.ofInt n) = .ok () ↔ IsWithin least most n) := by
  intro h
  have hexact := h (Checker.fresh true) safeRule (some 0) (some 9007199254740992) 9007199254740993
    safeRule_boundsIntegers (by decide)
  have haccepted : (Checker.fresh true).check safeRule (Json.ofInt 9007199254740993) = .ok () := by
    decide +kernel
  exact absurd ((hexact.1 haccepted).2 _ rfl) (by decide)

end Checker
end RequestGate
