import Mathlib.Computability.RegularExpressions
import RequestGate.Proofs.IntegerCoercion

/-!
# The pattern of numerals

The numerals of a query are a regular language: a sign, digits, a point with digits and an exponent, of
which only the first digits must be there.  Exactly the texts of this language are recognised by their
bytes, and those of them are coerced to numbers whose value is not beyond the doubles.  Anything else but
the two truth values stays as it is, so that coercing a second time changes nothing.

Main results:

- Theorem `Numeral.exists_isSpelling_iff`: the texts that are written for a numeral are those of the
  pattern.
- Theorem `Coercion.exists_number?_iff`, `Coercion.exists_isNearest_of_number?`: which numerals have a
  number, and which.
- Theorem `Coercion.isCoerced_value`: what a text is coerced to.
- Theorem `Coercion.bag_bag`: coercing is idempotent.
- Theorem `Coercion.coercion_exact`: all of that, with what becomes of a bag.
-/

namespace RequestGate
namespace Numeral

/-! ## The pattern -/

section Pattern

open RegularExpression

/-- One of some characters. -/
def oneOf (chars : List Char) : RegularExpression Char :=
  (chars.map char).sum

/-- A part that may be missing. -/
def optional (part : RegularExpression Char) : RegularExpression Char :=
  1 + part

/-- Digits, at least one. -/
def digitsPattern : RegularExpression Char :=
  oneOf "0123456789".toList * star (oneOf "0123456789".toList)

/-- A sign, if there is one. -/
def signPattern : RegularExpression Char :=
  optional (oneOf ['+', '-'])

/-- A numeral: `[+-]?[0-9]+(\.[0-9]+)?([eE][+-]?[0-9]+)?`. -/
def pattern : RegularExpression Char :=
  signPattern * (digitsPattern * (optional (char '.' * digitsPattern) *
    optional (oneOf ['e', 'E'] * (signPattern * digitsPattern))))

theorem mem_oneOf {chars text : List Char} :
    text ∈ (oneOf chars).matches' ↔ ∃ c ∈ chars, text = [c] := by
  induction chars with
  | nil =>
    have hnil : (oneOf []).matches' = 0 := rfl
    simp [hnil, Language.notMem_zero]
  | cons c chars ih =>
    have hcons : (oneOf (c :: chars)).matches' = {[c]} + (oneOf chars).matches' := rfl
    rw [hcons, Language.mem_add, ih, List.exists_mem_cons_iff]
    exact Iff.rfl

theorem mem_optional {part : RegularExpression Char} {text : List Char} :
    text ∈ (optional part).matches' ↔ text = [] ∨ text ∈ part.matches' := by
  unfold optional
  rw [matches'_add, matches'_epsilon, Language.mem_add, Language.mem_one]

theorem isDigit_iff_mem {c : Char} : c.isDigit = true ↔ c ∈ "0123456789".toList := by
  constructor
  · intro h
    obtain ⟨hlow, hhigh⟩ := code_of_isDigit h
    rw [← Char.ofNat_toNat c]
    generalize c.toNat = code at hlow hhigh
    interval_cases code <;> decide
  · intro h
    exact List.all_eq_true.1 (by decide : "0123456789".toList.all Char.isDigit = true) c h

theorem mem_oneOf_digits {text : List Char} :
    text ∈ (oneOf "0123456789".toList).matches' ↔ ∃ c, c.isDigit = true ∧ text = [c] := by
  simp only [mem_oneOf, isDigit_iff_mem]

/-- The pattern of digits has all texts of digits but the empty one. -/
theorem mem_digitsPattern {text : List Char} :
    text ∈ digitsPattern.matches' ↔ text ≠ [] ∧ AllDigits text := by
  unfold digitsPattern
  rw [matches'_mul, matches'_star, Language.mem_mul]
  constructor
  · rintro ⟨first, hfirst, rest, hrest, rfl⟩
    obtain ⟨c, hc, rfl⟩ := mem_oneOf_digits.1 hfirst
    obtain ⟨parts, rfl, hparts⟩ := Language.mem_kstar.1 hrest
    refine ⟨by simp, List.forall_mem_cons.2 ⟨hc, fun d hd => ?_⟩⟩
    obtain ⟨part, hpart, hmem⟩ := List.mem_flatten.1 hd
    obtain ⟨e, he, rfl⟩ := mem_oneOf_digits.1 (hparts part hpart)
    rwa [List.mem_singleton.1 hmem]
  · rintro ⟨hne, hdigits⟩
    cases text with
    | nil => exact absurd rfl hne
    | cons c rest =>
      obtain ⟨hc, hrest⟩ := List.forall_mem_cons.1 hdigits
      refine ⟨[c], mem_oneOf_digits.2 ⟨c, hc, rfl⟩, rest, ?_, rfl⟩
      refine Language.mem_kstar.2 ⟨rest.map fun d => [d], (List.flatMap_singleton' rest).symm, ?_⟩
      intro part hpart
      obtain ⟨d, hd, rfl⟩ := List.mem_map.1 hpart
      exact mem_oneOf_digits.2 ⟨d, hrest d hd, rfl⟩

theorem mem_signPattern {text : List Char} :
    text ∈ signPattern.matches' ↔ ∃ sign, text = signText sign := by
  unfold signPattern
  rw [mem_optional, mem_oneOf]
  constructor
  · rintro (rfl | ⟨c, hc, rfl⟩)
    · exact ⟨none, rfl⟩
    · simp only [List.mem_cons, List.not_mem_nil, or_false] at hc
      rcases hc with rfl | rfl
      · exact ⟨some false, rfl⟩
      · exact ⟨some true, rfl⟩
  · rintro ⟨sign, rfl⟩
    rcases sign with _ | _ | _
    · exact Or.inl rfl
    · exact Or.inr ⟨'+', by decide, rfl⟩
    · exact Or.inr ⟨'-', by decide, rfl⟩

/-- A fraction is a point with digits, or missing. -/
theorem mem_fractionPattern {text : List Char} :
    text ∈ (optional (char '.' * digitsPattern)).matches' ↔
      ∃ fraction, fraction ≠ some [] ∧ AllDigits (fraction.getD []) ∧ text = fractionText fraction := by
  rw [mem_optional, matches'_mul, matches'_char, Language.mem_mul]
  constructor
  · rintro (rfl | ⟨point, rfl, digits, hdigits, rfl⟩)
    · exact ⟨none, nofun, fun c hc => absurd hc List.not_mem_nil, rfl⟩
    · obtain ⟨hne, hall⟩ := mem_digitsPattern.1 hdigits
      exact ⟨some digits, by simpa using hne, hall, rfl⟩
  · rintro ⟨fraction, hne, hdigits, rfl⟩
    cases fraction with
    | none => exact Or.inl rfl
    | some digits =>
      have hdigits := mem_digitsPattern.2 ⟨by simpa using hne, hdigits⟩
      exact Or.inr ⟨['.'], rfl, digits, hdigits, rfl⟩

/-- An exponent is a mark with a sign and digits, or missing. -/
theorem mem_exponentPattern {text : List Char} :
    text ∈ (optional (oneOf ['e', 'E'] * (signPattern * digitsPattern))).matches' ↔
      ∃ exponent, WritesExponent exponent text ∧ ∀ sign, exponent ≠ some (sign, []) := by
  rw [mem_optional, matches'_mul, matches'_mul, Language.mem_mul]
  constructor
  · rintro (rfl | ⟨first, hfirst, rest, hrest, rfl⟩)
    · exact ⟨none, .none, nofun⟩
    · obtain ⟨mark, hmark, rfl⟩ := mem_oneOf.1 hfirst
      obtain ⟨signed, hsigned, digits, hdigits, rfl⟩ := Language.mem_mul.1 hrest
      obtain ⟨sign, rfl⟩ := mem_signPattern.1 hsigned
      obtain ⟨hne, hall⟩ := mem_digitsPattern.1 hdigits
      refine ⟨some (sign, digits), .some (by simpa using hmark) sign hall, fun other hother => ?_⟩
      rw [Option.some.injEq, Prod.mk.injEq] at hother
      exact hne hother.2
  · rintro ⟨exponent, hwrites, hne⟩
    cases hwrites with
    | none => exact Or.inl rfl
    | @some mark hmark sign digits hall =>
      have hdigits : digits ∈ digitsPattern.matches' :=
        mem_digitsPattern.2 ⟨fun hnil => hne sign (by rw [hnil]), hall⟩
      refine Or.inr ⟨[mark], mem_oneOf.2 ⟨mark, by simpa using hmark, rfl⟩, _, ?_, rfl⟩
      exact Language.mem_mul.2 ⟨_, mem_signPattern.2 ⟨sign, rfl⟩, digits, hdigits, rfl⟩

/-- The texts that are written for a numeral, with a digit in every part, are those of the pattern. -/
theorem exists_isSpelling_iff {text : List Char} :
    (∃ n : Numeral, n.IsSpelling text) ↔ text ∈ pattern.matches' := by
  unfold pattern
  simp only [matches'_mul signPattern, matches'_mul digitsPattern, matches'_mul (optional _),
    Language.mem_mul, mem_signPattern, mem_digitsPattern, mem_fractionPattern, mem_exponentPattern]
  constructor
  · rintro ⟨n, ⟨hwhole, hfraction, exponent, hexponent, rfl⟩, hne, hpoint, hmark⟩
    exact ⟨_, ⟨n.sign, rfl⟩, _, ⟨n.whole, ⟨hne, hwhole⟩, _, ⟨_, ⟨n.fraction, hpoint, hfraction, rfl⟩,
      _, ⟨n.exponent, hexponent, hmark⟩, rfl⟩, rfl⟩, rfl⟩
  · rintro ⟨_, ⟨sign, rfl⟩, _, ⟨whole, ⟨hne, hwhole⟩, _, ⟨_, ⟨fraction, hpoint, hfraction, rfl⟩,
      _, ⟨exponent, hexponent, hmark⟩, rfl⟩, rfl⟩, rfl⟩
    exact ⟨⟨sign, whole, fraction, exponent⟩, ⟨hwhole, hfraction, _, hexponent, rfl⟩, hne, hpoint, hmark⟩

end Pattern
end Numeral

namespace Coercion

open Numeral

/-! ## Texts -/

/-- The bytes of a text are recognised exactly when the text is one of the pattern. -/
theorem isNumeric_iff_mem_pattern {text : String} :
    isNumeric (Utf8.encode text) = true ↔ text.toList ∈ pattern.matches' := by
  rw [isNumeric_iff, ← exists_isSpelling_iff]
  simp only [← numeral?_eq_some_iff, numeral?_eq_some_iff_isSpelling]

example : isNumeric (Utf8.encode "+1.5e-3") = true ∧ isNumeric (Utf8.encode "1.e3") = false ∧
    isNumeric (Utf8.encode "1e") = false ∧ isNumeric (Utf8.encode "１２") = false := by decide

/-- A numeral has a number exactly when its value is not beyond the doubles. -/
theorem exists_number?_iff {n : Numeral} :
    (∃ number, number? n = some number) ↔ |n.rational| < Binary64.overflow := by
  unfold number?
  cases hinteger : integer? n with
  | some i =>
    obtain ⟨⟨-, -, hleast, hbelow⟩, -⟩ := integer?_eq_some_iff.1 hinteger
    refine iff_of_true ⟨_, rfl⟩ ?_
    rw [rational_of_integer? hinteger]
    exact Binary64.abs_intCast_lt_overflow (abs_le.2 ⟨hleast, hbelow.le⟩)
  | none =>
    rw [← value_toDecimal, ← Decimal.exists_toBinary64?_iff]
    simp only [Option.map_eq_some_iff]
    exact ⟨fun ⟨_, x, hx, _⟩ => ⟨x, hx⟩, fun ⟨x, hx⟩ => ⟨_, x, hx, rfl⟩⟩

/-- The double of a number that a numeral has is nearest to its value. -/
theorem exists_isNearest_of_number? {n : Numeral} {number : Number} (h : number? n = some number) :
    ∃ x, number.toBinary64? = some x ∧ x.IsNearest n.rational := by
  have hsize : |n.toDecimal.value| < Binary64.overflow := by
    rw [value_toDecimal]
    exact exists_number?_iff.1 ⟨number, h⟩
  obtain ⟨y, hy⟩ := n.toDecimal.exists_toBinary64?_iff.2 hsize
  have hvalue := map_value_number? h
  rw [hy, Option.map_some] at hvalue
  obtain ⟨x, hx, hsame⟩ := Option.map_eq_some_iff.1 hvalue
  have hnearest := Decimal.toBinary64?_isNearest hy
  unfold Binary64.IsNearest at hnearest
  rw [← hsame, value_toDecimal] at hnearest
  exact ⟨x, hx, hnearest⟩

/-- A text is coerced to a number exactly when it is a numeral whose value is not beyond the doubles, and
then to one whose double is nearest to that value; it is coerced to a truth value exactly when it is the
text of that; otherwise it stays as it is. -/
structure IsCoerced (text : String) (result : Json) : Prop where
  number : (∃ number, result = .number number) ↔ text.toList ∈ pattern.matches' ∧
    ∃ n : Numeral, n.IsSpelling text.toList ∧ |n.rational| < Binary64.overflow
  nearest : ∀ number, result = .number number → ∃ n : Numeral, n.IsSpelling text.toList ∧
    ∃ x, number.toBinary64? = some x ∧ x.IsNearest n.rational
  bool : ∀ b : Bool, result = .bool b ↔ text = if b then "true" else "false"
  kept : (∃ number, result = .number number) ∨ (∃ b, result = .bool b) ∨ result = .string text

theorem exists_value_eq_number_iff {text : String} :
    (∃ number, value text = .number number) ↔
      ∃ n : Numeral, n.IsSpelling text.toList ∧ |n.rational| < Binary64.overflow := by
  simp only [value_eq_number_iff, ← numeral?_eq_some_iff_isSpelling, ← exists_number?_iff]
  exact ⟨fun ⟨number, n, hn, hnumber⟩ => ⟨n, hn, number, hnumber⟩,
    fun ⟨n, hn, number, hnumber⟩ => ⟨number, n, hn, hnumber⟩⟩

theorem value_eq_bool_iff {text : String} {b : Bool} :
    value text = .bool b ↔ text = if b then "true" else "false" := by
  constructor
  · intro h
    rcases value_cases text with ⟨_, _, -, -, hvalue⟩ | ⟨htext, hvalue⟩ | ⟨htext, hvalue⟩ | hvalue
    · cases hvalue.symm.trans h
    · cases hvalue.symm.trans h
      exact htext
    · cases hvalue.symm.trans h
      exact htext
    · cases hvalue.symm.trans h
  · rintro rfl
    cases b <;> rfl

theorem isCoerced_value (text : String) : IsCoerced text (value text) where
  number := by
    rw [exists_value_eq_number_iff, ← exists_isSpelling_iff]
    exact ⟨fun ⟨n, hn, hsize⟩ => ⟨⟨n, hn⟩, n, hn, hsize⟩, And.right⟩
  nearest number h := by
    obtain ⟨n, hn, hnumber⟩ := value_eq_number_iff.1 h
    exact ⟨n, numeral?_eq_some_iff_isSpelling.1 hn, exists_isNearest_of_number? hnumber⟩
  bool _ := value_eq_bool_iff
  kept := by
    rcases value_cases text with ⟨_, number, -, -, h⟩ | ⟨-, h⟩ | ⟨-, h⟩ | h
    · exact Or.inl ⟨number, h⟩
    · exact Or.inr (Or.inl ⟨true, h⟩)
    · exact Or.inr (Or.inl ⟨false, h⟩)
    · exact Or.inr (Or.inr h)

/-! ## Bags -/

/-- What coercion makes of an entry of a bag: the name is kept, and so is a value that is no text. -/
structure IsCoercedEntry (before after : String × Json) : Prop where
  name : after.1 = before.1
  text : ∀ text, before.2 = .string text → after.2 = value text
  other : (∀ text, before.2 ≠ .string text) → after.2 = before.2

theorem isCoercedEntry_field (entry : String × Json) : IsCoercedEntry entry (entry.1, field entry.2) where
  name := rfl
  text _ h := by rw [h, field]
  other h := by
    obtain ⟨name, value⟩ := entry
    cases value with
    | string text => exact absurd rfl (h text)
    | _ => rfl

/-- What a value is coerced to is not coerced any further. -/
theorem field_field (value : Json) : field (field value) = field value := by
  cases value with
  | string text =>
    rw [field]
    rcases value_cases text with ⟨_, _, -, -, h⟩ | ⟨-, h⟩ | ⟨-, h⟩ | h
    · rw [h, field]
      nofun
    · rw [h, field]
      nofun
    · rw [h, field]
      nofun
    · rw [h, field, h]
  | _ => rfl

theorem bag_bag (fields : Bag) : bag (bag fields) = bag fields := by
  unfold bag
  rw [List.map_map]
  simp only [Function.comp_def, field_field]

/-- Bytes are recognised exactly when they are those of a numeral, whatever the text; a text is coerced
to a number, to a truth value or to itself as it is one or the other, and never to nothing; and a bag
keeps its names, their order and all values but texts, and is coerced once and for all. -/
theorem coercion_exact (text : String) (fields : Bag) :
    (isNumeric (Utf8.encode text) = true ↔ text.toList ∈ pattern.matches') ∧
    IsCoerced text (value text) ∧ value text ≠ .null ∧
    List.Forall₂ IsCoercedEntry fields (bag fields) ∧ bag (bag fields) = bag fields := by
  refine ⟨isNumeric_iff_mem_pattern, isCoerced_value text, Checker.value_ne_null text, ?_,
    bag_bag fields⟩
  unfold bag
  rw [List.forall₂_map_right_iff, List.forall₂_same]
  exact fun entry _ => isCoercedEntry_field entry

end Coercion
end RequestGate
