import RequestGate.Proofs.Numerals
import RequestGate.Proofs.TextEncoding
import RequestGate.Validation.Coercion

/-!
# Numerals recognised by their bytes

Whether a text is a numeral is decided on its bytes.  The digits, signs and marks of numerals are ASCII
characters, of one byte each, and every other character starts with a byte from 128 on.  So each step
over the bytes of a text is the step over its characters that splits off the same part, and bytes are
left in the middle of no character.

Main results:

- Theorem `Coercion.exists_firstByte`: the first byte tells what a numeral needs to know of a character.
- Theorem `Coercion.afterDigits?_bytes` and its siblings: each part is passed over as it is split off.
- Theorem `Coercion.isNumeric_iff`: the bytes of exactly those texts are accepted that are split into the
  parts of a numeral.
-/

namespace RequestGate
namespace Coercion

open Numeral

/-! ## First bytes -/

/-- The bytes of characters. -/
def bytes (text : List Char) : List UInt8 :=
  text.flatMap String.utf8EncodeChar

@[simp] theorem bytes_nil : bytes [] = [] := rfl

theorem bytes_append (first second : List Char) : bytes (first ++ second) = bytes first ++ bytes second :=
  List.flatMap_append

@[simp]
theorem bytes_eq_nil_iff {text : List Char} : bytes text = [] ↔ text = [] := by
  cases text with
  | nil => simp
  | cons c text =>
    obtain ⟨first, more, hbytes, -⟩ := Utf8.decodeFirst_utf8EncodeChar c
    simp [bytes, hbytes]

/-- A byte is a digit or a mark exactly when the character is. -/
structure IsFirstByte (byte : UInt8) (c : Char) : Prop where
  digit : isDigit byte = c.isDigit
  mark : ∀ mark : Char, mark.toNat < 128 → (byte = UInt8.ofNat mark.toNat ↔ c = mark)

theorem isFirstByte_ofNat {c : Char} (h : c.toNat < 128) : IsFirstByte (UInt8.ofNat c.toNat) c := by
  have hbyte : ∀ n, n < 128 → (UInt8.ofNat n).toNat = n := fun n hn =>
    UInt8.toNat_ofNat_of_lt' (by show n < 256; omega)
  constructor
  · rw [Bool.eq_iff_iff]
    simp only [isDigit, Char.isDigit, Bool.and_eq_true, decide_eq_true_eq, UInt8.le_iff_toNat_le,
      hbyte _ h]
    exact Iff.rfl
  · intro mark hmark
    rw [← UInt8.toNat_inj, hbyte _ h, hbyte _ hmark]
    exact Char.toNat_inj

theorem isFirstByte_of_le {byte : UInt8} {c : Char} (hbyte : 128 ≤ byte.toNat) (hc : 128 ≤ c.toNat) :
    IsFirstByte byte c := by
  constructor
  · have hdigit : isDigit byte = false := by
      simp only [isDigit, Bool.and_eq_false_iff, decide_eq_false_iff_not, UInt8.le_iff_toNat_le]
      exact Or.inr (Nat.not_le.2 (Nat.lt_of_lt_of_le (by decide) hbyte))
    have hchar : c.isDigit = false := by
      simp only [Char.isDigit, Bool.and_eq_false_iff, decide_eq_false_iff_not]
      exact Or.inr (Nat.not_le.2 (Nat.lt_of_lt_of_le (by decide) hc))
    rw [hdigit, hchar]
  · intro mark hmark
    refine iff_of_false ?_ ?_
    · rintro rfl
      rw [UInt8.toNat_ofNat_of_lt' (by show mark.toNat < 256; omega)] at hbyte
      omega
    · rintro rfl
      omega

/-- The bytes of a text start with the first byte of its first character; when this is an ASCII
character, the bytes of the other characters follow. -/
theorem exists_firstByte (c : Char) (text : List Char) :
    ∃ byte rest, bytes (c :: text) = byte :: rest ∧ IsFirstByte byte c ∧
      (c.toNat < 128 → rest = bytes text) := by
  by_cases hascii : c.toNat < 128
  · refine ⟨UInt8.ofNat c.toNat, bytes text, ?_, isFirstByte_ofNat hascii, fun _ => rfl⟩
    unfold bytes
    rw [List.flatMap_cons, Utf8.utf8EncodeChar_of_lt hascii, List.singleton_append]
  · have hc : 128 ≤ c.toNat := Nat.le_of_not_lt hascii
    obtain ⟨first, more, hbytes, -⟩ := Utf8.decodeFirst_utf8EncodeChar c
    have hfirst : 128 ≤ first.toNat :=
      Utf8.le_toNat_of_mem_utf8EncodeChar hc (by rw [hbytes]; exact List.mem_cons_self)
    refine ⟨first, more ++ bytes text, ?_, isFirstByte_of_le hfirst hc, fun h => absurd h hascii⟩
    unfold bytes
    rw [List.flatMap_cons, hbytes, List.cons_append]

/-! ## Parts of a numeral -/

theorem afterSign_bytes (text : List Char) : afterSign (bytes text) = bytes (splitSign text).2 := by
  cases text with
  | nil => rfl
  | cons c text =>
    obtain ⟨byte, rest, hbytes, hfirst, hrest⟩ := exists_firstByte c text
    have hplus : byte = 0x2B ↔ c = '+' := hfirst.mark '+' (by decide)
    have hminus : byte = 0x2D ↔ c = '-' := hfirst.mark '-' (by decide)
    have hsign : (splitSign (c :: text)).2 = if c = '+' ∨ c = '-' then text else c :: text := by
      unfold splitSign
      split <;> simp_all
    rw [hsign, hbytes]
    unfold afterSign
    simp only [Bool.or_eq_true, decide_eq_true_eq, hplus, hminus]
    split
    case isTrue hc => exact hrest (by rcases hc with rfl | rfl <;> decide)
    case isFalse => exact hbytes.symm

theorem dropWhile_isDigit_bytes (text : List Char) :
    (bytes text).dropWhile isDigit = bytes (text.dropWhile Char.isDigit) := by
  induction text with
  | nil => rfl
  | cons c text ih =>
    obtain ⟨byte, rest, hbytes, hfirst, hrest⟩ := exists_firstByte c text
    by_cases hc : c.isDigit = true
    · have hcode := code_of_isDigit hc
      rw [hbytes, List.dropWhile_cons_of_pos (hfirst.digit.trans hc), hrest (by omega), ih,
        List.dropWhile_cons_of_pos hc]
    · rw [List.dropWhile_cons_of_neg hc, hbytes,
        List.dropWhile_cons_of_neg (by rw [hfirst.digit]; exact hc)]

/-- Bytes of digits are passed over when there is a digit. -/
theorem afterDigits?_bytes (text : List Char) :
    afterDigits? (bytes text) =
      if (splitDigits text).1 = [] then none else some (bytes (splitDigits text).2) := by
  have hlength : (bytes (splitDigits text).2).length < (bytes text).length ↔
      (splitDigits text).1 ≠ [] := by
    have htext := congrArg (fun text => (bytes text).length) (splitDigits_spec text).1
    simp only [bytes_append, List.length_append] at htext
    rw [Ne, ← bytes_eq_nil_iff, ← Ne, ← List.length_pos_iff]
    omega
  have hrest : (splitDigits text).2 = text.dropWhile Char.isDigit := by
    unfold splitDigits
    rw [List.span_eq_takeWhile_dropWhile]
  unfold afterDigits?
  simp only [dropWhile_isDigit_bytes, ← hrest, hlength, ite_not]

/-- Bytes of a fraction are passed over unless it is a point alone. -/
theorem afterFraction?_bytes (text : List Char) :
    afterFraction? (bytes text) =
      if (splitFraction text).1 = some [] then none else some (bytes (splitFraction text).2) := by
  cases text with
  | nil => rfl
  | cons c text =>
    obtain ⟨byte, rest, hbytes, hfirst, hrest⟩ := exists_firstByte c text
    have hpoint : byte = 0x2E ↔ c = '.' := hfirst.mark '.' (by decide)
    rw [hbytes, afterFraction?]
    by_cases hc : c = '.'
    · subst hc
      rw [if_pos (hpoint.2 rfl), hrest (by decide), afterDigits?_bytes]
      simp [splitFraction]
    · have hnone : splitFraction (c :: text) = (none, c :: text) := by
        unfold splitFraction
        split <;> simp_all
      rw [if_neg (mt hpoint.1 hc), hnone, hbytes]
      rfl

/-- Bytes are exhausted after an exponent exactly when they are an exponent or nothing. -/
theorem afterExponent?_bytes (text : List Char) :
    afterExponent? (bytes text) = some [] ↔ ∃ exponent, splitExponent? text = some exponent := by
  cases text with
  | nil => exact iff_of_true rfl ⟨_, rfl⟩
  | cons c text =>
    obtain ⟨byte, rest, hbytes, hfirst, hrest⟩ := exists_firstByte c text
    have hlower : byte = 0x65 ↔ c = 'e' := hfirst.mark 'e' (by decide)
    have hupper : byte = 0x45 ↔ c = 'E' := hfirst.mark 'E' (by decide)
    rw [hbytes, splitExponent?_cons]
    unfold afterExponent?
    simp only [Bool.or_eq_true, decide_eq_true_eq, hlower, hupper]
    by_cases hc : c = 'e' ∨ c = 'E'
    · have hascii : c.toNat < 128 := by rcases hc with rfl | rfl <;> decide
      rw [if_pos hc, if_pos hc, hrest hascii, afterSign_bytes, afterDigits?_bytes]
      by_cases hdigits : (splitDigits (splitSign text).2).1 = []
      · simp [hdigits]
      · simp [hdigits]
    · rw [if_neg hc, if_neg hc]
      simp

/-! ## Numerals -/

/-- A numeral of a query: digits, and digits after a point. -/
def IsNumeral (n : Numeral) : Prop :=
  n.whole ≠ [] ∧ n.fraction ≠ some []

/-- The bytes of a text are accepted exactly when it is split into the parts of a numeral. -/
theorem isNumeric_iff {text : String} :
    isNumeric (Utf8.encode text) = true ↔ ∃ n, split? text.toList = some n ∧ IsNumeral n := by
  have hbytes : Utf8.encode text = bytes text.toList := rfl
  unfold isNumeric
  rw [decide_eq_true_iff, hbytes, afterSign_bytes, afterDigits?_bytes, split?_eq]
  generalize splitSign text.toList = sign
  generalize hwhole : splitDigits sign.2 = whole
  by_cases hdigits : whole.1 = []
  · simp [hdigits, IsNumeral]
  · rw [if_neg hdigits, Option.bind_some, afterFraction?_bytes]
    by_cases hfraction : (splitFraction whole.2).1 = some []
    · simp [hfraction, IsNumeral]
    · rw [if_neg hfraction, Option.bind_some, afterExponent?_bytes]
      simp [IsNumeral, hdigits, hfraction]

/-- The numeral that a text is has the parts that it is split into. -/
theorem numeral?_eq_some_iff {text : String} {n : Numeral} :
    numeral? text = some n ↔ split? text.toList = some n ∧ IsNumeral n := by
  unfold numeral?
  rw [Option.ite_none_right_eq_some, isNumeric_iff]
  constructor
  · rintro ⟨⟨m, hm, hnumeral⟩, hn⟩
    obtain rfl : m = n := Option.some.inj (hm.symm.trans hn)
    exact ⟨hn, hnumeral⟩
  · rintro ⟨hn, hnumeral⟩
    exact ⟨⟨n, hn, hnumeral⟩, hn⟩

end Coercion
end RequestGate
