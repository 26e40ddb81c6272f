import Mathlib.Tactic.IntervalCases
import RequestGate.Proofs.ByteOrder
import RequestGate.Text.Percent

/-!
# Texts as bytes and back

Reading the UTF-8 bytes of a text gives the text back: the first byte of a character says how many
follow and in which range the next one is, and the bytes that are written for a character are in these
ranges.  In the same way decoding percent escapes gives back the bytes that were written with them,
whichever bytes were escaped.

Main results:

- Theorem `Utf8.decodeFirst_utf8EncodeChar`: the bytes of a character are read as that character.
- Theorem `Utf8.decodeLossy_encode`: the bytes of a text are read as that text.
- Theorem `Percent.IsEscapedAs.decode_eq`: bytes that are written with escapes are decoded to the bytes.
- Theorem `Percent.decode_encode`: escaped bytes are decoded to the bytes.
-/

namespace RequestGate
namespace Utf8

/-! ## First bytes -/

theorem ofByte?_two {bits : Nat} (hlow : 2 ≤ bits) (hhigh : bits < 32) :
    Lead.ofByte? (UInt8.ofNat (bits + 192)) = some ⟨bits, 1, 0x80, 0xBF⟩ := by
  interval_cases bits <;> rfl

theorem ofByte?_three {bits : Nat} (hhigh : bits < 16) :
    Lead.ofByte? (UInt8.ofNat (bits + 224)) =
      some ⟨bits, 2, if bits = 0 then 0xA0 else 0x80, if bits = 13 then 0x9F else 0xBF⟩ := by
  interval_cases bits <;> rfl

theorem ofByte?_four {bits : Nat} (hhigh : bits < 5) :
    Lead.ofByte? (UInt8.ofNat (bits + 240)) =
      some ⟨bits, 3, if bits = 0 then 0x90 else 0x80, if bits = 4 then 0x8F else 0xBF⟩ := by
  interval_cases bits <;> rfl

/-! ## Characters -/

/-- A byte in its range adds six bits. -/
theorem continuation_ofNat {bits : Nat} (hbits : bits < 64) {low high : UInt8}
    (hlow : low.toNat ≤ bits + 128) (hhigh : bits + 128 ≤ high.toNat) (code following : Nat)
    (rest : List UInt8) :
    continuation code (following + 1) low high (UInt8.ofNat (bits + 128) :: rest) =
      continuation (code * 64 + bits) following 0x80 0xBF rest := by
  have hbyte : (UInt8.ofNat (bits + 128)).toNat = bits + 128 :=
    UInt8.toNat_ofNat_of_lt' (by show bits + 128 < 256; omega)
  have hrange : (decide (low ≤ UInt8.ofNat (bits + 128)) && decide (UInt8.ofNat (bits + 128) ≤ high)) =
      true := by
    simp only [UInt8.le_iff_toNat_le, hbyte, hlow, hhigh, decide_true, Bool.and_self]
  rw [continuation, if_pos hrange, hbyte, Nat.add_sub_cancel]

/-- A byte in the widest range adds six bits. -/
theorem continuation_widest {bits : Nat} (hbits : bits < 64) (code following : Nat)
    (rest : List UInt8) :
    continuation code (following + 1) 0x80 0xBF (UInt8.ofNat (bits + 128) :: rest) =
      continuation (code * 64 + bits) following 0x80 0xBF rest := by
  refine continuation_ofNat hbits ?_ ?_ code following rest
  · exact Nat.le_add_left 128 bits
  · show bits + 128 ≤ 191
    omega

/-- A byte that starts a sequence is followed by what it promises. -/
theorem decodeFirst_ofNat {byte : Nat} (hlow : 128 ≤ byte) (hhigh : byte < 256) {lead : Lead}
    (hlead : Lead.ofByte? (UInt8.ofNat byte) = some lead) (rest : List UInt8) :
    decodeFirst (UInt8.ofNat byte) rest =
      continuation lead.bits lead.following lead.low lead.high rest := by
  have hascii : ¬ UInt8.ofNat byte < 0x80 := by
    rw [UInt8.lt_iff_toNat_lt, UInt8.toNat_ofNat_of_lt' hhigh]
    exact Nat.not_lt.2 hlow
  unfold decodeFirst
  rw [if_neg hascii, hlead]

/-- Two bytes carry eleven bits. -/
theorem decodeFirst_two {high low : Nat} (hhigh : 2 ≤ high ∧ high < 32) (hlow : low < 64)
    (rest : List UInt8) :
    decodeFirst (UInt8.ofNat (high + 192)) (UInt8.ofNat (low + 128) :: rest) =
      (some (Char.ofNat (high * 64 + low)), rest) := by
  rw [decodeFirst_ofNat (by omega) (by omega) (ofByte?_two hhigh.1 hhigh.2), continuation_widest hlow,
    continuation]

/-- Three bytes carry sixteen bits: the second byte keeps them from being fewer, and from those of
surrogates. -/
theorem decodeFirst_three {high middle low : Nat} (hhigh : high < 16) (hmiddle : middle < 64)
    (hlow : low < 64) (hshortest : high = 0 → 32 ≤ middle) (hsurrogate : high = 13 → middle < 32)
    (rest : List UInt8) :
    decodeFirst (UInt8.ofNat (high + 224))
        (UInt8.ofNat (middle + 128) :: UInt8.ofNat (low + 128) :: rest) =
      (some (Char.ofNat ((high * 64 + middle) * 64 + low)), rest) := by
  rw [decodeFirst_ofNat (by omega) (by omega) (ofByte?_three hhigh), continuation_ofNat hmiddle ?_ ?_,
    continuation_widest hlow, continuation]
  · show (if high = 0 then (0xA0 : UInt8) else 0x80).toNat ≤ middle + 128
    split
    · show 160 ≤ middle + 128
      omega
    · exact Nat.le_add_left 128 middle
  · show middle + 128 ≤ (if high = 13 then (0x9F : UInt8) else 0xBF).toNat
    split
    · show middle + 128 ≤ 159
      omega
    · show middle + 128 ≤ 191
      omega

/-- Four bytes carry twenty-one bits: the second byte keeps them from being fewer, and below the
greatest code. -/
theorem decodeFirst_four {high second third low : Nat} (hhigh : high < 5) (hsecond : second < 64)
    (hthird : third < 64) (hlow : low < 64) (hshortest : high = 0 → 16 ≤ second)
    (hgreatest : high = 4 → second < 16) (rest : List UInt8) :
    decodeFirst (UInt8.ofNat (high + 240)) (UInt8.ofNat (second + 128) ::
        UInt8.ofNat (third + 128) :: UInt8.ofNat (low + 128) :: rest) =
      (some (Char.ofNat (((high * 64 + second) * 64 + third) * 64 + low)), rest) := by
  rw [decodeFirst_ofNat (by omega) (by omega) (ofByte?_four hhigh), continuation_ofNat hsecond ?_ ?_,
    continuation_widest hthird, continuation_widest hlow, continuation]
  · show (if high = 0 then (0x90 : UInt8) else 0x80).toNat ≤ second + 128
    split
    · show 144 ≤ second + 128
      omega
    · exact Nat.le_add_left 128 second
  · show second + 128 ≤ (if high = 4 then (0x8F : UInt8) else 0xBF).toNat
    split
    · show second + 128 ≤ 143
      omega
    · show second + 128 ≤ 191
      omega

/-- The bytes of a character are read as that character, whatever follows them. -/
theorem decodeFirst_utf8EncodeChar (c : Char) :
    ∃ first more, String.utf8EncodeChar c = first :: more ∧
      ∀ rest, decodeFirst first (more ++ rest) = (some c, rest) := by
  have hvalid : c.val.toNat < 0xD800 ∨ 0xDFFF < c.val.toNat ∧ c.val.toNat < 0x110000 := c.valid
  have hc : Char.ofNat c.val.toNat = c := Char.ofNat_toNat c
  unfold String.utf8EncodeChar
  generalize c.val.toNat = v at hvalid hc
  simp only
  split
  case isTrue hone =>
    refine ⟨_, _, rfl, fun rest => ?_⟩
    have hbyte : (UInt8.ofNat v).toNat = v := UInt8.toNat_ofNat_of_lt' (by show v < 256; omega)
    have hascii : UInt8.ofNat v < 0x80 := by
      rw [UInt8.lt_iff_toNat_lt, hbyte]
      exact Nat.lt_succ_of_le hone
    unfold decodeFirst
    rw [if_pos hascii, hbyte, hc]
    rfl
  case isFalse hone =>
    split
    case isTrue htwo =>
      refine ⟨_, _, rfl, fun rest => ?_⟩
      have hcode : v / 64 % 32 * 64 + v % 64 = v := by omega
      have hread := decodeFirst_two (by omega : 2 ≤ v / 64 % 32 ∧ v / 64 % 32 < 32)
        (by omega : v % 64 < 64) rest
      rwa [hcode, hc] at hread
    case isFalse htwo =>
      split
      case isTrue hthree =>
        refine ⟨_, _, rfl, fun rest => ?_⟩
        have hcode : (v / 4096 % 16 * 64 + v / 64 % 64) * 64 + v % 64 = v := by omega
        have hread := decodeFirst_three (by omega : v / 4096 % 16 < 16)
          (by omega : v / 64 % 64 < 64) (by omega : v % 64 < 64) (by omega) (by omega) rest
        rwa [hcode, hc] at hread
      case isFalse hthree =>
        refine ⟨_, _, rfl, fun rest => ?_⟩
        have hcode : ((v / 262144 % 8 * 64 + v / 4096 % 64) * 64 + v / 64 % 64) * 64 + v % 64 = v := by
          omega
        have hread := decodeFirst_four (by omega : v / 262144 % 8 < 5)
          (by omega : v / 4096 % 64 < 64) (by omega : v / 64 % 64 < 64) (by omega : v % 64 < 64)
          (by omega) (by omega) rest
        rwa [hcode, hc] at hread

/-! ## Texts -/

theorem decodeParts_flatMap (text : List Char) :
    decodeParts (text.flatMap String.utf8EncodeChar) = text.map some := by
  induction text with
  | nil => exact decodeParts_nil
  | cons c text ih =>
    obtain ⟨first, more, hbytes, hread⟩ := decodeFirst_utf8EncodeChar c
    rw [List.flatMap_cons, hbytes, List.cons_append, decodeParts_cons, hread, ih, List.map_cons]

/-- The bytes of a text are read as that text. -/
theorem decodeLossy_encode (text : String) : decodeLossy (encode text) = text := by
  unfold decodeLossy encode
  rw [decodeParts_flatMap, List.map_map]
  have hid : ((fun part : Option Char => part.getD replacement) ∘ some) = id := rfl
  rw [hid, List.map_id, String.ofList_toList]

/-- The bytes of a text are well-formed. -/
theorem decode?_encode (text : String) : decode? (encode text) = some text := by
  have hall : (text.toList.map some).mapM id = some text.toList := by
    induction text.toList with
    | nil => rfl
    | cons c rest ih => simp [ih]
  unfold decode? encode
  rw [decodeParts_flatMap, hall, Option.map_some, String.ofList_toList]

theorem encode_append (first second : String) :
    encode (first ++ second) = encode first ++ encode second := by
  unfold encode
  rw [String.toList_append, List.flatMap_append]

/-- An ASCII character is one byte, its code. -/
theorem utf8EncodeChar_of_lt {c : Char} (h : c.toNat < 128) :
    String.utf8EncodeChar c = [UInt8.ofNat c.toNat] := by
  unfold String.utf8EncodeChar
  exact if_pos (Nat.le_of_lt_succ h)

/-- All bytes of another character are 128 and more. -/
theorem le_toNat_of_mem_utf8EncodeChar {c : Char} (h : 128 ≤ c.toNat) {byte : UInt8}
    (hbyte : byte ∈ String.utf8EncodeChar c) : 128 ≤ byte.toNat := by
  have hmax : c.val.toNat < 0x110000 := by
    rcases c.valid with hd | ⟨_, hd⟩
    · exact Nat.lt_trans hd (by decide)
    · exact hd
  have hhigh : ∀ n, 128 ≤ n → n < 256 → 128 ≤ (UInt8.ofNat n).toNat := fun n hlow hn =>
    hlow.trans_eq (UInt8.toNat_ofNat_of_lt' hn).symm
  replace h : 128 ≤ c.val.toNat := h
  unfold String.utf8EncodeChar at hbyte
  generalize c.val.toNat = v at h hbyte hmax
  simp only at hbyte
  rw [if_neg (by omega)] at hbyte
  split at hbyte
  case isTrue =>
    simp only [List.mem_cons, List.not_mem_nil, or_false] at hbyte
    rcases hbyte with rfl | rfl <;> exact hhigh _ (by omega) (by omega)
  case isFalse =>
    split at hbyte <;> simp only [List.mem_cons, List.not_mem_nil, or_false] at hbyte
    case isTrue => rcases hbyte with rfl | rfl | rfl <;> exact hhigh _ (by omega) (by omega)
    case isFalse => rcases hbyte with rfl | rfl | rfl | rfl <;> exact hhigh _ (by omega) (by omega)

/-- The bytes of ASCII characters are their codes. -/
theorem encode_ofList_of_ascii {text : List Char} (h : ∀ c ∈ text, c.toNat < 128) :
    encode (String.ofList text) = text.map fun c => UInt8.ofNat c.toNat := by
  unfold encode
  rw [String.toList_ofList]
  induction text with
  | nil => rfl
  | cons c text ih =>
    rw [List.forall_mem_cons] at h
    rw [List.flatMap_cons, utf8EncodeChar_of_lt h.1, ih h.2, List.map_cons, List.singleton_append]

/-- An ASCII byte among the bytes of a text is a character of the text. -/
theorem mem_of_mem_encode {text : String} {byte : Nat} (hascii : byte < 128)
    (h : UInt8.ofNat byte ∈ encode text) : Char.ofNat byte ∈ text.toList := by
  obtain ⟨c, hc, hbyte⟩ := List.mem_flatMap.1 h
  rcases Nat.lt_or_ge c.toNat 128 with hlow | hhigh
  · rw [utf8EncodeChar_of_lt hlow, List.mem_singleton, ofNat_eq_ofNat_iff (by omega) (by omega)]
      at hbyte
    rw [hbyte, Char.ofNat_toNat]
    exact hc
  · have hle := le_toNat_of_mem_utf8EncodeChar hhigh hbyte
    rw [UInt8.toNat_ofNat_of_lt' (by show byte < 256; omega)] at hle
    omega

end Utf8

namespace Percent

/-! ## Escapes -/

theorem hexDigit_isAlphanum {n : Nat} (h : n < 16) : (hexDigit n).isAlphanum = true := by
  interval_cases n <;> rfl

/-- A byte is the hexadecimal digit for a number, in either case. -/
def IsHexDigit (n : Nat) (digit : UInt8) : Prop :=
  digit = UInt8.ofNat (hexDigit n).toNat ∨ digit = UInt8.ofNat (Nat.digitChar n).toNat

theorem IsHexDigit.hexValue?_eq {n : Nat} (hn : n < 16) {digit : UInt8} (h : IsHexDigit n digit) :
    hexValue? digit = some (UInt8.ofNat n) := by
  rcases h with rfl | rfl <;> interval_cases n <;> rfl

/-- Two digits stand for the byte of which they are the halves. -/
theorem escaped?_of_isHexDigit {b high low : UInt8} (hhigh : IsHexDigit (b.toNat / 16) high)
    (hlow : IsHexDigit (b.toNat % 16) low) : escaped? high low = some b := by
  have hb : b.toNat < 256 := UInt8.toNat_lt_size b
  have hsum : UInt8.ofNat (b.toNat / 16) * 16 + UInt8.ofNat (b.toNat % 16) = b := by
    rw [← UInt8.toNat_inj, UInt8.toNat_add, UInt8.toNat_mul,
      UInt8.toNat_ofNat_of_lt' (by show b.toNat / 16 < 256; omega),
      UInt8.toNat_ofNat_of_lt' (by show b.toNat % 16 < 256; omega)]
    show (b.toNat / 16 * 16 % 256 + b.toNat % 16) % 256 = b.toNat
    omega
  unfold escaped?
  rw [hhigh.hexValue?_eq (by omega), hlow.hexValue?_eq (by omega)]
  exact congrArg some hsum

/-- A letter or digit is a character of ASCII. -/
theorem toNat_lt_of_isAlphanum {c : Char} (h : c.isAlphanum = true) : c.toNat < 128 := by
  have hbelow : ∀ last : Char, last.toNat < 128 → c.val ≤ last.val → c.toNat < 128 :=
    fun last hlast hle => Nat.lt_of_le_of_lt (UInt32.le_iff_toNat_le.1 hle) hlast
  have hclasses : (c.isUpper = true ∨ c.isLower = true) ∨ c.isDigit = true := by
    rw [← Bool.or_eq_true, ← Bool.or_eq_true]
    exact h
  rcases hclasses with (hupper | hlower) | hdigit
  · have hrange : c.val ≥ 'A'.val ∧ c.val ≤ 'Z'.val := of_decide_eq_true hupper
    exact hbelow 'Z' (by decide) hrange.2
  · exact hbelow 'z' (by decide) (of_decide_eq_true (Bool.and_eq_true_iff.1 hlower).2)
  · exact hbelow '9' (by decide) (of_decide_eq_true (Bool.and_eq_true_iff.1 hdigit).2)

/-- A character that bytes are escaped with is a percent sign, a letter or a digit. -/
theorem mem_encode {bytes : List UInt8} {c : Char} (h : c ∈ (encode bytes).toList) :
    c = '%' ∨ c.isAlphanum = true := by
  unfold encode at h
  rw [String.toList_ofList] at h
  obtain ⟨b, _, hc⟩ := List.mem_flatMap.1 h
  have hb : b.toNat < 256 := UInt8.toNat_lt_size b
  unfold encodeByte at hc
  split at hc
  case isTrue halphanum =>
    rw [List.mem_singleton.1 hc]
    exact Or.inr halphanum
  case isFalse =>
    simp only [List.mem_cons, List.not_mem_nil, or_false] at hc
    rcases hc with rfl | rfl | rfl
    · exact Or.inl rfl
    · exact Or.inr (hexDigit_isAlphanum (by omega))
    · exact Or.inr (hexDigit_isAlphanum (by omega))

/-- Bytes are escaped by characters of ASCII. -/
theorem toNat_lt_of_mem_encode {bytes : List UInt8} {c : Char} (h : c ∈ (encode bytes).toList) :
    c.toNat < 128 := by
  rcases mem_encode h with rfl | halphanum
  · decide
  · exact toNat_lt_of_isAlphanum halphanum

/-! ## Decoding -/

theorem decodeOnto_cons_of_ne {a : UInt8} (h : a ≠ sign) (read rest : List UInt8) :
    decodeOnto read (a :: rest) = decodeOnto (a :: read) rest := by
  match rest with
  | [] => rfl
  | [_] => rfl
  | _ :: _ :: _ => exact if_neg h

theorem decodeOnto_escape {high low byte : UInt8} (h : escaped? high low = some byte)
    (read rest : List UInt8) :
    decodeOnto read (sign :: high :: low :: rest) = decodeOnto (byte :: read) rest := by
  rw [decodeOnto, if_pos rfl, h]

/-- Bytes are written with escapes: a percent sign as an escape, every other byte as an escape or as it
is. -/
inductive IsEscapedAs : List UInt8 → List UInt8 → Prop
  | nil : IsEscapedAs [] []
  | plain {b : UInt8} (h : b ≠ sign) {bytes written : List UInt8}
    (hrest : IsEscapedAs bytes written) : IsEscapedAs (b :: bytes) (b :: written)
  | escape {b high low : UInt8} (hhigh : IsHexDigit (b.toNat / 16) high)
    (hlow : IsHexDigit (b.toNat % 16) low) {bytes written : List UInt8}
    (hrest : IsEscapedAs bytes written) : IsEscapedAs (b :: bytes) (sign :: high :: low :: written)

theorem IsEscapedAs.append {first second written other : List UInt8}
    (hfirst : IsEscapedAs first written) (hsecond : IsEscapedAs second other) :
    IsEscapedAs (first ++ second) (written ++ other) := by
  induction hfirst with
  | nil => exact hsecond
  | plain h _ ih => exact .plain h ih
  | escape hhigh hlow _ ih => exact .escape hhigh hlow ih

/-- Bytes that are written with escapes are decoded to the bytes. -/
theorem IsEscapedAs.decode_eq {bytes written : List UInt8} (h : IsEscapedAs bytes written) :
    decode written = bytes := by
  have hread : ∀ read, decodeOnto read written = read.reverse ++ bytes := by
    induction h with
    | nil => exact fun read => (List.append_nil _).symm
    | plain h _ ih =>
      intro read
      rw [decodeOnto_cons_of_ne h, ih, List.reverse_cons, List.append_assoc]
      rfl
    | escape hhigh hlow _ ih =>
      intro read
      rw [decodeOnto_escape (escaped?_of_isHexDigit hhigh hlow), ih, List.reverse_cons,
        List.append_assoc]
      rfl
  exact hread []

/-- Escaped bytes, as bytes. -/
def escapeByte (b : UInt8) : List UInt8 :=
  (encodeByte b).map fun c => UInt8.ofNat c.toNat

theorem isEscapedAs_escapeByte (b : UInt8) : IsEscapedAs [b] (escapeByte b) := by
  unfold escapeByte encodeByte
  split
  case isTrue halphanum =>
    have hb : b.toNat < 256 := UInt8.toNat_lt_size b
    have hcode : (Char.ofNat b.toNat).toNat = b.toNat := by
      unfold Char.ofNat
      rw [dif_pos (Or.inl (by omega))]
      rfl
    have hsign : b ≠ sign := by
      rintro rfl
      exact absurd halphanum (by decide)
    rw [List.map_singleton, hcode, UInt8.ofNat_toNat]
    exact .plain hsign .nil
  case isFalse => exact .escape (Or.inl rfl) (Or.inl rfl) .nil

/-- The escaped form of bytes is a way to write them with escapes. -/
theorem isEscapedAs_encode (bytes : List UInt8) : IsEscapedAs bytes (Utf8.encode (encode bytes)) := by
  have hascii : ∀ c ∈ bytes.flatMap encodeByte, c.toNat < 128 := fun c hc =>
    toNat_lt_of_mem_encode (by rwa [encode, String.toList_ofList])
  have hbytes : Utf8.encode (encode bytes) = bytes.flatMap escapeByte := by
    unfold encode
    rw [Utf8.encode_ofList_of_ascii hascii, List.map_flatMap]
    rfl
  rw [hbytes]
  clear hascii hbytes
  induction bytes with
  | nil => exact .nil
  | cons b bytes ih => exact (isEscapedAs_escapeByte b).append ih

/-- Escaped bytes are decoded to the bytes. -/
theorem decode_encode (bytes : List UInt8) : decode (Utf8.encode (encode bytes)) = bytes :=
  (isEscapedAs_encode bytes).decode_eq

end Percent
end RequestGate
