/-!
# UTF-8 text

Bytes as text and text as bytes.  Decoding is offered in two strengths: `decode?` refuses ill-formed
bytes, and `decodeLossy` writes one replacement character for every maximal ill-formed part, so that
any byte sequence has a text.

The well-formed sequences are those whose first byte promises one, two or three continuation bytes
and whose second byte keeps the encoding shortest, free of surrogates and below `U+110000`.
-/

namespace RequestGate
namespace Utf8

/-- The character that stands for ill-formed bytes. -/
def replacement : Char := '\uFFFD'

/-- What a first byte promises: its own bits, how many bytes follow it, and the range of the next. -/
structure Lead where
  bits : Nat
  following : Nat
  low : UInt8
  high : UInt8

/-- The promise of a byte that starts a sequence of two to four bytes; `none` for any other byte. -/
def Lead.ofByte? (b : UInt8) : Option Lead :=
  if 0xC2 ≤ b && b ≤ 0xDF then some ⟨b.toNat - 0xC0, 1, 0x80, 0xBF⟩
  else if b == 0xE0 then some ⟨0, 2, 0xA0, 0xBF⟩
  else if b == 0xED then some ⟨0xD, 2, 0x80, 0x9F⟩
  else if 0xE1 ≤ b && b ≤ 0xEF then some ⟨b.toNat - 0xE0, 2, 0x80, 0xBF⟩
  else if b == 0xF0 then some ⟨0, 3, 0x90, 0xBF⟩
  else if b == 0xF4 then some ⟨4, 3, 0x80, 0x8F⟩
  else if 0xF1 ≤ b && b ≤ 0xF3 then some ⟨b.toNat - 0xF0, 3, 0x80, 0xBF⟩
  else none

/-- Reads the bytes that a lead promised, adding six bits each.  The bytes after the accepted ones
come back as well; the character is absent when a byte falls outside its range or the text ends. -/
def continuation (code : Nat) : Nat → UInt8 → UInt8 → List UInt8 → Option Char × List UInt8
  | 0, _, _, rest => (some (Char.ofNat code), rest)
  | _ + 1, _, _, [] => (none, [])
  | n + 1, low, high, b :: rest =>
    if low ≤ b && b ≤ high then
      continuation (code * 64 + (b.toNat - 0x80)) n 0x80 0xBF rest
    else
      (none, b :: rest)

theorem length_continuation_le (code n : Nat) (low high : UInt8) (bytes : List UInt8) :
    (continuation code n low high bytes).2.length ≤ bytes.length := by
  induction bytes generalizing code n low high with
  | nil => cases n <;> simp [continuation]
  | cons b rest ih =>
    cases n with
    | zero => simp [continuation]
    | succ n =>
      simp only [continuation]
      split
      · exact Nat.le_trans (ih ..) (Nat.le_succ _)
      · exact Nat.le_refl _

/-- The first character of nonempty bytes, absent when they start ill-formed, and the bytes after
it. -/
def decodeFirst (b : UInt8) (rest : List UInt8) : Option Char × List UInt8 :=
  if b < 0x80 then (some (Char.ofNat b.toNat), rest)
  else match Lead.ofByte? b with
    | none => (none, rest)
    | some lead => continuation lead.bits lead.following lead.low lead.high rest

theorem length_decodeFirst_le (b : UInt8) (rest : List UInt8) :
    (decodeFirst b rest).2.length ≤ rest.length := by
  unfold decodeFirst
  split
  · exact Nat.le_refl _
  · split
    · exact Nat.le_refl _
    · exact length_continuation_le ..

/-- `decodeParts` with the parts already read, the latest first. -/
def decodeOnto (read : List (Option Char)) : List UInt8 → List (Option Char)
  | [] => read.reverse
  | b :: rest => decodeOnto ((decodeFirst b rest).1 :: read) (decodeFirst b rest).2
termination_by bytes => bytes.length
decreasing_by
  exact Nat.lt_succ_of_le (length_decodeFirst_le b rest)

/-- The characters of a byte sequence, with an absent character for every maximal ill-formed
part. -/
def decodeParts (bytes : List UInt8) : List (Option Char) :=
  decodeOnto [] bytes

theorem decodeOnto_eq_append (read : List (Option Char)) (bytes : List UInt8) :
    decodeOnto read bytes = read.reverse ++ decodeParts bytes := by
  unfold decodeParts
  induction h : bytes.length using Nat.strongRecOn generalizing read bytes with
  | ind n ih =>
    cases bytes with
    | nil => simp [decodeOnto]
    | cons b rest =>
      have hlt : (decodeFirst b rest).2.length < n := by
        rw [← h]; exact Nat.lt_succ_of_le (length_decodeFirst_le b rest)
      rw [decodeOnto, decodeOnto, ih _ hlt _ _ rfl, ih _ hlt [_] _ rfl]
      simp

@[simp]
theorem decodeParts_nil : decodeParts [] = [] := by
  simp [decodeParts, decodeOnto]

theorem decodeParts_cons (b : UInt8) (rest : List UInt8) :
    decodeParts (b :: rest) = (decodeFirst b rest).1 :: decodeParts (decodeFirst b rest).2 := by
  rw [decodeParts, decodeOnto, decodeOnto_eq_append]
  simp

/-- Bytes of ASCII characters are decoded one by one. -/
theorem decodeParts_of_ascii {bytes : List UInt8} (h : bytes.all (· < 0x80) = true) :
    decodeParts bytes = bytes.map fun b => some (Char.ofNat b.toNat) := by
  induction bytes with
  | nil => exact decodeParts_nil
  | cons b rest ih =>
    rw [List.all_cons, Bool.and_eq_true, decide_eq_true_eq] at h
    have hfirst : decodeFirst b rest = (some (Char.ofNat b.toNat), rest) := if_pos h.1
    rw [decodeParts_cons, hfirst, ih h.2, List.map_cons]

/-- The text of any bytes: an ill-formed part becomes one replacement character. -/
def decodeLossy (bytes : List UInt8) : String :=
  String.ofList ((decodeParts bytes).map (·.getD replacement))

/-- The text of ASCII bytes has their characters. -/
theorem decodeLossy_of_ascii {bytes : List UInt8} (h : bytes.all (· < 0x80) = true) :
    decodeLossy bytes = String.ofList (bytes.map fun b => Char.ofNat b.toNat) := by
  unfold decodeLossy
  rw [decodeParts_of_ascii h, List.map_map]
  rfl

/-- The text of well-formed bytes. -/
def decode? (bytes : List UInt8) : Option String :=
  ((decodeParts bytes).mapM id).map String.ofList

/-- The bytes of a text. -/
def encode (text : String) : List UInt8 :=
  text.toList.flatMap String.utf8EncodeChar

end Utf8
end RequestGate
