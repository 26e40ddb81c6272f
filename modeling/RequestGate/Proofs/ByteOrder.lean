import RequestGate.Text.Utf8

/-!
# The order of bytes and the order of texts

Texts are compared character by character.  Their UTF-8 bytes compare in the same way, so an order of
texts may be read as an order of bytes.

Main results:

- Theorem `Utf8.utf8EncodeChar_append_lt`: the bytes of a smaller character come first.
- Theorem `Utf8.encode_lt_encode_iff`: bytes are in the order of their texts.
-/

namespace RequestGate
namespace Utf8

theorem ofNat_lt_ofNat_iff {m n : Nat} (hm : m < 256) (hn : n < 256) :
    UInt8.ofNat m < UInt8.ofNat n ↔ m < n := by
  rw [UInt8.lt_iff_toNat_lt, UInt8.toNat_ofNat_of_lt' hm, UInt8.toNat_ofNat_of_lt' hn]

theorem ofNat_eq_ofNat_iff {m n : Nat} (hm : m < 256) (hn : n < 256) :
    UInt8.ofNat m = UInt8.ofNat n ↔ m = n := by
  rw [← UInt8.toNat_inj, UInt8.toNat_ofNat_of_lt' hm, UInt8.toNat_ofNat_of_lt' hn]

/-- The bytes of a smaller character come first, whatever follows them. -/
theorem utf8EncodeChar_append_lt {c d : Char} (h : c < d) (after other : List UInt8) :
    String.utf8EncodeChar c ++ after < String.utf8EncodeChar d ++ other := by
  have hlt : c.val.toNat < d.val.toNat := h
  have hmax : d.val.toNat < 0x110000 := by
    rcases d.valid with hd | ⟨_, hd⟩
    · exact Nat.lt_trans hd (by decide)
    · exact hd
  -- All divisions become repeated divisions by 64, whose digits are what the bytes carry.
  have h4096 : ∀ n : Nat, n / 4096 = n / 64 / 64 := by omega
  have h262144 : ∀ n : Nat, n / 262144 = n / 64 / 64 / 64 := by omega
  unfold String.utf8EncodeChar
  simp only [h4096, h262144]
  generalize c.val.toNat = v at *
  generalize d.val.toNat = w at *
  -- One case for each pair of lengths.
  repeat' split
  all_goals
    simp (disch := omega) only [List.cons_append, List.nil_append, List.cons_lt_cons_iff,
      ofNat_lt_ofNat_iff, ofNat_eq_ofNat_iff]
    omega

theorem flatMap_utf8EncodeChar_lt {first second : List Char} (h : first < second) :
    first.flatMap String.utf8EncodeChar < second.flatMap String.utf8EncodeChar := by
  induction first generalizing second with
  | nil =>
    cases second with
    | nil => exact absurd h (List.lt_irrefl _)
    | cons d second =>
      rw [List.flatMap_nil, List.flatMap_cons]
      cases hbytes : String.utf8EncodeChar d with
      | nil => exact absurd hbytes String.utf8EncodeChar_ne_nil
      | cons b bytes => exact List.nil_lt_cons _ _
  | cons c first ih =>
    cases second with
    | nil => exact absurd h (List.not_lt_nil _)
    | cons d second =>
      rw [List.flatMap_cons, List.flatMap_cons]
      rcases List.cons_lt_cons_iff.1 h with hlt | ⟨rfl, hrest⟩
      · exact utf8EncodeChar_append_lt hlt _ _
      · exact List.append_left_lt (ih hrest)

/-- Bytes are in the order of their texts. -/
theorem encode_lt_encode_iff {a b : String} : encode a < encode b ↔ a < b := by
  constructor
  · intro h
    rcases Decidable.em (a < b) with hab | hab
    · exact hab
    · exfalso
      rcases Decidable.em (b < a) with hba | hba
      · exact List.lt_asymm h (flatMap_utf8EncodeChar_lt hba)
      · have heq : a = b := String.le_antisymm (String.not_lt.1 hba) (String.not_lt.1 hab)
        rw [heq] at h
        exact List.lt_irrefl _ h
  · exact flatMap_utf8EncodeChar_lt

end Utf8
end RequestGate
