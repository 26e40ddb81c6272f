import Mathlib.Data.List.Forall2
import Mathlib.Data.List.Induction
import RequestGate.Proofs.Segments

/-!
# Lower case, segment by segment

The lower case of a text is put together from the images of its characters.  No image contains a
slash, apart from that of the slash itself, so the segments of a path in lower case are those of the
path as it was sent, each in lower case.

Main results:

- Theorem `Case.isLowering_lower`: a text in lower case consists of images of its characters.
- Theorem `Case.IsLowering.eq_of_lower_eq`: a text that is its own lower case stays as it is wherever
  it stands.
- Theorem `Route.segments_lower`: the segments of a path in lower case are the segments in lower case,
  so there are as many.
-/

namespace RequestGate
namespace Case

/-! ## Images of characters -/

/-- What a character may become: a capital sigma depends on its neighbours, no other one does. -/
def IsImage (c : Char) (image : List Char) : Prop :=
  c = '\u03A3' ∧ (image = ['\u03C2'] ∨ image = ['\u03C3']) ∨ c ≠ '\u03A3' ∧ image = lowerAlone c

/-- A text consists of images of the characters of another one, in their order. -/
inductive IsLowering : List Char → List Char → Prop
  | nil : IsLowering [] []
  | cons {c : Char} {image text low : List Char} (himage : IsImage c image)
    (hrest : IsLowering text low) : IsLowering (c :: text) (image ++ low)

theorem isLowering_lowerAfter (before text : List Char) :
    IsLowering text (lowerAfter before text).flatten := by
  induction text generalizing before with
  | nil => exact .nil
  | cons c text ih =>
    unfold lowerAfter
    rw [List.flatten_cons]
    refine .cons ?_ (ih (c :: before))
    by_cases hsigma : c = '\u03A3'
    · rw [if_pos hsigma]
      split
      · exact Or.inl ⟨hsigma, Or.inl rfl⟩
      · exact Or.inl ⟨hsigma, Or.inr rfl⟩
    · rw [if_neg hsigma]
      exact Or.inr ⟨hsigma, rfl⟩

/-- A text in lower case consists of images of its characters. -/
theorem isLowering_lower (text : String) : IsLowering text.toList (lower text).toList := by
  unfold lower
  rw [String.toList_ofList]
  exact isLowering_lowerAfter [] text.toList

/-- A code point that stands for no character gives the character zero. -/
theorem toNat_ofNat (code : Nat) : (Char.ofNat code).toNat = code ∨ Char.ofNat code = '\x00' := by
  by_cases hvalid : code.isValidChar
  · exact Or.inl (congrArg Char.toNat (dif_pos hvalid))
  · exact Or.inr (dif_neg hvalid)

theorem toNat_eq_of_ofNat_eq {code : Nat} {c : Char} (hc : c.toNat ≠ 0) (h : Char.ofNat code = c) :
    code = c.toNat := by
  rcases toNat_ofNat code with hcode | hzero
  · rw [← h, hcode]
  · rw [h] at hzero
    exact absurd (congrArg Char.toNat hzero) hc

/-- The lower case of a capital of ASCII. -/
theorem toNat_lowerAscii {c : Char} (h : 'A' ≤ c ∧ c ≤ 'Z') : (lowerAscii c).toNat = c.toNat + 32 := by
  have hgreatest : c.toNat ≤ 90 := h.2
  have hlower : lowerAscii c = Char.ofNat (c.toNat + 32) := if_pos h
  rw [hlower]
  exact congrArg Char.toNat (dif_pos (Or.inl (by omega)))

theorem lowerAscii_eq_slash_iff {c : Char} : lowerAscii c = '/' ↔ c = '/' := by
  unfold lowerAscii
  split
  · rename_i hupper
    refine iff_of_false ?_ ?_
    · intro hslash
      have hcode : c.toNat + 32 = 47 := toNat_eq_of_ofNat_eq (by decide) hslash
      have hleast : 65 ≤ c.toNat := hupper.1
      omega
    · rintro rfl
      exact absurd hupper (by decide)
  · exact Iff.rfl

/-- No run of the table leads to a character. -/
def IsUnreached (d : Char) : Prop :=
  ∀ run ∈ Unicode.lowerCaseRuns,
    inRun run.1 run.2.1 run.2.2.1 (d.toNat - run.2.2.2).toNat = false

instance (d : Char) : Decidable (IsUnreached d) :=
  inferInstanceAs (Decidable (∀ _ ∈ _, _ = _))

/-- A character to which no run of the table leads is the lower case of itself at most. -/
theorem lowerChar_ne {c d : Char} (hd : d.toNat ≠ 0) (hreached : IsUnreached d)
    (hself : c = d → lowerChar c ≠ c) : lowerChar c ≠ d := by
  intro hlower
  by_cases hsame : c = d
  · exact hself hsame (hlower.trans hsame.symm)
  · unfold lowerChar at hlower
    split at hlower
    · rename_i first last stride offset hrun
      have hfound := List.find?_some hrun
      have hnone := hreached _ (List.mem_of_find?_eq_some hrun)
      have hcode := toNat_eq_of_ofNat_eq hd hlower
      have hback : (d.toNat - offset : Int).toNat = c.toNat := by omega
      simp only [hback] at hnone
      simp only [hnone] at hfound
      cases hfound
    · exact hsame hlower

theorem lowerChar_ne_slash {c : Char} (h : 0x80 ≤ c.toNat) : lowerChar c ≠ '/' := by
  refine lowerChar_ne (by decide) (by decide +kernel) ?_
  rintro rfl
  exact absurd h (by decide)

namespace IsImage

theorem ne_nil {c : Char} {image : List Char} (h : IsImage c image) : image ≠ [] := by
  rcases h with ⟨_, rfl | rfl⟩ | ⟨_, rfl⟩
  · exact List.cons_ne_nil _ _
  · exact List.cons_ne_nil _ _
  · unfold lowerAlone
    split
    · exact List.cons_ne_nil _ _
    · split
      · exact List.cons_ne_nil _ _
      · exact List.cons_ne_nil _ _

/-- Only the image of a slash contains one. -/
theorem slash_notMem {c : Char} {image : List Char} (h : IsImage c image) (hc : c ≠ '/') :
    '/' ∉ image := by
  rcases h with ⟨_, rfl | rfl⟩ | ⟨_, rfl⟩
  · decide
  · decide
  · unfold lowerAlone
    split
    · rw [List.mem_singleton]
      exact fun hslash => hc (lowerAscii_eq_slash_iff.1 hslash.symm)
    · rename_i hlarge
      split
      · decide
      · rw [List.mem_singleton]
        exact fun hslash => lowerChar_ne_slash (Nat.not_lt.1 hlarge) hslash.symm

theorem eq_slash {image : List Char} (h : IsImage '/' image) : image = ['/'] := by
  rcases h with ⟨hsigma, _⟩ | ⟨_, rfl⟩
  · exact absurd hsigma (by decide)
  · decide

/-- A character that has itself as an image has no other one. -/
theorem eq_of_self {c : Char} {image : List Char} (hself : IsImage c [c]) (h : IsImage c image) :
    image = [c] := by
  rcases hself with ⟨rfl, hself⟩ | ⟨hsigma, hself⟩
  · exact absurd hself (by decide)
  · rcases h with ⟨hsigma', _⟩ | ⟨_, himage⟩
    · exact absurd hsigma' hsigma
    · rw [himage, hself]

end IsImage

/-- A character that no image contains: lowering never gives it. -/
def IsNoImage (d : Char) : Prop :=
  ∀ c image, IsImage c image → d ∉ image

theorem lowerAscii_lt {c : Char} (h : c.toNat < 0x80) : (lowerAscii c).toNat < 0x80 := by
  by_cases hupper : 'A' ≤ c ∧ c ≤ 'Z'
  · have hgreatest : c.toNat ≤ 90 := hupper.2
    rw [toNat_lowerAscii hupper]
    omega
  · have hkept : lowerAscii c = c := if_neg hupper
    rwa [hkept]

/-- Characters of ASCII that are no capitals are images of themselves. -/
theorem isImage_self_of_ascii {c : Char} (hascii : c.toNat < 0x80) (hlower : lowerAscii c = c) :
    IsImage c [c] := by
  refine Or.inr ⟨?_, ?_⟩
  · rintro rfl
    exact absurd hascii (by decide)
  · unfold lowerAlone
    rw [if_pos hascii, hlower]

/-- A character beyond ASCII that lower case changes and no run of the table leads to is no image. -/
theorem isNoImage_of_isUnreached {d : Char} (hcode : 0x80 ≤ d.toNat)
    (hspecial : d ∉ ['\u03C2', '\u03C3', '\u0307']) (hreached : IsUnreached d)
    (hself : lowerChar d ≠ d) : IsNoImage d := by
  simp only [List.mem_cons, List.not_mem_nil, or_false, not_or] at hspecial
  intro c image himage hmem
  rcases himage with ⟨_, rfl | rfl⟩ | ⟨_, rfl⟩
  · exact hspecial.1 (List.mem_singleton.1 hmem)
  · exact hspecial.2.1 (List.mem_singleton.1 hmem)
  · unfold lowerAlone at hmem
    split at hmem
    · rename_i hsmall
      have hlow := lowerAscii_lt hsmall
      rw [← List.mem_singleton.1 hmem] at hlow
      exact Nat.not_lt.2 hcode hlow
    · split at hmem
      · rcases List.mem_pair.1 hmem with rfl | hdot
        · exact absurd hcode (by decide)
        · exact hspecial.2.2 hdot
      · have hlower := (List.mem_singleton.1 hmem).symm
        exact lowerChar_ne (by omega) hreached (fun hc => hc ▸ hself) hlower

/-! ## Texts -/

namespace IsLowering

theorem notMem_of_isNoImage {text low : List Char} {d : Char} (h : IsLowering text low)
    (hd : IsNoImage d) : d ∉ low := by
  induction h with
  | nil => exact List.not_mem_nil
  | cons himage _ ih =>
    rw [List.mem_append, not_or]
    exact ⟨hd _ _ himage, ih⟩

theorem length_le {text low : List Char} (h : IsLowering text low) : text.length ≤ low.length := by
  induction h with
  | nil => exact Nat.le_refl _
  | cons himage _ ih =>
    have hpositive := List.length_pos_of_ne_nil himage.ne_nil
    rw [List.length_cons, List.length_append]
    omega

theorem ne_nil {text low : List Char} (h : IsLowering text low) (htext : text ≠ []) : low ≠ [] := by
  intro hlow
  have hlength := h.length_le
  rw [hlow] at hlength
  exact htext (List.eq_nil_of_length_eq_zero (Nat.le_zero.1 hlength))

/-- In a text that is a lowering of itself every character is its own image. -/
theorem isImage_self_of_mem {text low : List Char} (h : IsLowering text low) (hsame : low = text)
    {c : Char} (hc : c ∈ text) : IsImage c [c] := by
  induction h with
  | nil => exact absurd hc List.not_mem_nil
  | @cons d image text low himage hrest ih =>
    -- No image is empty and the lengths agree, so every image is a single character.
    cases image with
    | nil => exact absurd rfl himage.ne_nil
    | cons e more =>
      obtain ⟨rfl, htext⟩ := List.cons.inj hsame
      have hmore : more = [] := by
        have hlength := hrest.length_le
        have htext : more ++ low = text := htext
        rw [← htext, List.length_append] at hlength
        exact List.eq_nil_of_length_eq_zero (by omega)
      subst hmore
      rcases List.mem_cons.1 hc with rfl | hc
      · exact himage
      · exact ih htext hc

theorem eq_of_isImage_self {text low : List Char} (h : IsLowering text low)
    (hself : ∀ c ∈ text, IsImage c [c]) : low = text := by
  induction h with
  | nil => rfl
  | cons himage _ ih =>
    rw [List.forall_mem_cons] at hself
    rw [hself.1.eq_of_self himage, ih hself.2]
    rfl

/-- A text that is its own lower case stays as it is wherever it stands. -/
theorem eq_of_lower_eq {text : String} {low : List Char} (h : IsLowering text.toList low)
    (hlower : lower text = text) : low = text.toList := by
  refine h.eq_of_isImage_self fun c hc => ?_
  exact (isLowering_lower text).isImage_self_of_mem (by rw [hlower]) hc

/-- The image of the last character comes last. -/
theorem append_singleton {text low : List Char} {c : Char} (h : IsLowering (text ++ [c]) low) :
    ∃ before image, low = before ++ image ∧ IsLowering text before ∧ IsImage c image := by
  induction text generalizing low with
  | nil =>
    cases h with
    | cons himage hrest =>
      cases hrest
      exact ⟨[], _, List.append_nil _, .nil, himage⟩
  | cons d text ih =>
    cases h with
    | cons himage hrest =>
      obtain ⟨before, image, rfl, hbefore, hlast⟩ := ih hrest
      exact ⟨_, image, (List.append_assoc _ _ _).symm, .cons himage hbefore, hlast⟩

/-- A text that does not end in a slash does not do so in lower case. -/
theorem getLast?_ne_slash {text low : List Char} (h : IsLowering text low)
    (htext : text.getLast? ≠ some '/') : low.getLast? ≠ some '/' := by
  induction text using List.reverseRecOn with
  | nil =>
    cases h
    exact htext
  | append_singleton text c _ =>
    obtain ⟨before, image, rfl, _, himage⟩ := h.append_singleton
    have hc : c ≠ '/' := by simpa using htext
    rw [List.getLast?_append_of_ne_nil _ himage.ne_nil]
    exact fun hslash => himage.slash_notMem hc (List.mem_of_getLast? hslash)

end IsLowering
end Case

namespace Route

open Case

/-! ## Segments -/

theorem isLowering_dropFirst {text low : List Char} (h : IsLowering text low) :
    IsLowering (dropFirst '/' text) (dropFirst '/' low) := by
  cases h with
  | nil => exact .nil
  | @cons c image text low himage hrest =>
    by_cases hc : c = '/'
    · subst hc
      rw [himage.eq_slash]
      exact hrest
    · have hslash := himage.slash_notMem hc
      cases image with
      | nil => exact absurd rfl himage.ne_nil
      | cons d more =>
        have hd : d ≠ '/' := fun hd => hslash (hd ▸ List.mem_cons_self)
        have hlow := IsLowering.cons himage hrest
        rw [List.cons_append] at hlow ⊢
        rw [dropFirst, if_neg hc, dropFirst, if_neg hd]
        exact hlow

theorem isLowering_dropLast {text low : List Char} (h : IsLowering text low) :
    IsLowering (dropLast '/' text) (dropLast '/' low) := by
  induction text using List.reverseRecOn with
  | nil =>
    cases h
    exact .nil
  | append_singleton text c _ =>
    by_cases hc : c = '/'
    · obtain ⟨before, image, rfl, hbefore, himage⟩ := h.append_singleton
      subst hc
      rw [himage.eq_slash, dropLast_append_singleton, dropLast_append_singleton, if_pos rfl,
        if_pos rfl]
      exact hbefore
    · have htext : (text ++ [c]).getLast? ≠ some '/' := by simpa using hc
      rw [dropLast_eq_self htext, dropLast_eq_self (h.getLast?_ne_slash htext)]
      exact h

/-- The pieces of a text in lower case are its pieces in lower case. -/
theorem forall₂_isLowering_pieces {text low : List Char} (h : IsLowering text low) :
    List.Forall₂ IsLowering (Pieces.pieces '/' text) (Pieces.pieces '/' low) := by
  induction h with
  | nil => exact .cons .nil .nil
  | @cons c image text low himage hrest ih =>
    by_cases hc : c = '/'
    · subst hc
      rw [himage.eq_slash, List.singleton_append, Pieces.pieces_cons, Pieces.pieces_cons,
        if_pos rfl, if_pos rfl]
      exact .cons .nil ih
    · have hslash := himage.slash_notMem hc
      cases htext : Pieces.pieces '/' text with
      | nil => exact absurd htext (Pieces.pieces_ne_nil _ _)
      | cons piece rest =>
        rw [htext] at ih
        cases hlow : Pieces.pieces '/' low with
        | nil => exact absurd hlow (Pieces.pieces_ne_nil _ _)
        | cons lowPiece lowRest =>
          rw [hlow, List.forall₂_cons] at ih
          rw [Pieces.pieces_append hslash hlow, Pieces.pieces_cons, if_neg hc, htext]
          exact .cons (.cons himage ih.1) ih.2

/-- The segments of a path in lower case are the segments of the path in lower case. -/
theorem segments_lower (path : String) :
    List.Forall₂ (fun part lowered => IsLowering part.toList lowered.toList)
      (segments path) (segments (Case.lower path)) := by
  have hpath := isLowering_dropLast (isLowering_dropFirst (isLowering_lower path))
  unfold segments
  rw [List.forall₂_map_left_iff, List.forall₂_map_right_iff]
  simp only [String.toList_ofList]
  exact forall₂_isLowering_pieces hpath

/-- A segment of a path in lower case is one of the path in lower case. -/
theorem exists_isLowering_of_mem {path part : String} (h : part ∈ segments (Case.lower path)) :
    ∃ sent : String, IsLowering sent.toList part.toList := by
  have hparts : List.Forall₂ (fun lowered sent : String =>
      (∃ other : String, IsLowering other.toList lowered.toList) ∧
        IsLowering sent.toList lowered.toList) (segments (Case.lower path)) (segments path) :=
    (segments_lower path).flip.imp fun _ sent hlowering => ⟨⟨sent, hlowering⟩, hlowering⟩
  exact ((List.forall₂_and_left _ _).1 hparts).1 part h

/-- Lower case keeps the number of segments of a path. -/
theorem length_segments_lower (path : String) :
    (segments (Case.lower path)).length = (segments path).length :=
  (segments_lower path).length_eq.symm

end Route
end RequestGate
