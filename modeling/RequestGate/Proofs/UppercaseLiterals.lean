import Mathlib.Data.Bool.AllAny
import RequestGate.Proofs.Coverage

/-!
# Literals in upper case

A path is compared with the literals of a template in lower case.  Lower case changes nothing in a
text that is in lower case already, so a template is matched by some path exactly when lower case
changes no character of its literals.  The warning about literals that no path matches asks for another
property of characters, Uppercase.  The two agree on ASCII and on most other letters, but some capitals
have no lower case, and letters in title case have one without being capitals.

Main results:

- Theorem `Case.lower_lower`: lower case is its own lower case.
- Theorem `Route.Index.hasUpperLiteral_iff_forall_resolve?_eq_none`: the templates that no path resolves
  to, and the warning about them, which is right when the characters of literals are capitals exactly
  where lower case changes them.
- Theorem `Route.Index.mathematical_and_titlecase`: a capital without a lower case is warned about and
  matched, a letter in title case is neither.
-/

namespace RequestGate
namespace Case

/-! ## The table leads out of itself -/

/-- The code points of a run are all even or all odd. -/
def hasOneParity (first last stride : Nat) : Bool :=
  first == last || stride == 2

/-- A run lies before or behind the code points between two others.  Otherwise these and the run have
different parities, where `oneParity` tells that the former have only one. -/
def isApart (first last : Nat) (oneParity : Bool) : Nat × Nat × Nat × Int → Bool
  | (otherFirst, otherLast, stride, _) =>
    Nat.blt last otherFirst || Nat.blt otherLast first ||
      oneParity && hasOneParity otherFirst otherLast stride && (first + otherFirst) % 2 == 1

/-- Every run of the table leads to code points apart from all runs. -/
theorem all_isApart :
    (Unicode.lowerCaseRuns.all fun (first, last, stride, offset) =>
      decide (0 ≤ first + offset) && Unicode.lowerCaseRuns.all
        (isApart (first + offset).toNat (last + offset).toNat (hasOneParity first last stride))) =
      true := by
  decide +kernel

/-- The code points that a run leads to are in no run apart from them. -/
theorem inRun_eq_false_of_isApart {first last stride code : Nat} {offset : Int}
    {other : Nat × Nat × Nat × Int} (hoffset : 0 ≤ first + offset)
    (hapart : isApart (first + offset).toNat (last + offset).toNat (hasOneParity first last stride)
      other = true) (hin : inRun first last stride code = true) :
    inRun other.1 other.2.1 other.2.2.1 (code + offset).toNat = false := by
  obtain ⟨otherFirst, otherLast, otherStride, otherOffset⟩ := other
  simp only [inRun, Bool.and_eq_true, decide_eq_true_eq, beq_iff_eq] at hin
  simp only [isApart, hasOneParity, Bool.or_eq_true, Bool.and_eq_true, Nat.blt_eq, beq_iff_eq] at hapart
  rw [← Bool.not_eq_true]
  simp only [inRun, Bool.and_eq_true, decide_eq_true_eq, beq_iff_eq]
  rintro ⟨⟨hfirst, hlast⟩, hstride⟩
  rcases hapart with (hbefore | hbehind) | ⟨⟨hparity, hotherParity⟩, hodd⟩
  · omega
  · omega
  · have hcode : (code - first) % 2 = 0 := by
      rcases hparity with rfl | rfl
      · omega
      · exact hin.2
    have hother : ((code + offset).toNat - otherFirst) % 2 = 0 := by
      rcases hotherParity with rfl | rfl
      · omega
      · exact hstride
    omega

/-- No run takes a character. -/
def IsOutside (d : Char) : Prop :=
  ∀ run ∈ Unicode.lowerCaseRuns, inRun run.1 run.2.1 run.2.2.1 d.toNat = false

instance (d : Char) : Decidable (IsOutside d) :=
  inferInstanceAs (Decidable (∀ _ ∈ _, _ = _))

/-- No run takes what the table gives. -/
theorem isOutside_lowerChar (c : Char) : IsOutside (lowerChar c) := by
  unfold lowerChar
  split
  · rename_i first last stride offset hrun
    have hin := List.find?_some hrun
    have hmem := List.all_eq_true.1 all_isApart _ (List.mem_of_find?_eq_some hrun)
    rw [Bool.and_eq_true, decide_eq_true_eq] at hmem
    rcases toNat_ofNat (c.toNat + offset).toNat with hcode | hzero
    · intro other hother
      rw [hcode]
      exact inRun_eq_false_of_isApart hmem.1 (List.all_eq_true.1 hmem.2 other hother) hin
    · rw [hzero]
      decide +kernel
  · rename_i hrun
    intro run hmem
    exact Bool.eq_false_iff.2 (List.find?_eq_none.1 hrun run hmem)

theorem IsOutside.lowerChar_eq {d : Char} (h : IsOutside d) : lowerChar d = d := by
  have hrun : (Unicode.lowerCaseRuns.find? fun (first, last, stride, _) =>
      inRun first last stride d.toNat) = none :=
    List.find?_eq_none.2 fun run hmem => Bool.eq_false_iff.1 (h run hmem)
  unfold lowerChar
  rw [hrun]

/-! ## Characters that lower case changes -/

/-- Lower case changes a character. -/
def IsChanged (c : Char) : Prop :=
  lowerAlone c ≠ [c]

instance (c : Char) : Decidable (IsChanged c) :=
  inferInstanceAs (Decidable (_ ≠ _))

/-- Lower case keeps a character exactly when the character is an image of itself. -/
theorem isImage_self_iff {c : Char} : IsImage c [c] ↔ ¬ IsChanged c := by
  unfold IsImage IsChanged
  rw [not_not]
  constructor
  · rintro (⟨rfl, hself⟩ | ⟨_, hself⟩)
    · exact absurd hself (by decide)
    · exact hself.symm
  · intro hself
    refine Or.inr ⟨?_, hself.symm⟩
    rintro rfl
    exact absurd hself (by decide +kernel)

/-- Lower case keeps the lower case of an ASCII letter. -/
theorem lowerAscii_lowerAscii (c : Char) : lowerAscii (lowerAscii c) = lowerAscii c := by
  by_cases hupper : 'A' ≤ c ∧ c ≤ 'Z'
  · have hleast : 65 ≤ c.toNat := hupper.1
    have hcode := toNat_lowerAscii hupper
    apply if_neg
    rintro ⟨_, hle⟩
    have hle : (lowerAscii c).toNat ≤ 90 := hle
    omega
  · have hkept : lowerAscii c = c := if_neg hupper
    rw [hkept, hkept]

/-- Lower case keeps what no run takes, apart from the one letter with two characters as its lower
case. -/
theorem IsOutside.not_isChanged {d : Char} (h : IsOutside d) (hdot : d ≠ '\u0130') : ¬ IsChanged d := by
  by_cases hascii : d.toNat < 0x80
  · refine isImage_self_iff.1 (isImage_self_of_ascii hascii (if_neg ?_))
    -- the run of the capitals of ASCII
    have hletters := h (0x41, 0x5A, 1, 32) (by decide)
    rintro ⟨hleast, hgreatest⟩
    have hleast : 65 ≤ d.toNat := hleast
    have hgreatest : d.toNat ≤ 90 := hgreatest
    simp only [inRun, hleast, hgreatest, decide_true, Nat.mod_one, beq_self_eq_true,
      Bool.and_self] at hletters
    cases hletters
  · unfold IsChanged lowerAlone
    rw [if_neg hascii, if_neg hdot, h.lowerChar_eq, not_not]

/-- Lower case keeps the characters of images. -/
theorem IsImage.not_isChanged {c d : Char} {image : List Char} (h : IsImage c image) (hd : d ∈ image) :
    ¬ IsChanged d := by
  rcases h with ⟨_, rfl | rfl⟩ | ⟨_, rfl⟩
  · rw [List.mem_singleton.1 hd]
    decide +kernel
  · rw [List.mem_singleton.1 hd]
    decide +kernel
  · unfold lowerAlone at hd
    split at hd
    · rename_i hascii
      rw [List.mem_singleton.1 hd]
      exact isImage_self_iff.1 (isImage_self_of_ascii (lowerAscii_lt hascii) (lowerAscii_lowerAscii c))
    · split at hd
      · rcases List.mem_pair.1 hd with rfl | rfl
        · decide
        · decide +kernel
      · rename_i hdot
        rw [List.mem_singleton.1 hd]
        refine (isOutside_lowerChar c).not_isChanged ?_
        exact lowerChar_ne (by decide) (by decide +kernel) fun hsame => absurd hsame hdot

/-- Lower case keeps the characters of a text in lower case. -/
theorem IsLowering.not_isChanged {text low : List Char} (h : IsLowering text low) {d : Char}
    (hd : d ∈ low) : ¬ IsChanged d := by
  induction h with
  | nil => exact absurd hd List.not_mem_nil
  | cons himage _ ih =>
    rcases List.mem_append.1 hd with hd | hd
    · exact himage.not_isChanged hd
    · exact ih hd

/-- A text is its own lower case exactly when lower case changes none of its characters. -/
theorem lower_eq_self_iff {text : String} : lower text = text ↔ ∀ c ∈ text.toList, ¬ IsChanged c := by
  constructor
  · exact fun h c hc => isImage_self_iff.1 (Route.isImage_of_lower_eq h hc)
  · exact fun h => Route.lower_eq_of_forall_isImage fun c hc => isImage_self_iff.2 (h c hc)

/-- Lower case is its own lower case. -/
theorem lower_lower (text : String) : lower (lower text) = lower text :=
  lower_eq_self_iff.2 fun _ => (isLowering_lower text).not_isChanged

/-- A character is a capital exactly when lower case changes it. -/
def IsRegular (c : Char) : Prop :=
  isUpper c = true ↔ IsChanged c

/-- The capitals of ASCII are the first run of capitals. -/
theorem isUpper_iff_of_ascii {c : Char} (h : c.toNat < 0x80) :
    isUpper c = true ↔ 'A' ≤ c ∧ c ≤ 'Z' := by
  have hruns : ∀ run ∈ Unicode.upperCaseRuns, run = (0x41, 0x5A, 1) ∨ 0x80 ≤ run.1 := by decide +kernel
  have hletters : inRun 0x41 0x5A 1 c.toNat = true ↔ 'A' ≤ c ∧ c ≤ 'Z' := by
    simp only [inRun, Nat.mod_one, beq_self_eq_true, Bool.and_true, Bool.and_eq_true, decide_eq_true_eq]
    exact Iff.rfl
  unfold isUpper
  rw [List.any_eq_true, ← hletters]
  constructor
  · rintro ⟨run, hrun, hin⟩
    rcases hruns run hrun with rfl | hbeyond
    · exact hin
    · simp only [inRun, Bool.and_eq_true, decide_eq_true_eq] at hin
      omega
  · exact fun hin => ⟨_, List.mem_cons_self, hin⟩

/-- In ASCII the capitals are the characters that lower case changes. -/
theorem isRegular_of_ascii {c : Char} (h : c.toNat < 0x80) : IsRegular c := by
  unfold IsRegular
  rw [isUpper_iff_of_ascii h]
  constructor
  · intro hupper
    unfold IsChanged lowerAlone
    rw [if_pos h]
    intro hkept
    have hcode := toNat_lowerAscii hupper
    rw [(List.cons.inj hkept).1] at hcode
    omega
  · intro hchanged
    by_contra hupper
    exact isImage_self_iff.1 (isImage_self_of_ascii h (if_neg hupper)) hchanged

end Case

namespace Route

open Case

/-- A character of a literal of a template. -/
def IsLiteralChar (template : String) (c : Char) : Prop :=
  ∃ text, Segment.literal text ∈ templateSegments template ∧ c ∈ text.toList

theorem mem_of_mem_dropFirst {c d : Char} {text : List Char} (h : d ∈ dropFirst c text) : d ∈ text := by
  cases text with
  | nil => exact h
  | cons e text =>
    rw [dropFirst] at h
    split at h
    · exact List.mem_cons_of_mem _ h
    · exact h

theorem mem_of_mem_dropLast {c d : Char} {text : List Char} (h : d ∈ dropLast c text) : d ∈ text :=
  List.mem_reverse.1 (mem_of_mem_dropFirst (List.mem_reverse.1 h))

/-- The characters of literals stand in the template. -/
theorem IsLiteralChar.mem {template : String} {c : Char} (h : IsLiteralChar template c) :
    c ∈ template.toList := by
  obtain ⟨text, hliteral, hc⟩ := h
  obtain ⟨part, hpart, hread⟩ := List.mem_map.1 hliteral
  have htext : part.toList = text.toList := by
    rw [← Segment.colon_ofText, hread]
    rfl
  obtain ⟨piece, hpiece, rfl⟩ := List.mem_map.1 hpart
  rw [String.toList_ofList] at htext
  have hjoin := Pieces.join_pieces '/' (dropLast '/' (dropFirst '/' template.toList))
  have hmem : c ∈ dropLast '/' (dropFirst '/' template.toList) :=
    hjoin ▸ Pieces.mem_join hpiece (htext ▸ hc)
  exact mem_of_mem_dropFirst (mem_of_mem_dropLast hmem)

theorem hasUpperLiteral_iff {template : String} :
    hasUpperLiteral template = true ↔ ∃ c, IsLiteralChar template c ∧ isUpper c = true := by
  unfold hasUpperLiteral
  rw [List.any_eq_true]
  constructor
  · rintro ⟨segment, hsegment, hupper⟩
    cases segment with
    | literal text =>
      obtain ⟨c, hc, hupper⟩ := List.any_eq_true.1 hupper
      exact ⟨c, ⟨text, hsegment, hc⟩, hupper⟩
    | parameter name => cases hupper
  · rintro ⟨c, ⟨text, hsegment, hc⟩, hupper⟩
    exact ⟨_, hsegment, List.any_eq_true.2 ⟨c, hc, hupper⟩⟩

theorem hasLowerLiterals_iff {template : String} :
    HasLowerLiterals template ↔ ∀ c, IsLiteralChar template c → ¬ IsChanged c := by
  unfold HasLowerLiterals
  constructor
  · rintro h c ⟨text, hsegment, hc⟩
    exact lower_eq_self_iff.1 (h text hsegment) c hc
  · intro h text hsegment
    exact lower_eq_self_iff.2 fun c hc => h c ⟨text, hsegment, hc⟩

/-- The parts of a path in lower case are their own lower case. -/
theorem lower_eq_of_mem_segments_lower {path part : String} (h : part ∈ segments (Case.lower path)) :
    Case.lower part = part := by
  obtain ⟨sent, hlowering⟩ := exists_isLowering_of_mem h
  exact lower_eq_self_iff.2 fun _ => hlowering.not_isChanged

namespace Index

/-- Some path resolves to the only template of an index exactly when its literals are in lower case. -/
theorem exists_resolve?_singleton_iff {template : String} :
    (∃ path captures, (ofList [template]).resolve? path = some ⟨template, captures⟩) ↔
      HasLowerLiterals template := by
  have hmem : template ∈ (ofList [template]).templates :=
    mem_templates_ofList.2 (List.mem_singleton.2 rfl)
  constructor
  · rintro ⟨path, captures, hresolve⟩ text hliteral
    have hfits := (fits_of_resolve?_eq_some hresolve).2
    exact lower_eq_of_mem_segments_lower (mem_of_fits hfits hliteral)
  · intro hlower
    refine (exists_resolve?_iff hmem hlower).2 fun other hother hlt => ?_
    have hsame := List.mem_singleton.1 (mem_templates_ofList.1 hother)
    exact absurd (hsame ▸ hlt) (String.lt_irrefl _)

/-- No path resolves in an index of one template exactly when lower case changes a character of its
literals. -/
theorem forall_resolve?_eq_none_iff {template : String} :
    (∀ path, (ofList [template]).resolve? path = none) ↔
      ∃ c, IsLiteralChar template c ∧ IsChanged c := by
  have hresolves : (∃ c, IsLiteralChar template c ∧ IsChanged c) ↔ ¬ HasLowerLiterals template := by
    rw [hasLowerLiterals_iff]
    push Not
    rfl
  rw [hresolves, ← exists_resolve?_singleton_iff]
  constructor
  · rintro h ⟨path, captures, hresolve⟩
    rw [h path] at hresolve
    cases hresolve
  · intro h path
    cases hresolve : (ofList [template]).resolve? path with
    | none => rfl
    | some resolution =>
      have hmem := (fits_of_resolve?_eq_some hresolve).1
      have hsame : resolution.template = template := List.mem_singleton.1 (mem_templates_ofList.1 hmem)
      refine absurd ⟨path, resolution.captures, ?_⟩ h
      rw [hresolve, ← hsame]

/-- No path resolves to a template exactly when lower case changes a character of its literals.  The
warning about literals in upper case is given for these templates, if the characters of the literals are
capitals exactly where lower case changes them. -/
theorem hasUpperLiteral_iff_forall_resolve?_eq_none {template : String} :
    ((∀ path, (ofList [template]).resolve? path = none) ↔
      ∃ c, IsLiteralChar template c ∧ IsChanged c) ∧
    ((∀ c, IsLiteralChar template c → IsRegular c) →
      (hasUpperLiteral template = true ↔ ∀ path, (ofList [template]).resolve? path = none)) := by
  refine ⟨forall_resolve?_eq_none_iff, fun hregular => ?_⟩
  rw [forall_resolve?_eq_none_iff, hasUpperLiteral_iff]
  exact exists_congr fun c => and_congr_right (hregular c)

/-- The hypothesis is satisfied by templates in ASCII: one with a capital, to which no path resolves, and
one whose only capital stands in the name of a parameter. -/
theorem users_hasUpperLiteral_iff_forall_resolve?_eq_none :
    (∀ c ∈ "/Users/:id".toList, c.toNat < 0x80) ∧ hasUpperLiteral "/Users/:id" = true ∧
      (∀ path, (ofList ["/Users/:id"]).resolve? path = none) ∧
    (∀ c ∈ "/users/:userId".toList, c.toNat < 0x80) ∧ hasUpperLiteral "/users/:userId" = false ∧
      ∃ path, (ofList ["/users/:userId"]).resolve? path ≠ none := by
  have hupper : ∀ c ∈ "/Users/:id".toList, c.toNat < 0x80 :=
    List.all_iff_forall_prop.1 (by decide)
  have hlower : ∀ c ∈ "/users/:userId".toList, c.toNat < 0x80 :=
    List.all_iff_forall_prop.1 (by decide)
  have hflagged : hasUpperLiteral "/Users/:id" = true := by decide +kernel
  have hunflagged : hasUpperLiteral "/users/:userId" = false := by decide +kernel
  refine ⟨hupper, hflagged, ?_, hlower, hunflagged, ?_⟩
  · have hregular : ∀ c, IsLiteralChar "/Users/:id" c → IsRegular c := fun c hc =>
      isRegular_of_ascii (hupper c hc.mem)
    exact (hasUpperLiteral_iff_forall_resolve?_eq_none.2 hregular).1 hflagged
  · have hregular : ∀ c, IsLiteralChar "/users/:userId" c → IsRegular c := fun c hc =>
      isRegular_of_ascii (hlower c hc.mem)
    rw [← not_forall, ← hasUpperLiteral_iff_forall_resolve?_eq_none.2 hregular, hunflagged]
    exact Bool.false_ne_true

/-- A mathematical capital has no lower case: its template is warned about, and the path that repeats it
resolves.  A letter in title case has a lower case and is no capital: its template is not warned about,
and no path resolves. -/
theorem mathematical_and_titlecase :
    (hasUpperLiteral "/𝐀" = true ∧ (ofList ["/𝐀"]).resolve? "/𝐀" = some ⟨"/𝐀", []⟩) ∧
      hasUpperLiteral "/\u01C5" = false ∧ ∀ path, (ofList ["/\u01C5"]).resolve? path = none := by
  have htitle : IsLiteralChar "/\u01C5" '\u01C5' := ⟨"\u01C5", by decide, by decide⟩
  refine ⟨⟨by decide +kernel, rfl⟩, by decide +kernel, ?_⟩
  exact forall_resolve?_eq_none_iff.2 ⟨_, htitle, by decide +kernel⟩

end Index
end Route
end RequestGate
