import Mathlib.Data.Bool.AllAny
import RequestGate.Proofs.GreatestMatch
import RequestGate.Proofs.TextEncoding

/-!
# Paths that are built from a template

A path is built from a template by writing its literals, with their ASCII letters in any case, and a
value for every parameter, with an escape for every byte that is no ASCII letter or digit.  An escaped
value has no slash, so the path has the segments that were written.  In lower case its literals are those
of the template, and the values are taken from the path as it was sent: what was written is captured,
whatever characters the values have.

Main results:

- Theorem `Case.IsLowering.eq_of_lowerAsciiText`: the case of ASCII letters makes no difference in lower
  case.
- Theorem `Percent.decodeText_encodeText`: a text that is escaped is decoded to the text.
- Theorem `Route.Blueprint.templateSegments_text`: a template is read to the segments it is written with.
- Theorem `Route.Blueprint.capture?_of_isBuilt`: the values that a path is built with are captured.
-/

namespace RequestGate
namespace Case

/-! ## Literals in another case -/

/-- The image of a character is its ASCII lower case, where lower case keeps that. -/
theorem IsImage.eq_lowerAscii {c : Char} {image : List Char} (h : IsImage c image)
    (hself : IsImage (lowerAscii c) [lowerAscii c]) : image = [lowerAscii c] := by
  by_cases hascii : c.toNat < 0x80
  · rcases h with ⟨rfl, _⟩ | ⟨_, rfl⟩
    · exact absurd hascii (by decide)
    · exact if_pos hascii
  · have hkept : lowerAscii c = c := by
      apply if_neg
      rintro ⟨_, hle⟩
      have hle : c.toNat ≤ 90 := hle
      omega
    rw [hkept] at hself ⊢
    exact hself.eq_of_self h

theorem IsLowering.eq_map_lowerAscii {text low : List Char} (h : IsLowering text low)
    (hself : ∀ c ∈ text, IsImage (lowerAscii c) [lowerAscii c]) : low = text.map lowerAscii := by
  induction h with
  | nil => rfl
  | cons himage _ ih =>
    rw [List.forall_mem_cons] at hself
    rw [himage.eq_lowerAscii hself.1, ih hself.2]
    rfl

/-- A text that is its own lower case is also the lower case of what differs from it in the case of
ASCII letters. -/
theorem IsLowering.eq_of_lowerAsciiText {text written : String} {low : List Char}
    (h : IsLowering written.toList low) (hwritten : lowerAsciiText written = text)
    (hlower : lower text = text) : low = text.toList := by
  have htext : written.toList.map lowerAscii = text.toList := by
    rw [← hwritten]
    exact String.toList_ofList.symm
  rw [← htext]
  refine h.eq_map_lowerAscii fun c hc => ?_
  have hmem : lowerAscii c ∈ text.toList := htext ▸ List.mem_map_of_mem hc
  exact (isLowering_lower text).isImage_self_of_mem (congrArg String.toList hlower) hmem

/-- A text of ASCII without capitals is its own lower case. -/
theorem lower_eq_self_of_ascii {text : String}
    (h : ∀ c ∈ text.toList, c.toNat < 0x80 ∧ lowerAscii c = c) : lower text = text := by
  apply String.toList_inj.1
  refine (isLowering_lower text).eq_of_isImage_self fun c hc => ?_
  exact isImage_self_of_ascii (h c hc).1 (h c hc).2

end Case

namespace Percent

/-! ## Escaped values -/

/-- A text with an escape for every byte but the ASCII letters and digits. -/
def encodeText (text : String) : String :=
  encode (Utf8.encode text)

/-- A text that is escaped is decoded to the text. -/
theorem decodeText_encodeText (text : String) : decodeText (encodeText text) = text := by
  unfold decodeText encodeText
  rw [decode_encode, Utf8.decodeLossy_encode]

theorem encodeText_ne_empty {text : String} (h : text ≠ "") : encodeText text ≠ "" := by
  intro hempty
  have hdecoded : decodeText (encodeText text) = decodeText (encodeText "") :=
    congrArg decodeText hempty
  rw [decodeText_encodeText, decodeText_encodeText] at hdecoded
  exact h hdecoded

theorem slash_notMem_encodeText (text : String) : '/' ∉ (encodeText text).toList := by
  intro hslash
  rcases mem_encode hslash with hslash | hslash
  · exact absurd hslash (by decide)
  · exact absurd hslash (by decide)

end Percent

namespace Route

open Pieces

/-! ## Writing segments -/

namespace Segment

/-- A segment that a template can be written with: a literal in lower case or a named parameter, neither
with a slash.  A literal that starts with a colon would be read as a parameter. -/
def IsWritable : Segment → Prop
  | literal text =>
    text ≠ "" ∧ '/' ∉ text.toList ∧ text.toList.head? ≠ some ':' ∧ Case.lower text = text
  | parameter name => name ≠ "" ∧ '/' ∉ name.toList

/-- A part of a path is written for a segment: a literal with its ASCII letters in any case, the value of
a parameter with escapes. -/
def IsWrittenAs (values : String → String) : Segment → String → Prop
  | literal text, part => Case.lowerAsciiText part = text
  | parameter name, part => part = Percent.encodeText (values name)

variable {segment : Segment} {part : String} {values : String → String}

theorem IsWritable.colon_ne_nil (h : segment.IsWritable) : segment.colon ≠ [] := by
  cases segment with
  | literal text => exact toList_ne_nil h.1
  | parameter name => exact List.cons_ne_nil _ _

theorem IsWritable.slash_notMem_colon (h : segment.IsWritable) : '/' ∉ segment.colon := by
  cases segment with
  | literal text => exact h.2.1
  | parameter name =>
    intro hmem
    rcases List.mem_cons.1 hmem with hslash | hmem
    · exact absurd hslash (by decide)
    · exact h.2 hmem

/-- A text that does not start with a colon is a literal. -/
theorem ofText_literal {text : String} (h : text.toList.head? ≠ some ':') :
    ofText text = literal text := by
  unfold ofText
  split
  · rename_i hcolon
    rw [hcolon] at h
    exact absurd rfl h
  · rfl

theorem IsWritable.ofText_colon (h : segment.IsWritable) :
    ofText (String.ofList segment.colon) = segment := by
  cases segment with
  | literal text =>
    have htext : String.ofList (literal text).colon = text := String.ofList_toList
    rw [htext]
    exact ofText_literal h.2.2.1
  | parameter name => exact ofText_parameter h.1

/-- What is written for a segment is a part of a path: it is not empty and has no slash. -/
theorem IsWrittenAs.isPart (h : segment.IsWrittenAs values part) (hwritable : segment.IsWritable)
    (hvalue : ∀ name, segment.name? = some name → values name ≠ "") :
    part.toList ≠ [] ∧ '/' ∉ part.toList := by
  cases segment with
  | literal text =>
    have htext : part.toList.map Case.lowerAscii = text.toList := by
      rw [← show Case.lowerAsciiText part = text from h]
      exact String.toList_ofList.symm
    constructor
    · intro hnil
      rw [hnil] at htext
      exact toList_ne_nil hwritable.1 htext.symm
    · intro hslash
      have hmem : Case.lowerAscii '/' ∈ text.toList := htext ▸ List.mem_map_of_mem hslash
      exact hwritable.2.1 hmem
  | parameter name =>
    rw [show part = Percent.encodeText (values name) from h]
    exact ⟨toList_ne_nil (Percent.encodeText_ne_empty (hvalue name rfl)),
      Percent.slash_notMem_encodeText _⟩

/-- A segment fits what is written for it in lower case. -/
theorem IsWrittenAs.fits_lower {low : String} (h : segment.IsWrittenAs values part)
    (hwritable : segment.IsWritable) (hpart : part.toList ≠ [])
    (hlow : Case.IsLowering part.toList low.toList) : segment.fits low = true := by
  cases segment with
  | literal text =>
    have hsame : low.toList = text.toList := hlow.eq_of_lowerAsciiText h hwritable.2.2.2
    exact fits_literal_iff.2 (String.toList_inj.1 hsame)
  | parameter name =>
    rw [fits_parameter_iff]
    rintro rfl
    exact hlow.ne_nil hpart rfl

end Segment

/-- Segments fit what is written for them in lower case. -/
theorem fits_of_isWrittenAs {values : String → String} {segments : List Segment}
    {parts lowered : List String}
    (hwritten : List.Forall₂ (fun segment part => segment.IsWritable ∧
      segment.IsWrittenAs values part ∧ part.toList ≠ []) segments parts)
    (hlowered : List.Forall₂ (fun part low : String => Case.IsLowering part.toList low.toList)
      parts lowered) : fits segments lowered = true := by
  rw [fits_eq_true_iff]
  induction hwritten generalizing lowered with
  | nil =>
    cases hlowered
    exact .nil
  | cons hsegment _ ih =>
    cases hlowered with
    | cons hlow hrest => exact .cons (hsegment.2.1.fits_lower hsegment.1 hsegment.2.2 hlow) (ih hrest)

/-- The values of parameters are decoded from what was written for them. -/
theorem named_of_isWrittenAs {values : String → String} {segments : List Segment}
    {parts : List String} (h : List.Forall₂ (Segment.IsWrittenAs values) segments parts) :
    named segments parts = (segments.filterMap Segment.name?).map fun name => (name, values name) := by
  induction h with
  | nil => rfl
  | @cons segment part segments parts hpart _ ih =>
    cases segment with
    | literal text => exact ih
    | parameter name =>
      rw [show part = Percent.encodeText (values name) from hpart, named, Percent.decodeText_encodeText,
        ih]
      rfl

/-! ## Templates and paths -/

/-- Parts that each stand behind a slash are the segments, if they are not empty and have no slash. -/
theorem segments_eq_of_toList {path : String} {parts : List (List Char)} {slash : Bool}
    (hne : parts ≠ []) (hpath : path.toList = slashed parts ++ ending slash)
    (hparts : ∀ part ∈ parts, part ≠ [] ∧ '/' ∉ part) :
    segments path = parts.map String.ofList := by
  cases parts with
  | nil => exact absurd rfl hne
  | cons first rest => exact segments_slashed hpath hparts

/-- The segments of a template that is to be written: there is one, and no two parameters have one
name. -/
structure Blueprint where
  segments : List Segment
  nonempty : segments ≠ []
  isWritable : ∀ segment ∈ segments, segment.IsWritable
  distinct : (segments.filterMap Segment.name?).Nodup

namespace Blueprint

/-- The names of the parameters, in order. -/
def names (blueprint : Blueprint) : List String :=
  blueprint.segments.filterMap Segment.name?

/-- The template: every segment behind a slash. -/
def text (blueprint : Blueprint) : String :=
  String.ofList (slashed (blueprint.segments.map Segment.colon))

/-- A path is built with values for the parameters: every part behind a slash, and possibly a slash at
the end. -/
def IsBuilt (blueprint : Blueprint) (values : String → String) (path : String) : Prop :=
  ∃ parts slash, List.Forall₂ (Segment.IsWrittenAs values) blueprint.segments parts ∧
    path.toList = slashed (parts.map String.toList) ++ ending slash

/-- A template is read to the segments that it is written with. -/
theorem templateSegments_text (blueprint : Blueprint) :
    templateSegments blueprint.text = blueprint.segments := by
  have htext : blueprint.text.toList =
      slashed (blueprint.segments.map Segment.colon) ++ ending false := by
    rw [show ending false = [] from rfl, List.append_nil]
    exact String.toList_ofList
  have hparts : ∀ part ∈ blueprint.segments.map Segment.colon, part ≠ [] ∧ '/' ∉ part := by
    intro part hpart
    obtain ⟨segment, hsegment, rfl⟩ := List.mem_map.1 hpart
    have hwritable := blueprint.isWritable segment hsegment
    exact ⟨hwritable.colon_ne_nil, hwritable.slash_notMem_colon⟩
  have hne : blueprint.segments.map Segment.colon ≠ [] := fun hnil =>
    blueprint.nonempty (List.map_eq_nil_iff.1 hnil)
  unfold templateSegments
  rw [segments_eq_of_toList hne htext hparts, List.map_map, List.map_map]
  refine (List.map_congr_left fun segment hsegment => ?_).trans (List.map_id _)
  exact (blueprint.isWritable segment hsegment).ofText_colon

/-- The values that a path is built with are captured from it, in the order of the template. -/
theorem capture?_of_isBuilt {blueprint : Blueprint} {values : String → String} {path : String}
    (hvalues : ∀ name ∈ blueprint.names, values name ≠ "") (hpath : blueprint.IsBuilt values path) :
    capture? blueprint.text (Route.segments (Case.lower path)) (Route.segments path) =
      some (blueprint.names.map fun name => (name, values name)) := by
  obtain ⟨parts, slash, hwritten, hpath⟩ := hpath
  have hall : ∀ segment ∈ blueprint.segments, segment.IsWritable ∧
      ∀ name, segment.name? = some name → values name ≠ "" := fun segment hsegment =>
    ⟨blueprint.isWritable segment hsegment, fun name hname =>
      hvalues name (List.mem_filterMap.2 ⟨segment, hsegment, hname⟩)⟩
  have hparts : List.Forall₂ (fun segment part => segment.IsWritable ∧
      segment.IsWrittenAs values part ∧ part.toList ≠ [] ∧ '/' ∉ part.toList)
      blueprint.segments parts :=
    ((List.forall₂_and_left _ _).2 ⟨hall, hwritten⟩).imp fun _ _ h =>
      ⟨h.1.1, h.2, h.2.isPart h.1.1 h.1.2⟩
  have hsegments : Route.segments path = parts := by
    have hne : parts.map String.toList ≠ [] := by
      intro hnil
      rw [List.map_eq_nil_iff.1 hnil, List.forall₂_nil_right_iff] at hwritten
      exact blueprint.nonempty hwritten
    have hpart : ∀ part ∈ parts.map String.toList, part ≠ [] ∧ '/' ∉ part := by
      rw [List.forall_mem_map]
      exact ((List.forall₂_and_left _ _).1 (hparts.flip.imp fun _ _ h => ⟨h.2.2, h⟩)).1
    rw [segments_eq_of_toList hne hpath hpart, List.map_map]
    exact (List.map_congr_left fun part _ => String.ofList_toList).trans (List.map_id _)
  have hfits : fits blueprint.segments (Route.segments (Case.lower path)) = true :=
    fits_of_isWrittenAs (hparts.imp fun _ _ h => ⟨h.1, h.2.1, h.2.2.1⟩)
      (hsegments ▸ segments_lower path)
  refine capture?_eq_some_iff.2 ⟨⟨?_, length_segments_lower path⟩, ?_⟩
  · rw [templateSegments_text, hfits]
  · rw [templateSegments_text, hsegments, named_of_isWrittenAs hwritten]
    apply Fields.ofList_of_distinct
    unfold Fields.Distinct Fields.names
    rw [List.map_map]
    exact (List.map_id _).symm ▸ blueprint.distinct

/-- The blueprint of a template with two parameters. -/
def files : Blueprint where
  segments := [.literal "users", .parameter "id", .literal "files", .parameter "name"]
  nonempty := List.cons_ne_nil _ _
  isWritable := by
    intro segment hsegment
    simp only [List.mem_cons, List.not_mem_nil, or_false] at hsegment
    rcases hsegment with rfl | rfl | rfl | rfl
    · exact ⟨by decide, by decide, by decide, Case.lower_eq_self_of_ascii (List.all_iff_forall_prop.1 (by decide))⟩
    · exact ⟨by decide, by decide⟩
    · exact ⟨by decide, by decide, by decide, Case.lower_eq_self_of_ascii (List.all_iff_forall_prop.1 (by decide))⟩
    · exact ⟨by decide, by decide⟩
  distinct := by decide

/-- The hypotheses are satisfied by values with a slash, a percent sign, a blank, capitals and a letter
beyond ASCII, in a path with literals in another case and a slash at its end. -/
theorem files_capture?_of_isBuilt :
    files.text = "/users/:id/files/:name" ∧
    capture? "/users/:id/files/:name"
        (Route.segments (Case.lower "/Users/%C3%89va%2F100%25/FILES/a%20B%2ETXT/"))
        (Route.segments "/Users/%C3%89va%2F100%25/FILES/a%20B%2ETXT/") =
      some [("id", "Éva/100%"), ("name", "a B.TXT")] := by
  let values : String → String := fun name => if name = "id" then "Éva/100%" else "a B.TXT"
  have hvalues : ∀ name ∈ files.names, values name ≠ "" := by decide
  have hid : "%C3%89va%2F100%25" = Percent.encodeText "Éva/100%" := by decide +kernel
  have hname : "a%20B%2ETXT" = Percent.encodeText "a B.TXT" := by decide +kernel
  have hfirst : Case.lowerAsciiText "Users" = "users" := by decide
  have hthird : Case.lowerAsciiText "FILES" = "files" := by decide
  have hbuilt : files.IsBuilt values "/Users/%C3%89va%2F100%25/FILES/a%20B%2ETXT/" :=
    ⟨["Users", "%C3%89va%2F100%25", "FILES", "a%20B%2ETXT"], true,
      .cons hfirst (.cons hid (.cons hthird (.cons hname .nil))), by decide⟩
  have htext : files.text = "/users/:id/files/:name" := by decide
  have hcaptures : files.names.map (fun name => (name, values name)) =
      [("id", "Éva/100%"), ("name", "a B.TXT")] := by decide
  have hcapture := capture?_of_isBuilt hvalues hbuilt
  rw [htext, hcaptures] at hcapture
  exact ⟨htext, hcapture⟩

end Blueprint
end Route
end RequestGate
