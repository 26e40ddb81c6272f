import Mathlib.Data.List.Forall2
import RequestGate.Proofs.ByteOrder
import RequestGate.Proofs.Fields
import RequestGate.Proofs.PlainKey
import RequestGate.Proofs.Resolution

/-!
# The greatest match

A template matches a path when it has as many segments as the path in lower case, repeats them with its
literals and has no parameter where one is empty.  An index resolves a path to the greatest of its
templates that match, in the order of their bytes.  The values of the parameters come from the path as
it was sent.

Main results:

- Theorem `Route.map_fst_named`: the names of the values are those of the parameters, in their order.
- Theorem `Route.lastOf_named`: of parameters with one name, the last one gives the value.
- Theorem `Route.capture?_eq_some_iff_matches`: a template captures from the paths that it matches.
- Theorem `Route.Index.resolve?_greatestMatch`: what a path resolves to is the greatest match, and it
  resolves to nothing only if nothing matches.
-/

namespace RequestGate
namespace Route

/-! ## Values of parameters -/

/-- The name of a parameter. -/
def Segment.name? : Segment → Option String
  | parameter name => some name
  | literal _ => none

theorem mem_filterMap_name? {segments : List Segment} {name : String} :
    name ∈ segments.filterMap Segment.name? ↔ .parameter name ∈ segments := by
  have hname : ∀ segment : Segment, segment.name? = some name ↔ segment = .parameter name := by
    intro segment
    cases segment <;> simp [Segment.name?]
  simp [List.mem_filterMap, hname]

/-- The value that a part of a path has by the segment that it stands at. -/
def namedPart? (entry : Segment × String) : Option (String × String) :=
  entry.1.name?.map fun name => (name, Percent.decodeText entry.2)

theorem named_eq_filterMap (segments : List Segment) (parts : List String) :
    named segments parts = (segments.zip parts).filterMap namedPart? := by
  induction segments generalizing parts with
  | nil => rfl
  | cons segment segments ih =>
    cases parts with
    | nil => cases segment <;> rfl
    | cons part parts =>
      cases segment with
      | literal text =>
        have hnone : namedPart? (.literal text, part) = none := rfl
        rw [List.zip_cons_cons, List.filterMap_cons_none hnone]
        exact ih parts
      | parameter name => simpa [named, namedPart?, Segment.name?] using ih parts

/-- As many parts as segments have a value for every parameter, in the order of the parameters. -/
theorem map_fst_named {segments : List Segment} {parts : List String}
    (hlength : segments.length = parts.length) :
    (named segments parts).map Prod.fst = segments.filterMap Segment.name? := by
  have hname : ∀ entry : Segment × String, (namedPart? entry).map Prod.fst = entry.1.name? := by
    intro entry
    simp [namedPart?, Function.comp_def]
  rw [named_eq_filterMap, List.map_filterMap]
  simp only [hname]
  rw [← Function.comp_def Segment.name? Prod.fst, ← List.filterMap_map,
    List.map_fst_zip (Nat.le_of_eq hlength)]

/-- The last value of a name is the decoded part at the last parameter that is called so. -/
theorem lastOf_named (name : String) (segments : List Segment) (parts : List String) :
    Fields.lastOf name (named segments parts) =
      ((segments.zip parts).filter fun entry => entry.1 = .parameter name).getLast?.map fun entry =>
        Percent.decodeText entry.2 := by
  have hfilter : (named segments parts).filter (fun entry => entry.1 = name) =
      ((segments.zip parts).filter fun entry => entry.1 = .parameter name).map fun entry =>
        (name, Percent.decodeText entry.2) := by
    rw [named_eq_filterMap, List.filter_filterMap, ← List.filterMap_eq_map, List.filterMap_filter]
    refine List.filterMap_congr fun entry _ => ?_
    obtain ⟨segment, part⟩ := entry
    cases segment with
    | literal text => simp [namedPart?, Segment.name?]
    | parameter other => by_cases hother : other = name <;> simp [namedPart?, Segment.name?, hother]
  unfold Fields.lastOf
  rw [hfilter, List.getLast?_map, Option.map_map]
  rfl

/-! ## Matching -/

/-- A template matches a path: it has as many segments as the path in lower case, every literal is
the segment in its place, and no parameter stands for an empty one. -/
structure Matches (template path : String) : Prop where
  length : (templateSegments template).length = (segments (Case.lower path)).length
  literal : ∀ (i : Nat) (text : String), (templateSegments template)[i]? = some (.literal text) →
    (segments (Case.lower path))[i]? = some text
  parameter : ∀ (i : Nat) (name : String), (templateSegments template)[i]? = some (.parameter name) →
    (segments (Case.lower path))[i]? ≠ some ""

theorem Segment.fits_literal_iff {text part : String} :
    (Segment.literal text).fits part = true ↔ part = text := by
  have hfits : (Segment.literal text).fits part = decide (text = part) := rfl
  rw [hfits, decide_eq_true_iff, eq_comm]

theorem Segment.fits_parameter_iff {name part : String} :
    (Segment.parameter name).fits part = true ↔ part ≠ "" :=
  decide_eq_true_iff

/-- Segments fit as many parts, with their literals in place and nothing empty at a parameter. -/
theorem fits_iff_getElem? {segments : List Segment} {parts : List String} :
    fits segments parts = true ↔ segments.length = parts.length ∧
      (∀ (i : Nat) (text : String), segments[i]? = some (.literal text) → parts[i]? = some text) ∧
      ∀ (i : Nat) (name : String), segments[i]? = some (.parameter name) → parts[i]? ≠ some "" := by
  rw [fits_eq_true_iff, List.forall₂_iff_get]
  simp only [List.get_eq_getElem]
  refine and_congr_right fun hlength => ⟨fun hfits => ⟨?_, ?_⟩, ?_⟩
  · intro i text htext
    obtain ⟨hi, hsegment⟩ := List.getElem?_eq_some_iff.1 htext
    have hpart := hfits i hi (hlength ▸ hi)
    rw [hsegment, Segment.fits_literal_iff] at hpart
    rw [← hpart, List.getElem?_eq_getElem]
  · intro i name hname
    obtain ⟨hi, hsegment⟩ := List.getElem?_eq_some_iff.1 hname
    have hpart := hfits i hi (hlength ▸ hi)
    rw [hsegment, Segment.fits_parameter_iff] at hpart
    rwa [List.getElem?_eq_getElem (hlength ▸ hi), Ne, Option.some.injEq]
  · rintro ⟨hliteral, hparameter⟩ i hi hpart
    have hsegment := List.getElem?_eq_getElem hi
    cases hkind : segments[i] with
    | literal text =>
      have htext := hliteral i text (hkind ▸ hsegment)
      rwa [List.getElem?_eq_getElem hpart, Option.some.injEq, ← Segment.fits_literal_iff] at htext
    | parameter name =>
      have hname := hparameter i name (hkind ▸ hsegment)
      rwa [List.getElem?_eq_getElem hpart, Ne, Option.some.injEq, ← Ne,
        ← @Segment.fits_parameter_iff name] at hname

/-- Segments of a template fit the parts of a path exactly when the template matches the path. -/
theorem fits_iff_matches {template path : String} :
    fits (templateSegments template) (segments (Case.lower path)) = true ↔ Matches template path := by
  rw [fits_iff_getElem?]
  exact ⟨fun ⟨hlength, hliteral, hparameter⟩ => ⟨hlength, hliteral, hparameter⟩,
    fun h => ⟨h.length, h.literal, h.parameter⟩⟩

/-! ## The greatest match -/

/-- Captures have the names of the parameters in their order, each once, and for every name the decoded
segment of the path, as it was sent, at the last parameter that is called so. -/
structure AreCaptures (template path : String) (captures : Captures) : Prop where
  names : captures.names = ((templateSegments template).filterMap Segment.name?).eraseDups
  values : ∀ name, Fields.get? name captures =
    (((templateSegments template).zip (segments path)).filter fun entry =>
      entry.1 = .parameter name).getLast?.map fun entry => Percent.decodeText entry.2

/-- A resolution is the greatest template, by its bytes, of those that match a path, with the values of
its parameters. -/
structure IsGreatestMatch (templates : List String) (path : String) (resolution : Resolution) :
    Prop where
  mem : resolution.template ∈ templates
  isMatch : Matches resolution.template path
  greatest : ∀ other ∈ templates, Matches other path →
    Utf8.encode other ≤ Utf8.encode resolution.template
  captures : AreCaptures resolution.template path resolution.captures

theorem AreCaptures.distinct {template path : String} {captures : Captures}
    (h : AreCaptures template path captures) : captures.Distinct := by
  unfold Fields.Distinct
  rw [h.names]
  exact Fields.nodup_eraseDups _

/-- The names and the values determine the captures. -/
theorem AreCaptures.unique {template path : String} {first second : Captures}
    (hfirst : AreCaptures template path first) (hsecond : AreCaptures template path second) :
    first = second := by
  apply Fields.eq_of_names_eq hfirst.distinct
  · rw [hfirst.names, hsecond.names]
  · intro name
    rw [hfirst.values, hsecond.values]

/-- Of a template that matches, the named parts of the path are the captures. -/
theorem areCaptures_of_matches {template path : String} (h : Matches template path) :
    AreCaptures template path (Fields.ofList (named (templateSegments template) (segments path))) := by
  constructor
  · rw [Fields.names_ofList, map_fst_named (h.length.trans (length_segments_lower path))]
  · intro name
    rw [Fields.get?_ofList, lastOf_named]

/-- A template captures exactly when it matches: the number of segments never stands in the way. -/
theorem capture?_eq_some_iff_matches {template path : String} {captures : Captures} :
    capture? template (segments (Case.lower path)) (segments path) = some captures ↔
      Matches template path ∧ AreCaptures template path captures := by
  rw [capture?_eq_some_iff, fits_iff_matches]
  constructor
  · rintro ⟨⟨hmatches, _⟩, rfl⟩
    exact ⟨hmatches, areCaptures_of_matches hmatches⟩
  · rintro ⟨hmatches, hcaptures⟩
    exact ⟨⟨hmatches, length_segments_lower path⟩,
      (areCaptures_of_matches hmatches).unique hcaptures⟩

namespace Index

variable {templates : List String} {path : String}

/-- What a path resolves to is the greatest match. -/
theorem isGreatestMatch_of_resolve? {resolution : Resolution}
    (h : (ofList templates).resolve? path = some resolution) :
    IsGreatestMatch templates path resolution := by
  have hfound := h
  unfold resolve? at hfound
  obtain ⟨template, hmem, hfound⟩ := List.exists_of_findSome?_eq_some hfound
  obtain ⟨captures, hcapture, rfl⟩ := Option.map_eq_some_iff.1 hfound
  obtain ⟨hmatches, hcaptures⟩ := capture?_eq_some_iff_matches.1 hcapture
  refine ⟨mem_templates_ofList.1 hmem, hmatches, fun other hother hmatch => ?_, hcaptures⟩
  rcases le_of_resolve?_eq_some h (mem_templates_ofList.2 hother) (fits_iff_matches.2 hmatch) with
    rfl | hlt
  · exact List.le_refl _
  · exact List.le_of_lt (Utf8.encode_lt_encode_iff.2 hlt)

/-- The greatest match is what a path resolves to. -/
theorem resolve?_of_isGreatestMatch {resolution : Resolution}
    (h : IsGreatestMatch templates path resolution) :
    (ofList templates).resolve? path = some resolution := by
  have hgreatest : ∀ other ∈ (ofList templates).templates,
      fits (templateSegments other) (segments (Case.lower path)) = true →
        ¬ resolution.template < other := by
    intro other hother hfits hlt
    have hle := h.greatest other (mem_templates_ofList.1 hother) (fits_iff_matches.1 hfits)
    exact List.not_le.2 (Utf8.encode_lt_encode_iff.2 hlt) hle
  obtain ⟨captures, hresolve⟩ := (exists_resolve?_eq_some_iff (mem_templates_ofList.2 h.mem)).2
    ⟨fits_iff_matches.2 h.isMatch, hgreatest⟩
  have hcaptures : captures = resolution.captures :=
    (isGreatestMatch_of_resolve? hresolve).captures.unique h.captures
  rw [hresolve, hcaptures]

/-- A path resolves to something exactly when some template matches it. -/
theorem exists_resolve?_iff_matches :
    (∃ resolution, (ofList templates).resolve? path = some resolution) ↔
      ∃ template ∈ templates, Matches template path := by
  constructor
  · rintro ⟨resolution, h⟩
    exact ⟨_, (isGreatestMatch_of_resolve? h).mem, (isGreatestMatch_of_resolve? h).isMatch⟩
  · rintro ⟨template, hmem, hmatches⟩
    exact Option.isSome_iff_exists.1
      (resolve?_isSome_of_fits (mem_templates_ofList.2 hmem) (fits_iff_matches.2 hmatches))

/-- A path resolves to the greatest template that matches it, with the values of its parameters, and to
nothing exactly when none matches.  Since lower case keeps the number of segments, every template that
matches has captures. -/
theorem resolve?_greatestMatch (templates : List String) (path : String) :
    ((ofList templates).resolve? path = none ↔ ∀ template ∈ templates, ¬ Matches template path) ∧
    (∀ resolution, (ofList templates).resolve? path = some resolution ↔
      IsGreatestMatch templates path resolution) ∧
    (segments (Case.lower path)).length = (segments path).length ∧
    ∀ template, (capture? template (segments (Case.lower path)) (segments path)).isSome = true ↔
      Matches template path := by
  refine ⟨?_, fun resolution => ⟨isGreatestMatch_of_resolve?, resolve?_of_isGreatestMatch⟩,
    length_segments_lower path, fun template => ?_⟩
  · rw [← Option.not_isSome_iff_eq_none, Option.isSome_iff_exists, exists_resolve?_iff_matches]
    simp only [not_exists, not_and]
  · rw [Option.isSome_iff_exists]
    simp only [capture?_eq_some_iff_matches]
    exact ⟨fun ⟨_, hmatches, _⟩ => hmatches,
      fun hmatches => ⟨_, hmatches, areCaptures_of_matches hmatches⟩⟩

/-- A literal that starts with a letter is preferred to a parameter. -/
example : (ofList ["/users/:id", "/users/me"]).resolve? "/Users/Me/" = some ⟨"/users/me", []⟩ := rfl

end Index

end Route
end RequestGate
