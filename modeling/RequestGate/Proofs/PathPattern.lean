import Mathlib.Data.List.TakeWhile
import RequestGate.Http.PathPattern
import RequestGate.Proofs.PlainKey

/-!
# Patterns of plain path keys

The server reads a plain path key to a pattern of its segments, so a pattern matches a path exactly
when the segments take its parts.  Of two patterns that match a path, the server prefers the one that
has a literal first.

Main results:

- Theorem `Http.PathPattern.ofTemplate?_text`: the pattern that a plain key is read to.
- Theorem `Http.PathPattern.isMatch_pattern_iff`: the pattern of a key matches what its segments take.
- Theorem `Http.PathPattern.isPreferred_trans`: preference is transitive.
- Theorem `Http.PathPattern.isPreferred_pattern_of_beats`: the key that has a literal first is
  preferred.
-/

namespace RequestGate

open Pieces Route

/-- The parts of a pattern that a segment stands for. -/
def Route.Segment.patternParts : Segment → Http.PathPattern
  | literal text => text.toList.map .literal
  | parameter _ => [.parameter]

/-- The pattern of segments, each after a slash. -/
def Route.patternOf (segments : List Segment) : Http.PathPattern :=
  segments.flatMap fun segment => .literal '/' :: segment.patternParts

/-- The pattern of a plain key. -/
def Route.PlainKey.pattern (key : PlainKey) : Http.PathPattern :=
  patternOf key.segments ++ (ending key.slash).map .literal

namespace Http
namespace PathPattern

/-! ## Reading keys -/

theorem parts?_unescape_cons {c : Char} (h : c ≠ '\x7b' ∧ c ≠ '\x7d') (rest : List Char) :
    parts? .outside (unescape (c :: rest)) =
      (parts? .outside (unescape rest)).map (.literal c :: ·) := by
  have hunescape : unescape (c :: rest) = (c, false) :: unescape rest := by
    rw [unescape]
    · rintro _ rfl
      exact absurd rfl h.1
    · rintro _ rfl
      exact absurd rfl h.2
  have hstep : step .outside (c, false) = some (.outside, some (.literal c)) := by
    unfold step
    split <;> simp_all
  rw [hunescape, parts?, hstep]
  rfl

/-- Text without braces is read character by character. -/
theorem parts?_unescape_append {text : List Char} (h : ∀ c ∈ text, c ≠ '\x7b' ∧ c ≠ '\x7d')
    (rest : List Char) :
    parts? .outside (unescape (text ++ rest)) =
      (parts? .outside (unescape rest)).map (text.map .literal ++ ·) := by
  induction text with
  | nil => simp
  | cons c text ih =>
    rw [List.forall_mem_cons] at h
    rw [List.cons_append, parts?_unescape_cons h.1, ih h.2, Option.map_map]
    rfl

/-- After a parameter there is a slash or the end. -/
def IsBoundary (rest : List Char) : Prop :=
  rest = [] ∨ ∃ more, rest = '/' :: more

theorem isBoundary_slashed (parts : List (List Char)) (slash : Bool) :
    IsBoundary (slashed parts ++ ending slash) := by
  cases parts with
  | nil =>
    cases slash with
    | true => exact Or.inr ⟨[], rfl⟩
    | false => exact Or.inl rfl
  | cons part parts => exact Or.inr ⟨part ++ slashed parts ++ ending slash, rfl⟩

/-- Inside the braces of a parameter nothing is read until the closing one. -/
theorem parts?_unescape_named {bare : Bool} {name : List Char} (hbare : bare = true → name ≠ [])
    (h : ∀ c ∈ name, c ≠ '/' ∧ c ≠ '\x7b' ∧ c ≠ '\x7d' ∧ c ≠ '*') {rest : List Char}
    (hrest : IsBoundary rest) :
    parts? (.named .parameter bare) (unescape (name ++ '\x7d' :: rest)) =
      (parts? (.closed .parameter) (unescape rest)).map (.parameter :: ·) := by
  induction name generalizing bare with
  | nil =>
    have hunescape : unescape ('\x7d' :: rest) = ('\x7d', false) :: unescape rest := by
      rcases hrest with rfl | ⟨more, rfl⟩
      · rfl
      · rfl
    have hbare : bare = false := by
      cases bare with
      | true => exact absurd rfl (hbare rfl)
      | false => rfl
    subst hbare
    rw [List.nil_append, hunescape, parts?]
    rfl
  | cons c name ih =>
    rw [List.forall_mem_cons] at h
    obtain ⟨⟨hslash, hopen, hclose, hstar⟩, hname⟩ := h
    have hunescape : unescape (c :: (name ++ '\x7d' :: rest)) =
        (c, false) :: unescape (name ++ '\x7d' :: rest) := by
      rw [unescape]
      · rintro _ rfl
        exact absurd rfl hopen
      · rintro _ rfl
        exact absurd rfl hclose
    have hstep : step (.named .parameter bare) (c, false) = some (.named .parameter false, none) := by
      unfold step
      split <;> simp_all
    rw [List.cons_append, hunescape, parts?, hstep]
    show (parts? (.named .parameter false) (unescape (name ++ '\x7d' :: rest))).map ([] ++ ·) = _
    rw [ih (fun hfalse => absurd hfalse Bool.false_ne_true) hname, Option.map_map]
    rfl

/-- A parameter in braces is read to one part. -/
theorem parts?_unescape_braced {name : List Char} (hne : name ≠ [])
    (h : ∀ c ∈ name, c ≠ '/' ∧ c ≠ '\x7b' ∧ c ≠ '\x7d' ∧ c ≠ '*') {rest : List Char}
    (hrest : IsBoundary rest) :
    parts? .outside (unescape ('\x7b' :: (name ++ '\x7d' :: rest))) =
      (parts? .outside (unescape rest)).map (.parameter :: ·) := by
  have hclosed : parts? (.closed .parameter) (unescape rest) = parts? .outside (unescape rest) := by
    rcases hrest with rfl | ⟨more, rfl⟩
    · rfl
    · rfl
  cases name with
  | nil => exact absurd rfl hne
  | cons c name =>
    rw [List.forall_mem_cons] at h
    obtain ⟨⟨hslash, hopen, hclose, hstar⟩, hname⟩ := h
    have hunescape : unescape ('\x7b' :: c :: (name ++ '\x7d' :: rest)) =
        ('\x7b', false) :: (c, false) :: unescape (name ++ '\x7d' :: rest) := by
      rw [unescape, unescape]
      · rintro _ rfl
        exact absurd rfl hopen
      · rintro _ rfl
        exact absurd rfl hclose
      · intro _ _ hcons
        exact absurd (List.cons.inj hcons).1 hopen
      · intro _ hclosing
        exact absurd hclosing (by decide)
    have hstep : step .opened (c, false) = some (.named .parameter false, none) := by
      unfold step
      split <;> simp_all
    rw [List.cons_append, hunescape, parts?]
    show (parts? .opened ((c, false) :: unescape (name ++ '\x7d' :: rest))).map ([] ++ ·) = _
    rw [parts?, hstep]
    show ((parts? (.named .parameter false) (unescape (name ++ '\x7d' :: rest))).map
      ([] ++ ·)).map ([] ++ ·) = _
    rw [parts?_unescape_named (fun hfalse => absurd hfalse Bool.false_ne_true) hname hrest,
      Option.map_map, Option.map_map, hclosed]
    rfl

/-- A segment is read to its parts. -/
theorem parts?_unescape_segment {segment : Segment} (h : segment.IsPlain) {rest : List Char}
    (hrest : IsBoundary rest) :
    parts? .outside (unescape (segment.braced ++ rest)) =
      (parts? .outside (unescape rest)).map (segment.patternParts ++ ·) := by
  cases segment with
  | literal text => exact parts?_unescape_append (fun c hc => (h.2.1 c hc).2) rest
  | parameter name =>
    show parts? .outside (unescape ('\x7b' :: (name.toList ++ ['\x7d'] ++ rest))) = _
    rw [List.append_assoc]
    exact parts?_unescape_braced (Segment.toList_ne_nil h.1) h.2 hrest

/-- The segments of a key are read to its pattern. -/
theorem parts?_unescape_text (key : PlainKey) :
    parts? .outside (unescape key.text.toList) = some key.pattern := by
  have hslash : ('/' : Char) ≠ '\x7b' ∧ ('/' : Char) ≠ '\x7d' := by decide
  have hending : ∀ slash, parts? .outside (unescape (ending slash)) =
      some ((ending slash).map .literal) := by decide
  have hsegments : ∀ segments : List Segment, (∀ segment ∈ segments, segment.IsPlain) →
      parts? .outside (unescape (slashed (segments.map Segment.braced) ++ ending key.slash)) =
        some (patternOf segments ++ (ending key.slash).map .literal) := by
    intro segments hplain
    induction segments with
    | nil => exact hending key.slash
    | cons segment segments ih =>
      rw [List.forall_mem_cons] at hplain
      rw [List.map_cons, slashed_cons, List.cons_append, parts?_unescape_cons hslash,
        List.append_assoc, parts?_unescape_segment hplain.1 (isBoundary_slashed _ _),
        ih hplain.2]
      show some (.literal '/' :: (segment.patternParts ++
        (patternOf segments ++ (ending key.slash).map .literal))) = _
      rw [← List.append_assoc]
      rfl
  unfold PlainKey.text
  rw [String.toList_ofList]
  exact hsegments _ key.isPlain

/-- A plain key that has a pattern has the pattern of its segments. -/
theorem ofTemplate?_text {key : PlainKey} {pattern : PathPattern}
    (h : ofTemplate? key.text = some pattern) : pattern = key.pattern := by
  unfold ofTemplate? at h
  simp only [parts?_unescape_text] at h
  split at h
  · exact (Option.some.inj (Option.filter_eq_some_iff.1 h).1).symm
  · cases h

/-! ## Matching -/

theorem isMatch_literals_iff {text path : List Char} {rest : PathPattern} :
    isMatch (text.map .literal ++ rest) path = true ↔
      ∃ after, path = text ++ after ∧ isMatch rest after = true := by
  induction text generalizing path with
  | nil => simp
  | cons c text ih =>
    cases path with
    | nil => simp [isMatch]
    | cons d path =>
      rw [List.map_cons, List.cons_append, isMatch, Bool.and_eq_true, decide_eq_true_eq, ih]
      constructor
      · rintro ⟨rfl, after, rfl, hafter⟩
        exact ⟨after, rfl, hafter⟩
      · rintro ⟨after, hpath, hafter⟩
        obtain ⟨rfl, rfl⟩ := List.cons.inj hpath
        exact ⟨rfl, after, rfl, hafter⟩

/-- A part without slashes before a boundary is what stands before the first slash. -/
theorem takeWhile_append_boundary {part rest : List Char} (hpart : '/' ∉ part)
    (hrest : IsBoundary rest) :
    (part ++ rest).takeWhile (· ≠ '/') = part ∧ (part ++ rest).dropWhile (· ≠ '/') = rest := by
  have hne : ∀ c ∈ part, decide (c ≠ '/') = true := fun c hc =>
    decide_eq_true fun hslash => hpart (hslash ▸ hc)
  rw [List.takeWhile_append_of_pos hne, List.dropWhile_append_of_pos hne]
  rcases hrest with rfl | ⟨more, rfl⟩
  · simp
  · simp

/-- The pattern of a segment takes a part of a path, when what follows it matches from a boundary. -/
theorem isMatch_patternParts_iff {segment : Segment} {after : PathPattern} {path : List Char}
    (hafter : ∀ rest, isMatch after rest = true → IsBoundary rest) :
    isMatch (segment.patternParts ++ after) path = true ↔
      ∃ part rest, path = part ++ rest ∧ segment.Takes part ∧ isMatch after rest = true := by
  cases segment with
  | literal text =>
    show isMatch (text.toList.map .literal ++ after) path = true ↔ _
    rw [isMatch_literals_iff]
    constructor
    · rintro ⟨rest, rfl, hrest⟩
      exact ⟨text.toList, rest, rfl, rfl, hrest⟩
    · rintro ⟨part, rest, rfl, rfl, hrest⟩
      exact ⟨rest, rfl, hrest⟩
  | parameter name =>
    show (decide (path.takeWhile (· ≠ '/') ≠ []) &&
      isMatch after (path.dropWhile (· ≠ '/'))) = true ↔ _
    rw [Bool.and_eq_true, decide_eq_true_eq]
    constructor
    · rintro ⟨hpart, hrest⟩
      refine ⟨path.takeWhile (· ≠ '/'), path.dropWhile (· ≠ '/'),
        List.takeWhile_append_dropWhile.symm, ⟨hpart, ?_⟩, hrest⟩
      intro hslash
      have hother := List.mem_takeWhile_imp hslash
      exact absurd hother (by decide)
    · rintro ⟨part, rest, rfl, ⟨hne, hslash⟩, hrest⟩
      obtain ⟨htake, hdrop⟩ := takeWhile_append_boundary hslash (hafter rest hrest)
      rw [htake, hdrop]
      exact ⟨hne, hrest⟩

/-- The pattern of segments matches a path that is written with parts which they take. -/
theorem isMatch_patternOf_iff {segments : List Segment} {slash : Bool} {path : List Char} :
    isMatch (patternOf segments ++ (ending slash).map .literal) path = true ↔
      ∃ parts, path = slashed parts ++ ending slash ∧
        List.Forall₂ Segment.Takes segments parts := by
  induction segments generalizing path with
  | nil =>
    show isMatch ((ending slash).map .literal) path = true ↔ _
    rw [← List.append_nil ((ending slash).map PathPart.literal), isMatch_literals_iff]
    constructor
    · rintro ⟨after, rfl, hafter⟩
      have hnil : after = [] := of_decide_eq_true hafter
      subst hnil
      exact ⟨[], List.append_nil _, .nil⟩
    · rintro ⟨parts, rfl, htakes⟩
      cases htakes
      exact ⟨[], (List.append_nil _).symm, rfl⟩
  | cons segment segments ih =>
    -- What the other segments match starts with a slash or is empty.
    have hafter : ∀ rest,
        isMatch (patternOf segments ++ (ending slash).map .literal) rest = true →
          IsBoundary rest := by
      intro rest hrest
      obtain ⟨parts, rfl, _⟩ := ih.1 hrest
      exact isBoundary_slashed parts slash
    show isMatch (['/'].map .literal ++ (segment.patternParts ++ patternOf segments) ++
      (ending slash).map .literal) path = true ↔ _
    rw [List.append_assoc, List.append_assoc, isMatch_literals_iff]
    constructor
    · rintro ⟨after, rfl, hmatch⟩
      obtain ⟨part, rest, rfl, hpart, hrest⟩ := (isMatch_patternParts_iff hafter).1 hmatch
      obtain ⟨parts, rfl, htakes⟩ := ih.1 hrest
      refine ⟨part :: parts, ?_, .cons hpart htakes⟩
      show '/' :: (part ++ (slashed parts ++ ending slash)) = _
      rw [slashed_cons, List.cons_append, List.append_assoc]
    · rintro ⟨parts, rfl, htakes⟩
      cases htakes with
      | @cons _ part _ parts hpart hrest =>
        refine ⟨part ++ (slashed parts ++ ending slash), ?_,
          (isMatch_patternParts_iff hafter).2 ⟨part, _, rfl, hpart, ih.2 ⟨parts, rfl, hrest⟩⟩⟩
        rw [slashed_cons, List.cons_append, List.append_assoc]
        rfl

/-- The pattern of a plain key matches exactly the paths that its segments take, with a slash at the
end when the key has one. -/
theorem isMatch_pattern_iff {key : PlainKey} {path : List Char} :
    key.pattern.isMatch path = true ↔ ∃ parts, path = slashed parts ++ ending key.slash ∧
      List.Forall₂ Segment.Takes key.segments parts :=
  isMatch_patternOf_iff

/-! ## Preference -/

theorem isPreferred_irrefl (pattern : PathPattern) : isPreferred pattern pattern = false := by
  induction pattern with
  | nil => rfl
  | cons part parts ih => rw [isPreferred, if_pos rfl, ih]

/-- Preference is transitive: the earlier of two first differences is the one that decides. -/
theorem isPreferred_trans {a b c : PathPattern} (hab : isPreferred a b = true)
    (hbc : isPreferred b c = true) : isPreferred a c = true := by
  induction a generalizing b c with
  | nil => cases b <;> cases hab
  | cons x a ih =>
    cases b with
    | nil => cases hab
    | cons y b =>
      cases c with
      | nil => cases hbc
      | cons z c =>
        unfold isPreferred at hab hbc ⊢
        by_cases hxy : x = y
        · subst hxy
          by_cases hxz : x = z
          · rw [if_pos rfl] at hab
            rw [if_pos hxz] at hbc ⊢
            exact ih hab hbc
          · rw [if_neg hxz] at hbc ⊢
            exact hbc
        · rw [if_neg hxy, Bool.and_eq_true, Bool.not_eq_true'] at hab
          by_cases hyz : y = z
          · subst hyz
            rw [if_neg hxy, hab.1, hab.2]
            rfl
          · rw [if_neg hyz, hab.2] at hbc
            cases hbc

theorem isPreferred_append (common a b : PathPattern) :
    isPreferred (common ++ a) (common ++ b) = isPreferred a b := by
  induction common with
  | nil => rfl
  | cons part common ih => rw [List.cons_append, List.cons_append, isPreferred, if_pos rfl, ih]

theorem clashes_self (pattern : PathPattern) : clashes pattern pattern = true := by
  induction pattern with
  | nil => rfl
  | cons part parts ih => rw [clashes, if_pos rfl, ih, Bool.or_true]

/-- Segments that have a literal first make a pattern that is preferred, whatever follows. -/
theorem isPreferred_patternOf_of_beats {first second : List Segment} (h : Beats first second)
    (hplain : ∀ segment ∈ first, segment.IsPlain) (after other : PathPattern) :
    isPreferred (patternOf first ++ after) (patternOf second ++ other) = true := by
  induction h with
  | here text name first second =>
    have htext := hplain _ List.mem_cons_self
    cases hfirst : text.toList with
    | nil => exact absurd hfirst (Segment.toList_ne_nil htext.1)
    | cons c rest =>
      show isPreferred (.literal '/' :: (text.toList.map .literal ++ patternOf first ++ after))
        (.literal '/' :: (.parameter :: (patternOf second ++ other))) = true
      rw [hfirst]
      rfl
  | literal text h ih =>
    have hrest := ih fun segment hmem => hplain segment (List.mem_cons_of_mem _ hmem)
    unfold patternOf at hrest ⊢
    rw [List.flatMap_cons, List.flatMap_cons, List.append_assoc, List.append_assoc,
      isPreferred_append]
    exact hrest
  | parameter name other' h ih =>
    have hrest := ih fun segment hmem => hplain segment (List.mem_cons_of_mem _ hmem)
    unfold patternOf at hrest ⊢
    rw [List.flatMap_cons, List.flatMap_cons, List.append_assoc, List.append_assoc]
    show isPreferred ([.literal '/', .parameter] ++ _) ([.literal '/', .parameter] ++ _) = true
    rw [isPreferred_append]
    exact hrest

/-- Of two plain keys the one that has a literal first is preferred. -/
theorem isPreferred_pattern_of_beats {first second : PlainKey}
    (h : Beats first.segments second.segments) :
    isPreferred first.pattern second.pattern = true :=
  isPreferred_patternOf_of_beats h first.isPlain _ _

/-- Keys that differ in the names of parameters only have the same pattern. -/
theorem pattern_eq_of_anonymous_eq {first second : PlainKey}
    (h : first.segments.map Segment.anonymous = second.segments.map Segment.anonymous)
    (hslash : first.slash = second.slash) : first.pattern = second.pattern := by
  have hparts : ∀ segment : Segment, segment.patternParts =
      (segment.anonymous.elim [.parameter] fun text => text.toList.map .literal) := by
    intro segment
    cases segment <;> rfl
  have hpattern : ∀ segments : List Segment, patternOf segments =
      (segments.map Segment.anonymous).flatMap fun name =>
        .literal '/' :: name.elim [.parameter] fun text => text.toList.map .literal := by
    intro segments
    unfold patternOf
    rw [List.flatMap_map]
    simp only [hparts]
  unfold PlainKey.pattern
  rw [hpattern, hpattern, h, hslash]

end PathPattern
end Http
end RequestGate
