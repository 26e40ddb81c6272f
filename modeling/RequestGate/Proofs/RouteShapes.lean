import RequestGate.Http.Router
import RequestGate.Proofs.PathParameters
import RequestGate.Proofs.PathPattern

/-!
# Shapes of routes and patterns of templates

Bindings are grouped by the shapes of their routes, and resources are told apart by the patterns of
their templates.  Where every name in braces is a segment of its own, the one decides the other: such
templates have clashing patterns only if their patterns are the same, and the pattern of such a template
says which shape its route has.

Main results:

- Theorem `PathPattern.parts?_join`: a template is read segment by segment.
- Theorem `PathPattern.eq_of_clashes`: patterns that match no rest of a path clash only with themselves.
- Theorem `Router.shape_eq_of_clashes`: templates with clashing patterns have routes of one shape.
-/

namespace RequestGate
namespace Http

open Pieces Route

namespace PathPattern

/-! ## Reading segment by segment -/

/-- What an opening brace has started is a name for any text, and a name that has ended is followed by
a slash. -/
def Reading.IsSound : Reading → Prop
  | .outside | .opened => True
  | .named part _ => isOpen part = true
  | .closed part => part = .parameter

theorem Reading.isSound_outside : Reading.outside.IsSound :=
  trivial

/-- One more character, unless it ends a name for a rest. -/
theorem Reading.IsSound.step {reading next : Reading} {c : Char × Bool} {part : Option PathPart}
    (h : reading.IsSound) (hstep : PathPattern.step reading c = some (next, part))
    (hrest : PathPart.rest ∉ part.toList) : next.IsSound := by
  unfold PathPattern.step at hstep
  split at hstep
  case h_7 named bare =>
    split at hstep
    · cases hstep
    · cases hstep
      cases named with
      | parameter => rfl
      | rest => exact absurd (List.mem_singleton.2 rfl) hrest
      | literal => cases h
  case h_10 =>
    cases hstep
    exact h
  case h_2 | h_4 | h_8 | h_9 | h_12 => cases hstep
  all_goals
    cases hstep
    trivial

/-- A segment and a slash behind it are read one after another. -/
theorem parts?_append_slash {reading : Reading} {segment rest : List (Char × Bool)}
    {pattern : PathPattern} (hsound : reading.IsSound) (h : parts? reading segment = some pattern)
    (hrest : PathPart.rest ∉ pattern) :
    parts? reading (segment ++ ('/', false) :: rest) =
      (parts? .outside rest).map fun after => pattern ++ .literal '/' :: after := by
  induction segment generalizing reading pattern with
  | nil =>
    rw [List.nil_append, parts?]
    cases reading with
    | outside =>
      cases h
      rfl
    | closed part =>
      obtain rfl : part = .parameter := hsound
      cases h
      rfl
    | opened | named => cases h
  | cons c segment ih =>
    rw [List.cons_append, parts?]
    rw [parts?] at h
    cases hstep : step reading c with
    | none =>
      rw [hstep] at h
      cases h
    | some next =>
      obtain ⟨next, part⟩ := next
      rw [hstep] at h
      obtain ⟨later, hlater, rfl⟩ := Option.map_eq_some_iff.1 h
      rw [List.mem_append, not_or] at hrest
      simp only [ih (hsound.step hstep hrest.1) hlater hrest.2, Option.map_map]
      refine congrArg (Option.map · _) (funext fun after => ?_)
      simp

theorem unescape_append_slash (segment rest : List Char) :
    unescape (segment ++ '/' :: rest) = unescape segment ++ ('/', false) :: unescape rest := by
  induction segment using unescape.induct with
  | case1 segment ih | case2 segment ih =>
    simp only [List.cons_append, unescape, ih]
  | case3 c segment hopen hclose ih =>
    have hboth : ∀ text, c = '\x7b' → segment ++ '/' :: rest = '\x7b' :: text → False := by
      rintro text rfl htext
      cases segment with
      | nil => cases htext
      | cons d segment =>
        cases htext
        exact hopen _ rfl rfl
    have hother : ∀ text, c = '\x7d' → segment ++ '/' :: rest = '\x7d' :: text → False := by
      rintro text rfl htext
      cases segment with
      | nil => cases htext
      | cons d segment =>
        cases htext
        exact hclose _ rfl rfl
    rw [List.cons_append, unescape.eq_3 _ _ hboth hother, unescape.eq_3 _ _ hopen hclose, ih,
      List.cons_append]
  | case4 => rfl

/-- What a segment of a template is read to. -/
def segmentPattern (segment : List Char) : PathPattern :=
  (parts? .outside (unescape segment)).getD []

/-- A segment of a template is a text, or one name in braces. -/
def IsWholeSegment (segment : List Char) : Prop :=
  parts? .outside (unescape segment) = some [.parameter] ∨
    ∃ text : List Char, parts? .outside (unescape segment) = some (text.map .literal)

/-- Every name in the braces of a template is a segment of its own. -/
def HasWholeNames (template : String) : Prop :=
  ∀ segment ∈ pieces '/' template.toList, IsWholeSegment segment

theorem IsWholeSegment.parts?_eq {segment : List Char} (h : IsWholeSegment segment) :
    parts? .outside (unescape segment) = some (segmentPattern segment) := by
  unfold segmentPattern
  rcases h with h | ⟨text, h⟩ <;> rw [h] <;> rfl

theorem IsWholeSegment.rest_notMem {segment : List Char} (h : IsWholeSegment segment) :
    PathPart.rest ∉ segmentPattern segment := by
  unfold segmentPattern
  rcases h with h | ⟨text, h⟩ <;> rw [h] <;> simp

/-- A template is read segment by segment. -/
theorem parts?_join {segments : List (List Char)} (hne : segments ≠ [])
    (h : ∀ segment ∈ segments, IsWholeSegment segment) :
    parts? .outside (unescape (join '/' segments)) =
      some (join (.literal '/') (segments.map segmentPattern)) := by
  induction segments with
  | nil => exact absurd rfl hne
  | cons segment rest ih =>
    obtain ⟨hsegment, hrest⟩ := List.forall_mem_cons.1 h
    cases rest with
    | nil => exact hsegment.parts?_eq
    | cons next rest =>
      rw [join, unescape_append_slash,
        parts?_append_slash Reading.isSound_outside hsegment.parts?_eq hsegment.rest_notMem,
        ih (List.cons_ne_nil _ _) hrest]
      rfl

/-! ## Texts of routes -/

/-- What a character of a template leaves in its route; a doubled brace leaves two characters or none. -/
def routeChars (c : Char) (doubled : Bool) : List Char :=
  if c = '\x7d' then []
  else if c = '\x7b' then (if doubled then [':', ':'] else [':'])
  else [c]

/-- What the text that a part stands for leaves in a route, if the part is a segment of its own or
stands for a character. -/
def partChars : PathPart → List Char
  | .literal c => routeChars c true
  | .parameter | .rest => [':']

theorem rewritten_eq_flatMap (text : List Char) :
    rewritten text = (unescape text).flatMap fun c => routeChars c.1 c.2 := by
  induction text using unescape.induct with
  | case1 text ih | case2 text ih =>
    rw [unescape, List.flatMap_cons, ← ih]
    rfl
  | case3 c text hopen hclose ih =>
    rw [unescape.eq_3 _ _ hopen hclose, List.flatMap_cons, ← ih, rewritten_cons]
    by_cases hbrace : c = '\x7d' <;> by_cases hbrace' : c = '\x7b' <;>
      simp [routeChars, hbrace, hbrace']
  | case4 => rfl

/-- Inside braces nothing is read but a name. -/
def Reading.IsInside : Reading → Prop
  | .opened => True
  | .named part _ => isOpen part = true
  | .outside | .closed _ => False

/-- Inside braces a character ends the name, or it is one of the name. -/
theorem Reading.IsInside.step {reading next : Reading} {c : Char × Bool} {part : Option PathPart}
    (h : reading.IsInside) (hstep : PathPattern.step reading c = some (next, part)) :
    (∃ found ∈ part, isOpen found = true) ∨ next.IsInside := by
  unfold PathPattern.step at hstep
  split at hstep
  case h_1 | h_3 | h_11 => exact absurd h id
  case h_2 | h_4 | h_8 | h_9 | h_12 => cases hstep
  case h_5 | h_6 =>
    cases hstep
    exact .inr rfl
  case h_7 named bare =>
    split at hstep
    · cases hstep
    · cases hstep
      exact .inl ⟨named, rfl, h⟩
  case h_10 =>
    cases hstep
    exact .inr h

/-- What has started inside braces has a part that stands for any text. -/
theorem exists_isOpen_of_isInside {reading : Reading} {text : List (Char × Bool)}
    {pattern : PathPattern} (hinside : reading.IsInside) (h : parts? reading text = some pattern) :
    ∃ part ∈ pattern, isOpen part = true := by
  induction text generalizing reading pattern with
  | nil =>
    cases reading with
    | outside | closed => exact absurd hinside id
    | opened | named => cases h
  | cons c text ih =>
    rw [parts?] at h
    cases hstep : step reading c with
    | none =>
      rw [hstep] at h
      cases h
    | some next =>
      obtain ⟨next, part⟩ := next
      rw [hstep] at h
      obtain ⟨later, hlater, rfl⟩ := Option.map_eq_some_iff.1 h
      rcases hinside.step hstep with ⟨found, hfound, hopen⟩ | hnext
      · exact ⟨found, List.mem_append_left _ (Option.mem_toList.2 hfound), hopen⟩
      · obtain ⟨found, hfound, hopen⟩ := ih hnext hlater
        exact ⟨found, List.mem_append_right _ hfound, hopen⟩

/-- Outside of braces a character stands for itself, or it opens a name. -/
theorem step_outside {next : Reading} {c : Char} {doubled : Bool} {part : Option PathPart}
    (h : step .outside (c, doubled) = some (next, part)) :
    (next = .opened ∧ part = none ∧ c = '\x7b' ∧ doubled = false) ∨
      (next = .outside ∧ part = some (.literal c) ∧ routeChars c doubled = routeChars c true) := by
  have hclose : step .outside ('\x7d', false) = none := rfl
  by_cases hplain : doubled = true ∨ c ≠ '\x7b' ∧ c ≠ '\x7d'
  · have hstep : step .outside (c, doubled) = some (.outside, some (.literal c)) := by
      unfold step
      split <;> simp_all
    rw [hstep] at h
    cases h
    refine .inr ⟨rfl, rfl, ?_⟩
    rcases hplain with rfl | ⟨hopen, _⟩
    · rfl
    · simp [routeChars, hopen]
  · rw [not_or, Bool.not_eq_true, not_and_or, not_not, not_not] at hplain
    obtain ⟨rfl, rfl | rfl⟩ := hplain
    · cases h
      exact .inl ⟨rfl, rfl, rfl, rfl⟩
    · rw [hclose] at h
      cases h

/-- What is read as a text is that text, and leaves in its route what the text does. -/
theorem of_parts?_eq_literals {text : List (Char × Bool)} {literals : List Char}
    (h : parts? .outside text = some (literals.map .literal)) :
    text.map Prod.fst = literals ∧
      text.flatMap (fun c => routeChars c.1 c.2) = literals.flatMap fun c => routeChars c true := by
  induction text generalizing literals with
  | nil =>
    cases literals with
    | nil => exact ⟨rfl, rfl⟩
    | cons => cases h
  | cons c text ih =>
    obtain ⟨c, doubled⟩ := c
    rw [parts?] at h
    cases hstep : step .outside (c, doubled) with
    | none =>
      rw [hstep] at h
      cases h
    | some next =>
      obtain ⟨next, part⟩ := next
      rw [hstep] at h
      obtain ⟨later, hlater, hpattern⟩ := Option.map_eq_some_iff.1 h
      rcases step_outside hstep with ⟨rfl, rfl, _⟩ | ⟨rfl, rfl, hchars⟩
      · -- A name that is opened here would be a part of the text.
        have hinside : Reading.opened.IsInside := trivial
        obtain ⟨part, hpart, hopen⟩ := exists_isOpen_of_isInside hinside hlater
        rw [show later = literals.map .literal from hpattern] at hpart
        obtain ⟨_, _, rfl⟩ := List.mem_map.1 hpart
        cases hopen
      · cases literals with
        | nil => cases hpattern
        | cons literal literals =>
          obtain ⟨hliteral, hlater'⟩ := List.cons.inj hpattern
          cases hliteral
          obtain ⟨hsame, htexts⟩ := ih (hlater.trans (congrArg some hlater'))
          rw [List.map_cons, hsame, List.flatMap_cons, List.flatMap_cons, htexts, hchars]
          exact ⟨rfl, rfl⟩

theorem fst_mem_of_mem_unescape {text : List Char} {c : Char × Bool} (h : c ∈ unescape text) :
    c.1 ∈ text := by
  induction text using unescape.induct with
  | case1 text ih | case2 text ih =>
    rw [unescape, List.mem_cons] at h
    rcases h with rfl | h
    · exact List.mem_cons_self
    · exact List.mem_cons_of_mem _ (List.mem_cons_of_mem _ (ih h))
  | case3 d text hopen hclose ih =>
    rw [unescape.eq_3 _ _ hopen hclose, List.mem_cons] at h
    rcases h with rfl | h
    · exact List.mem_cons_self
    · exact List.mem_cons_of_mem _ (ih h)
  | case4 => cases h

/-- The pattern of a segment has no slash. -/
theorem IsWholeSegment.slash_notMem {segment : List Char} (h : IsWholeSegment segment)
    (hslash : '/' ∉ segment) : PathPart.literal '/' ∉ segmentPattern segment := by
  intro hmem
  have hpattern := h.parts?_eq
  rcases h with hname | ⟨text, htext⟩
  · rw [← Option.some.inj (hname.symm.trans hpattern)] at hmem
    cases List.mem_singleton.1 hmem
  · rw [← Option.some.inj (htext.symm.trans hpattern)] at hmem
    obtain ⟨c, hc, hliteral⟩ := List.mem_map.1 hmem
    cases hliteral
    rw [← (of_parts?_eq_literals htext).1] at hc
    obtain ⟨_, hfound, hsame⟩ := List.mem_map.1 hc
    exact hslash (hsame ▸ fst_mem_of_mem_unescape hfound)

/-- A segment that is a name in braces opens with a brace. -/
theorem head?_of_parts?_eq_parameter {segment : List Char}
    (h : parts? .outside (unescape segment) = some [.parameter]) :
    (rewritten segment).head? = some ':' := by
  rw [rewritten_eq_flatMap]
  cases hchars : unescape segment with
  | nil =>
    rw [hchars] at h
    cases h
  | cons c text =>
    obtain ⟨c, doubled⟩ := c
    rw [hchars, parts?] at h
    cases hstep : step .outside (c, doubled) with
    | none =>
      rw [hstep] at h
      cases h
    | some next =>
      obtain ⟨next, part⟩ := next
      rw [hstep] at h
      rcases step_outside hstep with ⟨rfl, rfl, rfl, rfl⟩ | ⟨rfl, rfl, _⟩
      · rfl
      · obtain ⟨_, _, hpattern⟩ := Option.map_eq_some_iff.1 h
        cases hpattern

/-! ## Clashes -/

/-- Patterns that match no rest of a path clash only when they are the same. -/
theorem eq_of_clashes {first second : PathPattern} (hfirst : PathPart.rest ∉ first)
    (hsecond : PathPart.rest ∉ second) (h : clashes first second = true) : first = second := by
  induction first generalizing second with
  | nil =>
    cases second with
    | nil => rfl
    | cons => cases h
  | cons a first ih =>
    cases second with
    | nil => cases h
    | cons b second =>
      rw [List.mem_cons, not_or] at hfirst hsecond
      rw [clashes] at h
      by_cases hsame : a = b
      · rw [if_pos hsame, decide_eq_false (Ne.symm hfirst.1), Bool.false_or] at h
        rw [hsame, ih hfirst.2 hsecond.2 h]
      · -- Two parts that stand for any text and differ are a parameter and a rest.
        rw [if_neg hsame, Bool.and_eq_true] at h
        cases a <;> cases b <;> simp_all [isOpen]

end PathPattern

namespace Router

open PathPattern

/-! ## Shapes -/

/-- A segment of a route without the name of its parameter. -/
def nameless (segment : List Char) : List Char :=
  if segment.head? = some ':' then [':'] else segment

theorem shape_ofBraces (template : String) : shape (ofBraces template) =
    String.ofList (join '/' ((pieces '/' template.toList).map fun segment =>
      nameless (rewritten segment))) := by
  have hroute : (ofBraces template).toList = rewritten template.toList := String.toList_ofList
  unfold shape
  rw [hroute, pieces_rewritten, List.map_map]
  rfl

/-- What is left of a segment in the shape of a route is said by what the segment is read to. -/
theorem nameless_rewritten {segment : List Char} (h : IsWholeSegment segment) :
    nameless (rewritten segment) = nameless ((segmentPattern segment).flatMap partChars) := by
  have hpattern := h.parts?_eq
  rcases h with hname | ⟨text, htext⟩
  · rw [← Option.some.inj (hname.symm.trans hpattern)]
    unfold nameless
    rw [if_pos (head?_of_parts?_eq_parameter hname)]
    rfl
  · rw [← Option.some.inj (htext.symm.trans hpattern), rewritten_eq_flatMap,
      (of_parts?_eq_literals htext).2, List.flatMap_map]
    rfl

/-- The pattern of a template whose names are segments of their own: the patterns of its segments. -/
theorem eq_join_of_ofTemplate? {template : String} {pattern : PathPattern}
    (hnames : HasWholeNames template) (h : ofTemplate? template = some pattern) :
    pattern = join (.literal '/') ((pieces '/' template.toList).map segmentPattern) := by
  have hread := parts?_join (pieces_ne_nil '/' template.toList) hnames
  rw [join_pieces] at hread
  unfold ofTemplate? at h
  simp only [hread] at h
  split at h
  · exact (Option.some.inj (Option.filter_eq_some_iff.1 h).1).symm
  · cases h

theorem pieces_pattern {template : String} {pattern : PathPattern} (hnames : HasWholeNames template)
    (h : ofTemplate? template = some pattern) :
    pieces (.literal '/') pattern = (pieces '/' template.toList).map segmentPattern := by
  rw [eq_join_of_ofTemplate? hnames h]
  refine pieces_join (by simp [pieces_ne_nil]) fun part hpart => ?_
  obtain ⟨segment, hsegment, rfl⟩ := List.mem_map.1 hpart
  exact (hnames segment hsegment).slash_notMem (separator_notMem_of_mem_pieces hsegment)

theorem rest_notMem_pattern {template : String} {pattern : PathPattern}
    (hnames : HasWholeNames template) (h : ofTemplate? template = some pattern) :
    PathPart.rest ∉ pattern := by
  have hdifferent : PathPart.rest ≠ .literal '/' := by simp
  intro hmem
  obtain ⟨piece, hpiece, hrest⟩ := exists_mem_pieces hmem hdifferent
  rw [pieces_pattern hnames h] at hpiece
  obtain ⟨segment, hsegment, rfl⟩ := List.mem_map.1 hpiece
  exact (hnames segment hsegment).rest_notMem hrest

/-- The pattern of a template says which shape its route has. -/
theorem shape_ofBraces_of_ofTemplate? {template : String} {pattern : PathPattern}
    (hnames : HasWholeNames template) (h : ofTemplate? template = some pattern) :
    shape (ofBraces template) = String.ofList (join '/' ((pieces (.literal '/') pattern).map
      fun parts => nameless (parts.flatMap partChars))) := by
  rw [shape_ofBraces, pieces_pattern hnames h, List.map_map]
  refine congrArg (fun parts => String.ofList (join '/' parts)) (List.map_congr_left ?_)
  exact fun segment hsegment => nameless_rewritten (hnames segment hsegment)

/-- Templates whose patterns clash have routes of one shape. -/
theorem shape_eq_of_clashes {first second : String} {pattern other : PathPattern}
    (hfirst : HasWholeNames first) (hsecond : HasWholeNames second)
    (hpattern : ofTemplate? first = some pattern) (hother : ofTemplate? second = some other)
    (h : clashes pattern other = true) : shape (ofBraces first) = shape (ofBraces second) := by
  obtain rfl := eq_of_clashes (rest_notMem_pattern hfirst hpattern)
    (rest_notMem_pattern hsecond hother) h
  rw [shape_ofBraces_of_ofTemplate? hfirst hpattern, shape_ofBraces_of_ofTemplate? hsecond hother]

end Router
end Http
end RequestGate
