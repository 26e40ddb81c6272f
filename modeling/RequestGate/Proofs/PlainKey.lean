import RequestGate.Proofs.Lowering

/-!
# Plain path keys

A plain path key consists of literals and of whole parameters in braces, possibly with a slash at its
end.  Its route has the same segments, so what the key takes can be said segment by segment.

Main results:

- Theorem `Route.PlainKey.templateSegments_route`: the route of a plain key has its segments.
- Theorem `Route.PlainKey.fits_iff`: a route fits a written path when its segments take the parts.
- Theorem `Route.fits_lower`: a plain key fits a path in lower case when it fits the path as sent.
- Theorem `Route.PlainKey.route_lt_route`: a key with a literal where another one first has a
  parameter has the greater route, when the names before agree.
-/

namespace RequestGate
namespace Route

open Pieces

/-! ## Segments -/

namespace Segment

/-- A segment whose forms in a path key and in a route stand for the same.  A literal starts above the
colon and is its own lower case. -/
def IsPlain : Segment → Prop
  | literal text => text ≠ "" ∧ (∀ c ∈ text.toList, c ≠ '/' ∧ c ≠ '\x7b' ∧ c ≠ '\x7d') ∧
      (∀ c ∈ text.toList.head?, ':' < c) ∧ Case.lower text = text
  | parameter name => name ≠ "" ∧
      ∀ c ∈ name.toList, c ≠ '/' ∧ c ≠ '\x7b' ∧ c ≠ '\x7d' ∧ c ≠ '*'

/-- A segment as it stands in a path key. -/
def braced : Segment → List Char
  | literal text => text.toList
  | parameter name => '\x7b' :: (name.toList ++ ['\x7d'])

/-- A segment as it stands in a route. -/
def colon : Segment → List Char
  | literal text => text.toList
  | parameter name => ':' :: name.toList

/-- The part of a path that a segment takes. -/
def Takes : Segment → List Char → Prop
  | literal text, part => part = text.toList
  | parameter _, part => part ≠ [] ∧ '/' ∉ part

theorem toList_ne_nil {text : String} (h : text ≠ "") : text.toList ≠ [] := fun hnil =>
  h (String.toList_eq_nil_iff.1 hnil)

theorem IsPlain.colon_ne_nil {segment : Segment} (h : segment.IsPlain) : segment.colon ≠ [] := by
  cases segment with
  | literal text => exact toList_ne_nil h.1
  | parameter name => exact List.cons_ne_nil _ _

theorem IsPlain.slash_notMem_colon {segment : Segment} (h : segment.IsPlain) :
    '/' ∉ segment.colon := by
  cases segment with
  | literal text => exact fun hmem => (h.2.1 '/' hmem).1 rfl
  | parameter name =>
    intro hmem
    rcases List.mem_cons.1 hmem with hslash | hmem
    · exact absurd hslash (by decide)
    · exact (h.2 '/' hmem).1 rfl

theorem IsPlain.braced_ne_nil {segment : Segment} (h : segment.IsPlain) : segment.braced ≠ [] := by
  cases segment with
  | literal text => exact toList_ne_nil h.1
  | parameter name => exact List.cons_ne_nil _ _

theorem IsPlain.slash_notMem_braced {segment : Segment} (h : segment.IsPlain) :
    '/' ∉ segment.braced := by
  cases segment with
  | literal text => exact fun hmem => (h.2.1 '/' hmem).1 rfl
  | parameter name =>
    intro hmem
    rcases List.mem_cons.1 hmem with hslash | hmem
    · exact absurd hslash (by decide)
    · rcases List.mem_append.1 hmem with hmem | hmem
      · exact (h.2 '/' hmem).1 rfl
      · exact absurd hmem (by decide)

/-- A colon and a name are read as a parameter. -/
theorem ofText_parameter {name : String} (h : name ≠ "") :
    ofText (String.ofList (':' :: name.toList)) = parameter name := by
  cases hname : name.toList with
  | nil => exact absurd hname (toList_ne_nil h)
  | cons c rest =>
    have hread : ofText (String.ofList (':' :: c :: rest)) = parameter (String.ofList (c :: rest)) := by
      unfold ofText
      rw [String.toList_ofList]
      rfl
    rw [hread, ← hname, String.ofList_toList]

/-- A route is read to the segments that it is written with. -/
theorem IsPlain.ofText_colon {segment : Segment} (h : segment.IsPlain) :
    ofText (String.ofList segment.colon) = segment := by
  cases segment with
  | literal text =>
    have hread : ofText text = literal text := by
      unfold ofText
      split
      · rename_i hcolon
        have hfirst := h.2.2.1 ':' (by rw [hcolon]; rfl)
        exact absurd hfirst (by decide)
      · rfl
    rw [show (literal text).colon = text.toList from rfl, String.ofList_toList]
    exact hread
  | parameter name => exact ofText_parameter h.1

/-- What a plain segment takes is a nonempty part without slashes. -/
theorem Takes.isPart {segment : Segment} {part : List Char} (h : segment.Takes part)
    (hplain : segment.IsPlain) : part ≠ [] ∧ '/' ∉ part := by
  cases segment with
  | literal text =>
    rw [show part = text.toList from h]
    exact ⟨toList_ne_nil hplain.1, fun hmem => (hplain.2.1 '/' hmem).1 rfl⟩
  | parameter name => exact h

theorem takes_iff_fits {segment : Segment} {part : List Char} (hpart : part ≠ [] ∧ '/' ∉ part) :
    segment.Takes part ↔ segment.fits (String.ofList part) = true := by
  cases segment with
  | literal text =>
    show part = text.toList ↔ decide (text = String.ofList part) = true
    rw [decide_eq_true_eq]
    constructor
    · rintro rfl
      exact String.ofList_toList.symm
    · rintro rfl
      exact String.toList_ofList.symm
  | parameter name =>
    refine iff_of_true hpart ?_
    show decide (String.ofList part ≠ "") = true
    rw [decide_eq_true_eq]
    intro hempty
    have hlist := congrArg String.toList hempty
    rw [String.toList_ofList] at hlist
    exact hpart.1 hlist

end Segment

/-! ## Fitting -/

theorem fits_eq_true_iff {segments : List Segment} {parts : List String} :
    fits segments parts = true ↔
      List.Forall₂ (fun segment part => segment.fits part = true) segments parts := by
  induction segments generalizing parts with
  | nil => cases parts <;> simp [fits]
  | cons segment segments ih => cases parts <;> simp [fits, ih]

/-- A literal that is its own lower case. -/
def Segment.IsLower : Segment → Prop
  | literal text => Case.lower text = text
  | parameter _ => True

/-- Segments that fit a path as it was sent fit it in lower case. -/
theorem fits_lower {segments : List Segment} {path : String}
    (hlower : ∀ segment ∈ segments, segment.IsLower)
    (h : fits segments (Route.segments path) = true) :
    fits segments (Route.segments (Case.lower path)) = true := by
  rw [fits_eq_true_iff] at h ⊢
  have hpath := segments_lower path
  generalize Route.segments path = parts at h hpath
  generalize Route.segments (Case.lower path) = lowered at hpath ⊢
  induction h generalizing lowered with
  | nil =>
    cases hpath
    exact .nil
  | @cons segment part segments parts hfits _ ih =>
    cases hpath with
    | @cons _ low _ rest hlow hrest =>
      rw [List.forall_mem_cons] at hlower
      refine .cons ?_ (ih hlower.2 rest hrest)
      cases segment with
      | literal text =>
        have htext : text = part := of_decide_eq_true hfits
        subst htext
        have hsame : low = text := String.toList_inj.1 (hlow.eq_of_lower_eq hlower.1)
        exact decide_eq_true hsame.symm
      | parameter name =>
        have hpart : part ≠ "" := of_decide_eq_true hfits
        refine decide_eq_true fun hempty => hlow.ne_nil (Segment.toList_ne_nil hpart) ?_
        rw [hempty]
        rfl

/-! ## Keys -/

/-- A path key of plain segments, with a slash at its end or without. -/
structure PlainKey where
  segments : List Segment
  slash : Bool
  starts : segments ≠ [] ∨ slash = true
  isPlain : ∀ segment ∈ segments, segment.IsPlain

/-- The route form of a text, character by character. -/
def rewritten (text : List Char) : List Char :=
  (text.map fun c => if c = '\x7b' then ':' else c).filter (· ≠ '\x7d')

theorem rewritten_append (first second : List Char) :
    rewritten (first ++ second) = rewritten first ++ rewritten second := by
  unfold rewritten
  rw [List.map_append, List.filter_append]

/-- A text without braces is its own route form. -/
theorem rewritten_of_forall_ne {text : List Char} (h : ∀ c ∈ text, c ≠ '\x7b' ∧ c ≠ '\x7d') :
    rewritten text = text := by
  have hmap : (text.map fun c => if c = '\x7b' then ':' else c) = text := by
    refine (List.map_congr_left fun c hc => ?_).trans (List.map_id text)
    exact if_neg (h c hc).1
  unfold rewritten
  rw [hmap, List.filter_eq_self]
  intro c hc
  exact decide_eq_true (h c hc).2

theorem Segment.IsPlain.rewritten_braced {segment : Segment} (h : segment.IsPlain) :
    rewritten segment.braced = segment.colon := by
  cases segment with
  | literal text => exact rewritten_of_forall_ne fun c hc => (h.2.1 c hc).2
  | parameter name =>
    have hname : rewritten name.toList = name.toList :=
      rewritten_of_forall_ne fun c hc => ⟨(h.2 c hc).2.1, (h.2 c hc).2.2.1⟩
    show rewritten (['\x7b'] ++ (name.toList ++ ['\x7d'])) = [':'] ++ name.toList
    rw [rewritten_append, rewritten_append, hname]
    show [':'] ++ (name.toList ++ []) = [':'] ++ name.toList
    rw [List.append_nil]

namespace PlainKey

/-- A key as it stands in a description. -/
def text (key : PlainKey) : String :=
  String.ofList (slashed (key.segments.map Segment.braced) ++ ending key.slash)

/-- The route of a key. -/
def route (key : PlainKey) : String :=
  String.ofList (slashed (key.segments.map Segment.colon) ++ ending key.slash)

theorem ofBraces_text (key : PlainKey) : ofBraces key.text = key.route := by
  have hslashed : ∀ segments : List Segment, (∀ segment ∈ segments, segment.IsPlain) →
      rewritten (slashed (segments.map Segment.braced)) =
        slashed (segments.map Segment.colon) := by
    intro segments hplain
    induction segments with
    | nil => rfl
    | cons segment segments ih =>
      rw [List.forall_mem_cons] at hplain
      show rewritten (['/'] ++ (segment.braced ++ slashed (segments.map Segment.braced))) =
        ['/'] ++ (segment.colon ++ slashed (segments.map Segment.colon))
      rw [rewritten_append, rewritten_append, hplain.1.rewritten_braced, ih hplain.2]
      rfl
  have hending : ∀ slash, rewritten (ending slash) = ending slash := by decide
  show String.ofList (rewritten key.text.toList) = key.route
  unfold text route
  rw [String.toList_ofList, rewritten_append, hslashed _ key.isPlain, hending]

/-- The segments of a key as they are read from its route: the root has a single empty literal. -/
def readSegments (key : PlainKey) : List Segment :=
  if key.segments = [] then [.literal ""] else key.segments

/-- The route of a plain key has its segments. -/
theorem templateSegments_route (key : PlainKey) : templateSegments key.route = key.readSegments := by
  unfold templateSegments readSegments
  have hroute : key.route.toList = slashed (key.segments.map Segment.colon) ++ ending key.slash :=
    String.toList_ofList
  have hplain := key.isPlain
  cases hsegments : key.segments with
  | nil =>
    have hslash := key.starts.resolve_left fun hne => hne hsegments
    rw [hsegments, hslash] at hroute
    rw [segments_root hroute]
    rfl
  | cons first rest =>
    rw [hsegments] at hroute hplain
    rw [List.map_cons] at hroute
    have hparts : ∀ part ∈ first.colon :: rest.map Segment.colon, part ≠ [] ∧ '/' ∉ part := by
      intro part hpart
      rw [← List.map_cons] at hpart
      obtain ⟨segment, hsegment, rfl⟩ := List.mem_map.1 hpart
      exact ⟨(hplain segment hsegment).colon_ne_nil, (hplain segment hsegment).slash_notMem_colon⟩
    rw [segments_slashed hroute hparts, if_neg (List.cons_ne_nil _ _), ← List.map_cons,
      List.map_map, List.map_map]
    refine (List.map_congr_left fun segment hsegment => ?_).trans (List.map_id _)
    exact (hplain segment hsegment).ofText_colon

theorem isLower_of_mem_readSegments {key : PlainKey} {segment : Segment}
    (h : segment ∈ key.readSegments) : segment.IsLower := by
  unfold readSegments at h
  split at h
  · rw [List.mem_singleton] at h
    subst h
    exact (by decide : Case.lower "" = "")
  · have hplain := key.isPlain segment h
    cases segment with
    | literal text => exact hplain.2.2.2
    | parameter name => trivial

/-- Segments fit parts exactly when they take them. -/
theorem fits_map_ofList_iff {segments : List Segment} {parts : List (List Char)}
    (hparts : ∀ part ∈ parts, part ≠ [] ∧ '/' ∉ part) :
    fits segments (parts.map String.ofList) = true ↔
      List.Forall₂ Segment.Takes segments parts := by
  rw [fits_eq_true_iff, List.forall₂_map_right_iff]
  induction parts generalizing segments with
  | nil => rw [List.forall₂_nil_right_iff, List.forall₂_nil_right_iff]
  | cons part parts ih =>
    rw [List.forall_mem_cons] at hparts
    cases segments with
    | nil => simp
    | cons segment segments =>
      rw [List.forall₂_cons, List.forall₂_cons, ih hparts.2, Segment.takes_iff_fits hparts.1]

/-- Only the root key fits the root path. -/
theorem fits_root_iff (key : PlainKey) : fits key.readSegments [""] = true ↔ key.segments = [] := by
  unfold readSegments
  cases hsegments : key.segments with
  | nil => simp [fits, Segment.fits]
  | cons segment rest =>
    have hplain := key.isPlain segment (by rw [hsegments]; exact List.mem_cons_self)
    rw [if_neg (List.cons_ne_nil _ _)]
    refine iff_of_false ?_ (List.cons_ne_nil _ _)
    intro hfits
    rw [fits, Bool.and_eq_true] at hfits
    cases segment with
    | literal text => exact hplain.1 (of_decide_eq_true hfits.1)
    | parameter name => exact Bool.false_ne_true hfits.1

/-- A route fits a written path exactly when its segments take the parts of the path. -/
theorem fits_iff {key : PlainKey} {path : String} {parts : List (List Char)} {slash : Bool}
    (hpath : path.toList = slashed parts ++ ending slash) (hstarts : parts ≠ [] ∨ slash = true)
    (hparts : ∀ part ∈ parts, part ≠ [] ∧ '/' ∉ part) :
    fits (templateSegments key.route) (Route.segments path) = true ↔
      List.Forall₂ Segment.Takes key.segments parts := by
  rw [templateSegments_route]
  cases parts with
  | nil =>
    have hslash := hstarts.resolve_left fun hne => hne rfl
    rw [hslash] at hpath
    rw [segments_root hpath, fits_root_iff, List.forall₂_nil_right_iff]
  | cons first rest =>
    rw [segments_slashed hpath hparts]
    unfold readSegments
    split
    · -- The empty literal of the root key fits no other path.
      rename_i hnil
      rw [hnil, fits_map_ofList_iff hparts]
      refine iff_of_false ?_ (by simp)
      intro htakes
      rw [List.forall₂_cons] at htakes
      exact (hparts first List.mem_cons_self).1 htakes.1
    · exact fits_map_ofList_iff hparts

/-- A key ends in a slash exactly when it is written with one. -/
theorem getLast?_text_eq_iff (key : PlainKey) :
    key.text.toList.getLast? = some '/' ↔ key.slash = true := by
  unfold text
  rw [String.toList_ofList]
  cases hslash : key.slash with
  | true => simp [ending]
  | false =>
    have hplain := key.isPlain
    cases hsegments : key.segments with
    | nil => exact absurd (key.starts.resolve_left fun hne => hne hsegments) (by simp [hslash])
    | cons first rest =>
      rw [hsegments] at hplain
      show (slashed (first.braced :: rest.map Segment.braced) ++ []).getLast? = some '/' ↔ _
      obtain ⟨before, last, hlast, hsplit⟩ :=
        exists_eq_append_last first.braced (rest.map Segment.braced)
      rw [← List.map_cons] at hlast
      obtain ⟨segment, hsegment, rfl⟩ := List.mem_map.1 hlast
      refine iff_of_false ?_ Bool.false_ne_true
      rw [List.append_nil, slashed_cons, hsplit, ← List.cons_append,
        List.getLast?_append_of_ne_nil _ (hplain segment hsegment).braced_ne_nil]
      exact fun hend => (hplain segment hsegment).slash_notMem_braced (List.mem_of_getLast? hend)

end PlainKey

/-! ## Order -/

/-- Where two lists of segments first differ other than in the name of a parameter, the first has a
literal and the second a parameter. -/
inductive Beats : List Segment → List Segment → Prop
  | here (text name : String) (first second : List Segment) :
    Beats (.literal text :: first) (.parameter name :: second)
  | literal (text : String) {first second : List Segment} (h : Beats first second) :
    Beats (.literal text :: first) (.literal text :: second)
  | parameter (name other : String) {first second : List Segment} (h : Beats first second) :
    Beats (.parameter name :: first) (.parameter other :: second)

/-- Two lists of segments have the same names for their parameters, up to the first place where one
has a literal and the other a parameter. -/
inductive NamesAgree : List Segment → List Segment → Prop
  | parameter (name : String) {first second : List Segment} (h : NamesAgree first second) :
    NamesAgree (.parameter name :: first) (.parameter name :: second)
  | literal (text other : String) {first second : List Segment} (h : NamesAgree first second) :
    NamesAgree (.literal text :: first) (.literal other :: second)
  | literalFirst (text name : String) (first second : List Segment) :
    NamesAgree (.literal text :: first) (.parameter name :: second)
  | parameterFirst (name text : String) (first second : List Segment) :
    NamesAgree (.parameter name :: first) (.literal text :: second)
  | nilFirst (second : List Segment) : NamesAgree [] second
  | nilSecond (first : List Segment) : NamesAgree first []

/-- A segment without the name that a parameter has. -/
def Segment.anonymous : Segment → Option String
  | literal text => some text
  | parameter _ => none

/-- Two lists of segments that take the same parts of a path are the same but for names, or one of
them has a literal first. -/
theorem beats_or_beats {first second : List Segment} {parts : List (List Char)}
    (hfirst : List.Forall₂ Segment.Takes first parts)
    (hsecond : List.Forall₂ Segment.Takes second parts) :
    Beats first second ∨ Beats second first ∨
      first.map Segment.anonymous = second.map Segment.anonymous := by
  induction hfirst generalizing second with
  | nil =>
    cases hsecond
    exact Or.inr (Or.inr rfl)
  | @cons a part as parts ha _ ih =>
    cases hsecond with
    | @cons b _ bs _ hb hbs =>
      cases a with
      | literal text =>
        cases b with
        | literal other =>
          have htext : text = other := by
            rw [← String.toList_inj]
            exact (show part = text.toList from ha).symm.trans hb
          subst htext
          rcases ih hbs with h | h | h
          · exact Or.inl (.literal text h)
          · exact Or.inr (Or.inl (.literal text h))
          · exact Or.inr (Or.inr (congrArg (some text :: ·) h))
        | parameter name => exact Or.inl (.here text name as bs)
      | parameter name =>
        cases b with
        | literal text => exact Or.inr (Or.inl (.here text name bs as))
        | parameter other =>
          rcases ih hbs with h | h | h
          · exact Or.inl (.parameter name other h)
          · exact Or.inr (Or.inl (.parameter other name h))
          · exact Or.inr (Or.inr (congrArg (none :: ·) h))

/-- The same segment in front keeps the order of what follows. -/
theorem slashed_cons_lt {segment : Segment} {first second : List Segment} {after other : List Char}
    (h : slashed (second.map Segment.colon) ++ after < slashed (first.map Segment.colon) ++ other) :
    slashed ((segment :: second).map Segment.colon) ++ after <
      slashed ((segment :: first).map Segment.colon) ++ other := by
  rw [List.map_cons, List.map_cons, slashed_cons, slashed_cons, List.cons_append,
    List.cons_append, List.append_assoc, List.append_assoc]
  exact List.cons_lt_cons_iff.2 (Or.inr ⟨rfl, List.append_left_lt h⟩)

/-- Of two routes whose names agree, the one that has a literal first is greater. -/
theorem slashed_colon_lt {first second : List Segment} (hbeats : Beats first second)
    (hnames : NamesAgree first second) (hplain : ∀ segment ∈ first, segment.IsPlain)
    (after other : List Char) :
    slashed (second.map Segment.colon) ++ after < slashed (first.map Segment.colon) ++ other := by
  induction hbeats with
  | here text name first second =>
    have htext := hplain _ List.mem_cons_self
    show '/' :: (':' :: (name.toList ++ slashed (second.map Segment.colon))) ++ after <
      '/' :: (text.toList ++ slashed (first.map Segment.colon)) ++ other
    cases hfirst : text.toList with
    | nil => exact absurd hfirst (Segment.toList_ne_nil htext.1)
    | cons c rest =>
      have habove : ':' < c := htext.2.2.1 c (by rw [hfirst]; rfl)
      exact List.cons_lt_cons_iff.2 (Or.inr ⟨rfl, List.cons_lt_cons_iff.2 (Or.inl habove)⟩)
  | literal text h ih =>
    cases hnames with
    | literal _ _ hnames =>
      have hrest := ih hnames fun segment hmem => hplain segment (List.mem_cons_of_mem _ hmem)
      exact slashed_cons_lt hrest
  | parameter name other' h ih =>
    cases hnames with
    | parameter _ hnames =>
      have hrest := ih hnames fun segment hmem => hplain segment (List.mem_cons_of_mem _ hmem)
      exact slashed_cons_lt hrest

/-- Of two keys whose names agree, the one that has a literal first has the greater route. -/
theorem PlainKey.route_lt_route {first second : PlainKey}
    (hbeats : Beats first.segments second.segments)
    (hnames : NamesAgree first.segments second.segments) : second.route < first.route := by
  show second.route.toList < first.route.toList
  unfold route
  rw [String.toList_ofList, String.toList_ofList]
  exact slashed_colon_lt hbeats hnames first.isPlain _ _

end Route
end RequestGate
