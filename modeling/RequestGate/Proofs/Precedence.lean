import RequestGate.Proofs.ByteOrder
import RequestGate.Proofs.PlainKey
import RequestGate.Proofs.Resolution

/-!
# Literals and parameters at the first difference

An index tries its templates in descending order of their bytes.  A template that starts with a slash
is its segments, each after a slash, so templates with the same segments up to some place are ordered
by what stands there.  A literal is compared with the colon of a parameter by its first byte, whatever
follows in either template.

Main results:

- Theorem `Route.toList_eq_slashed`: a template is its segments, each after a slash.
- Theorem `Route.DifferAt.order`: the first byte of the literal decides which of two templates is
  greater.
- Theorem `Route.Index.resolve?_of_first_difference`: which of two templates a path never resolves to.
- Theorem `Route.Index.resolve?_of_isMoreSpecific`: a template whose parameters are called the same is
  not preferred to a more specific one.
- Theorem `Route.Index.shadowed`: the names of the parameters have to be the same.
-/

namespace RequestGate
namespace Route

open Pieces

/-! ## A template and its segments -/

/-- Reading a segment keeps how it is written. -/
@[simp]
theorem Segment.colon_ofText (text : String) : (Segment.ofText text).colon = text.toList := by
  unfold ofText
  split
  · rename_i c rest htext
    show ':' :: (String.ofList (c :: rest)).toList = text.toList
    rw [String.toList_ofList, htext]
  · rfl

/-- Texts, each after a slash, are the joined text after a slash. -/
theorem slashed_eq_cons_join {parts : List (List Char)} (h : parts ≠ []) :
    slashed parts = '/' :: join '/' parts := by
  induction parts with
  | nil => exact absurd rfl h
  | cons part rest ih =>
    cases rest with
    | nil => simp [join]
    | cons next rest => rw [slashed_cons, ih (List.cons_ne_nil _ _), join]

/-- A text is what stands before a slash at its end, and that slash if there is one. -/
theorem exists_eq_dropLast_append (text : List Char) :
    ∃ slash, text = dropLast '/' text ++ ending slash := by
  induction text using List.reverseRecOn with
  | nil => exact ⟨false, rfl⟩
  | append_singleton text c _ =>
    rw [dropLast_append_singleton]
    by_cases hc : c = '/'
    · exact ⟨true, by rw [if_pos hc, hc]; rfl⟩
    · exact ⟨false, by rw [if_neg hc]; exact (List.append_nil _).symm⟩

/-- A template that starts with a slash is its segments, each after a slash, and possibly a slash at
its end. -/
theorem toList_eq_slashed {template : String} (h : template.toList.head? = some '/') :
    ∃ slash, template.toList =
      slashed ((templateSegments template).map Segment.colon) ++ ending slash := by
  obtain ⟨rest, hrest⟩ := List.head?_eq_some_iff.1 h
  obtain ⟨slash, hslash⟩ := exists_eq_dropLast_append rest
  refine ⟨slash, ?_⟩
  have hsegments : (templateSegments template).map Segment.colon =
      pieces '/' (dropLast '/' rest) := by
    unfold templateSegments segments
    rw [hrest, dropFirst, if_pos rfl, List.map_map, List.map_map]
    refine (List.map_congr_left fun piece _ => ?_).trans (List.map_id _)
    simp
  rw [hsegments, slashed_eq_cons_join (pieces_ne_nil _ _), join_pieces, hrest, List.cons_append,
    ← hslash]

/-! ## Bytes -/

/-- The bytes of a template, cut in front of one of its segments. -/
theorem encode_eq_append {template : String} {before after : List Segment} {segment : Segment}
    (h : template.toList.head? = some '/')
    (hsegments : templateSegments template = before ++ segment :: after) :
    ∃ rest, Utf8.encode template =
      (slashed (before.map Segment.colon) ++ ['/']).flatMap String.utf8EncodeChar ++
        (segment.colon.flatMap String.utf8EncodeChar ++ rest) := by
  obtain ⟨slash, htext⟩ := toList_eq_slashed h
  refine ⟨(slashed (after.map Segment.colon) ++ ending slash).flatMap String.utf8EncodeChar, ?_⟩
  unfold Utf8.encode
  rw [← List.flatMap_append, ← List.flatMap_append, htext, hsegments, List.map_append, List.map_cons]
  simp [slashed]

/-- Two templates with the same segments before the `i`-th, where the first has a literal and the
second a parameter. -/
structure DifferAt (i : Nat) (text name : String) (first second : List Segment) : Prop where
  agree : first.take i = second.take i
  literal : first[i]? = some (.literal text)
  parameter : second[i]? = some (.parameter name)

/-- Lists of segments, split at the place where they first differ. -/
theorem DifferAt.split {i : Nat} {text name : String} {first second : List Segment}
    (h : DifferAt i text name first second) :
    first = first.take i ++ .literal text :: first.drop (i + 1) ∧
      second = first.take i ++ .parameter name :: second.drop (i + 1) := by
  obtain ⟨hfirst, hliteral⟩ := List.getElem?_eq_some_iff.1 h.literal
  obtain ⟨hsecond, hparameter⟩ := List.getElem?_eq_some_iff.1 h.parameter
  constructor
  · rw [← hliteral, ← List.drop_eq_getElem_cons hfirst, List.take_append_drop]
  · rw [h.agree, ← hparameter, ← List.drop_eq_getElem_cons hsecond, List.take_append_drop]

/-- The byte of the colon. -/
def colonByte : UInt8 := 0x3A

/-- Where two templates first differ, the first byte of the literal decides which one is greater. -/
theorem DifferAt.order {i : Nat} {text name a b : String} {byte : UInt8}
    (h : DifferAt i text name (templateSegments a) (templateSegments b))
    (ha : a.toList.head? = some '/') (hb : b.toList.head? = some '/')
    (hbyte : (Utf8.encode text).head? = some byte) :
    (colonByte < byte → b < a) ∧ (byte < colonByte → a < b) := by
  obtain ⟨hsplitA, hsplitB⟩ := h.split
  obtain ⟨restA, hrestA⟩ := encode_eq_append ha hsplitA
  obtain ⟨restB, hrestB⟩ := encode_eq_append hb hsplitB
  obtain ⟨more, hmore⟩ := List.head?_eq_some_iff.1 hbyte
  have hliteral : (Segment.literal text).colon.flatMap String.utf8EncodeChar = byte :: more := hmore
  have hparameter : (Segment.parameter name).colon.flatMap String.utf8EncodeChar =
      colonByte :: name.toList.flatMap String.utf8EncodeChar := rfl
  rw [hliteral, List.cons_append] at hrestA
  rw [hparameter, List.cons_append] at hrestB
  constructor
  · intro habove
    rw [← Utf8.encode_lt_encode_iff, hrestA, hrestB]
    exact List.append_left_lt (List.cons_lt_cons_iff.2 (Or.inl habove))
  · intro hbelow
    rw [← Utf8.encode_lt_encode_iff, hrestA, hrestB]
    exact List.append_left_lt (List.cons_lt_cons_iff.2 (Or.inl hbelow))

/-! ## Resolution -/

/-- A template of a list that starts with a slash and fits a path. -/
structure IsCandidate (templates : List String) (path template : String) : Prop where
  mem : template ∈ templates
  slash : template.toList.head? = some '/'
  fits : fits (templateSegments template) (segments (Case.lower path)) = true

/-- Of two candidates, a path does not resolve to the smaller one. -/
theorem IsCandidate.exists_resolve?_ne {templates : List String} {path smaller greater : String}
    (h : IsCandidate templates path greater) (hlt : smaller < greater) :
    ∃ resolution, (Index.ofList templates).resolve? path = some resolution ∧
      resolution.template ≠ smaller := by
  have hmem := Index.mem_templates_ofList.2 h.mem
  obtain ⟨resolution, hresolve⟩ :=
    Option.isSome_iff_exists.1 (Index.resolve?_isSome_of_fits hmem h.fits)
  refine ⟨resolution, hresolve, ?_⟩
  rintro rfl
  rcases Index.le_of_resolve?_eq_some hresolve hmem h.fits with rfl | hgreater
  · exact String.lt_irrefl _ hlt
  · exact String.lt_asymm hlt hgreater

namespace Index

/-- Where two candidates first differ, a literal that starts above the colon keeps the path from the
template with the parameter, and a literal that starts below it keeps the path from its own template. -/
theorem resolve?_of_first_difference {templates : List String} {path a b text name : String} {i : Nat}
    {byte : UInt8} (ha : IsCandidate templates path a) (hb : IsCandidate templates path b)
    (hdiffer : DifferAt i text name (templateSegments a) (templateSegments b))
    (hbyte : (Utf8.encode text).head? = some byte) :
    (colonByte < byte → ∃ resolution, (ofList templates).resolve? path = some resolution ∧
      resolution.template ≠ b) ∧
    (byte < colonByte → ∃ resolution, (ofList templates).resolve? path = some resolution ∧
      resolution.template ≠ a) := by
  obtain ⟨habove, hbelow⟩ := hdiffer.order ha.slash hb.slash hbyte
  constructor
  · intro hlt
    exact ha.exists_resolve?_ne (habove hlt)
  · intro hlt
    exact hb.exists_resolve?_ne (hbelow hlt)

/-- Templates with a parameter that is tried after one literal and before another. -/
def profileTemplates : List String :=
  ["/users/2/:tab", "/users/me/:tab", "/users/:id/posts"]

/-- A literal that comes first counts more than one that comes later. -/
theorem profiles_resolve?_of_first_difference :
    (∃ resolution, (ofList profileTemplates).resolve? "/Users/ME/posts" = some resolution ∧
      resolution.template ≠ "/users/:id/posts") ∧
    ∃ resolution, (ofList profileTemplates).resolve? "/users/2/posts" = some resolution ∧
      resolution.template ≠ "/users/2/:tab" := by
  have hme : DifferAt 1 "me" "id" (templateSegments "/users/me/:tab")
      (templateSegments "/users/:id/posts") := ⟨by decide, by decide, by decide⟩
  have htwo : DifferAt 1 "2" "id" (templateSegments "/users/2/:tab")
      (templateSegments "/users/:id/posts") := ⟨by decide, by decide, by decide⟩
  have hmeMe : IsCandidate profileTemplates "/Users/ME/posts" "/users/me/:tab" :=
    ⟨by decide, by decide, by decide +kernel⟩
  have hmeId : IsCandidate profileTemplates "/Users/ME/posts" "/users/:id/posts" :=
    ⟨by decide, by decide, by decide +kernel⟩
  have htwoTwo : IsCandidate profileTemplates "/users/2/posts" "/users/2/:tab" :=
    ⟨by decide, by decide, by decide +kernel⟩
  have htwoId : IsCandidate profileTemplates "/users/2/posts" "/users/:id/posts" :=
    ⟨by decide, by decide, by decide +kernel⟩
  exact ⟨(resolve?_of_first_difference hmeMe hmeId hme rfl).1 (by decide),
    (resolve?_of_first_difference htwoTwo htwoId htwo rfl).2 (by decide)⟩

end Index

/-! ## More specific templates -/

/-- A list of segments has a literal wherever another one has, and somewhere it has a literal where
the other has a parameter. -/
structure IsMoreSpecific (first second : List Segment) : Prop where
  keeps_literals : ∀ (i : Nat) other, second[i]? = some (Segment.literal other) →
    ∃ text, first[i]? = some (Segment.literal text)
  fixes_parameter : ∃ (i : Nat) (text name : String),
    first[i]? = some (.literal text) ∧ second[i]? = some (.parameter name)

theorem IsMoreSpecific.tail {first second : List Segment} {a b : Segment}
    (h : IsMoreSpecific (a :: first) (b :: second))
    (hhead : ∀ text name, ¬ (a = .literal text ∧ b = .parameter name)) :
    IsMoreSpecific first second := by
  obtain ⟨i, text, name, hliteral, hparameter⟩ := h.fixes_parameter
  refine ⟨fun i other hother => h.keeps_literals (i + 1) other hother, ?_⟩
  cases i with
  | zero => exact absurd ⟨Option.some.inj hliteral, Option.some.inj hparameter⟩ (hhead text name)
  | succ i => exact ⟨i, text, name, hliteral, hparameter⟩

/-- Of two lists of segments that fit the same parts, the more specific one has a literal first. -/
theorem IsMoreSpecific.beats {first second : List Segment} {parts : List String}
    (h : IsMoreSpecific first second) (hfirst : fits first parts = true)
    (hsecond : fits second parts = true) : Beats first second := by
  rw [fits_eq_true_iff] at hfirst hsecond
  induction hfirst generalizing second with
  | nil =>
    obtain ⟨i, text, name, hliteral, _⟩ := h.fixes_parameter
    exact absurd hliteral (by simp)
  | @cons a part as parts ha _ ih =>
    cases hsecond with
    | @cons b _ bs _ hb hbs =>
      cases a with
      | literal text =>
        cases b with
        | literal other =>
          -- Both literals are the part they fit, so the lists do not differ here.
          have htext : text = other :=
            (of_decide_eq_true ha : text = part).trans (of_decide_eq_true hb : other = part).symm
          subst htext
          exact .literal text (ih (h.tail (by simp)) hbs)
        | parameter name => exact .here text name as bs
      | parameter name =>
        cases b with
        | literal other =>
          obtain ⟨text, htext⟩ := h.keeps_literals 0 other rfl
          cases htext
        | parameter other => exact .parameter name other (ih (h.tail (by simp)) hbs)

/-- Where a list of segments has a literal first and the names agree, there is a first difference. -/
theorem Beats.exists_differAt {first second : List Segment} (hbeats : Beats first second)
    (hnames : NamesAgree first second) : ∃ i text name, DifferAt i text name first second := by
  induction hbeats with
  | here text name first second => exact ⟨0, text, name, rfl, rfl, rfl⟩
  | literal text _ ih =>
    cases hnames with
    | literal _ _ hnames =>
      obtain ⟨i, other, name, h⟩ := ih hnames
      exact ⟨i + 1, other, name, congrArg (List.cons _) h.agree, h.literal, h.parameter⟩
  | parameter name _ _ ih =>
    cases hnames with
    | parameter _ hnames =>
      obtain ⟨i, text, other, h⟩ := ih hnames
      exact ⟨i + 1, text, other, congrArg (List.cons _) h.agree, h.literal, h.parameter⟩

/-- Every literal of a template starts with the byte of a small letter. -/
def HasLetters (template : String) : Prop :=
  ∀ text, Segment.literal text ∈ templateSegments template →
    ∃ byte, (Utf8.encode text).head? = some byte ∧ 0x61 ≤ byte ∧ byte ≤ 0x7A

namespace Index

/-- A path does not resolve to a template when a more specific one fits it, as long as the parameters
are called the same up to the first literal that the other template leaves open. -/
theorem resolve?_of_isMoreSpecific {templates : List String} {path a b : String}
    (ha : IsCandidate templates path a) (hb : IsCandidate templates path b) (hletters : HasLetters a)
    (hmore : IsMoreSpecific (templateSegments a) (templateSegments b))
    (hnames : NamesAgree (templateSegments a) (templateSegments b)) :
    ∃ resolution, (ofList templates).resolve? path = some resolution ∧ resolution.template ≠ b := by
  obtain ⟨i, text, name, hdiffer⟩ := (hmore.beats ha.fits hb.fits).exists_differAt hnames
  obtain ⟨byte, hbyte, hleast, _⟩ := hletters text (List.mem_of_getElem? hdiffer.literal)
  have habove : colonByte < byte := UInt8.lt_of_lt_of_le (by decide) hleast
  exact ha.exists_resolve?_ne ((hdiffer.order ha.slash hb.slash hbyte).1 habove)

/-! ### Teams and repositories -/

theorem templateSegments_teams :
    templateSegments "/:org/teams" = [.parameter "org", .literal "teams"] := by
  decide

theorem hasLetters_teams : HasLetters "/:org/teams" := by
  intro text htext
  rw [templateSegments_teams] at htext
  obtain rfl : text = "teams" := by simpa using htext
  exact ⟨0x74, rfl, by decide, by decide⟩

/-- A literal after a parameter is more specific than two parameters. -/
theorem isMoreSpecific_pair (name text other last : String) :
    IsMoreSpecific [.parameter name, .literal text] [.parameter other, .parameter last] := by
  refine ⟨fun i found hfound => ?_, 1, text, last, rfl, rfl⟩
  rcases i with _ | _ | i <;> simp at hfound

/-- The teams of an owner are not taken for a repository when the owner is called the same. -/
theorem teams_resolve?_of_isMoreSpecific :
    ∃ resolution, (ofList ["/:org/:repo", "/:org/teams"]).resolve? "/acme/teams" = some resolution ∧
      resolution.template ≠ "/:org/:repo" := by
  have hrepo : templateSegments "/:org/:repo" = [.parameter "org", .parameter "repo"] := by decide
  refine resolve?_of_isMoreSpecific ⟨by decide, by decide, by decide⟩
    ⟨by decide, by decide, by decide⟩ hasLetters_teams ?_ ?_
  · rw [hrepo, templateSegments_teams]
    exact isMoreSpecific_pair "org" "teams" "org" "repo"
  · rw [hrepo, templateSegments_teams]
    exact .parameter "org" (.literalFirst "teams" "repo" [] [])

/-- Names of parameters can shadow a more specific template: the name in front of the literal is
compared before the literal is. -/
theorem shadowed : ¬ ∀ (templates : List String) (path a b : String),
    (∀ template ∈ templates, template.toList.head? = some '/' ∧ HasLetters template) →
    IsCandidate templates path a → IsCandidate templates path b →
    IsMoreSpecific (templateSegments a) (templateSegments b) →
    ∀ resolution, (ofList templates).resolve? path = some resolution → resolution.template ≠ b := by
  intro h
  have hrepo : templateSegments "/:user/:repo" = [.parameter "user", .parameter "repo"] := by decide
  refine h ["/:user/:repo", "/:org/teams"] "/acme/teams" "/:org/teams" "/:user/:repo" ?_
    ⟨by decide, by decide, by decide⟩ ⟨by decide, by decide, by decide⟩ ?_ _ rfl rfl
  · rintro template hmem
    rcases List.mem_pair.1 hmem with rfl | rfl
    · exact ⟨by decide, by simp [HasLetters, hrepo]⟩
    · exact ⟨by decide, hasLetters_teams⟩
  · rw [hrepo, templateSegments_teams]
    exact isMoreSpecific_pair "org" "teams" "user" "repo"

end Index

end Route
end RequestGate
