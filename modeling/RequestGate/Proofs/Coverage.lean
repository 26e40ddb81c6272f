import Mathlib.Data.Set.Finite.Basic
import Mathlib.Data.Set.Finite.Range
import RequestGate.Proofs.Faithfulness
import RequestGate.Proofs.Planning
import RequestGate.Proofs.Precedence
import RequestGate.Gate.Startup

/-!
# Templates that no path resolves to

A template covers another one when it fits every path that the other fits.  A path resolves to the
greatest template that fits it, so a template below one that covers it is dead.  Any other template is
reached by some path: one that repeats its literals and has a text for every parameter that is no
literal of the index.

Main results:

- Theorem `Route.segments_filledPath`: the path of a template with every parameter filled in.
- Theorem `Route.Index.exists_resolve?_iff`: a template is reached exactly when no greater one covers
  it.
- Theorem `Route.sameShape_or_beats_of_covers`: a template that covers another one has its shape, or a
  parameter where the other first has a literal.
- Theorem `Gate.exists_plan?_route`: which operations some request is planned for.
- Theorem `Gate.dead`: path keys of one shape, names of parameters and letters in title case leave
  operations without requests.
-/

namespace RequestGate
namespace Route

open Pieces

/-! ## Templates that cover others -/

/-- A segment fits whatever another one fits. -/
inductive Segment.Covers : Segment → Segment → Prop
  | literal (text : String) : Covers (.literal text) (.literal text)
  | parameterLiteral (name : String) {text : String} (h : text ≠ "") :
    Covers (.parameter name) (.literal text)
  | parameter (name other : String) : Covers (.parameter name) (.parameter other)

/-- A list of segments fits whatever another one fits, segment by segment. -/
def Covers (general special : List Segment) : Prop :=
  List.Forall₂ Segment.Covers general special

/-- Two lists of segments are the same but for the names of parameters. -/
def SameShape (first second : List Segment) : Prop :=
  first.map Segment.anonymous = second.map Segment.anonymous

instance (first second : List Segment) : Decidable (SameShape first second) :=
  inferInstanceAs (Decidable (_ = _))

theorem Segment.Covers.fits {general special : Segment} (h : general.Covers special) {part : String}
    (hfits : special.fits part = true) : general.fits part = true := by
  cases h with
  | literal text => exact hfits
  | parameterLiteral name htext =>
    have hpart := of_decide_eq_true hfits
    exact decide_eq_true (hpart ▸ htext)
  | parameter name other => exact hfits

/-- What covers a list of segments fits the parts that the list fits. -/
theorem Covers.fits {general special : List Segment} (h : Covers general special)
    {parts : List String} (hfits : Route.fits special parts = true) :
    Route.fits general parts = true := by
  rw [fits_eq_true_iff] at hfits ⊢
  induction h generalizing parts with
  | nil =>
    cases hfits
    exact .nil
  | cons hsegment _ ih =>
    cases hfits with
    | cons hpart hparts => exact .cons (hsegment.fits hpart) (ih hparts)

/-- What covers a list of segments has its shape, or a parameter where the list first has a literal. -/
theorem sameShape_or_beats_of_covers {general special : List Segment} (h : Covers general special) :
    SameShape general special ∨ Beats special general := by
  induction h with
  | nil => exact Or.inl rfl
  | @cons _ _ generals specials hsegment _ ih =>
    cases hsegment with
    | parameterLiteral name htext => exact Or.inr (.here _ name specials generals)
    | literal text =>
      rcases ih with hshape | hbeats
      · exact Or.inl (congrArg (some text :: ·) hshape)
      · exact Or.inr (.literal text hbeats)
    | parameter name other =>
      rcases ih with hshape | hbeats
      · exact Or.inl (congrArg (none :: ·) hshape)
      · exact Or.inr (.parameter other name hbeats)

/-- Lists of segments of one shape cover each other. -/
theorem SameShape.covers {first second : List Segment} (h : SameShape first second) :
    Covers first second := by
  induction first generalizing second with
  | nil =>
    rw [List.map_eq_nil_iff.1 h.symm]
    exact .nil
  | cons a first ih =>
    cases second with
    | nil => cases h
    | cons b second =>
      obtain ⟨hsegment, hrest⟩ := List.cons.inj h
      refine .cons ?_ (ih hrest)
      cases a with
      | literal text =>
        cases b with
        | literal other =>
          cases hsegment
          exact .literal text
        | parameter name => cases hsegment
      | parameter name =>
        cases b with
        | literal text => cases hsegment
        | parameter other => exact .parameter name other

/-! ## Paths made from a template -/

/-- The part of a path for a segment: the literal, or a value for the parameter. -/
def Segment.filled (value : String) : Segment → String
  | literal text => text
  | parameter _ => value

/-- The path of segments with one value for every parameter, with a slash at its end. -/
def filledPath (value : String) (segments : List Segment) : String :=
  String.ofList (slashed (segments.map fun segment => (segment.filled value).toList) ++ ['/'])

/-- A path of parts without slashes, with a slash at its end, has these parts, also where they are
empty. -/
theorem segments_of_toList_eq {path : String} {parts : List (List Char)} (hne : parts ≠ [])
    (hpath : path.toList = slashed parts ++ ['/']) (hparts : ∀ part ∈ parts, '/' ∉ part) :
    segments path = parts.map String.ofList := by
  cases parts with
  | nil => exact absurd rfl hne
  | cons first rest =>
    rw [List.forall_mem_cons] at hparts
    unfold segments
    rw [hpath, slashed_cons, List.cons_append, dropFirst, if_pos rfl, dropLast_append_singleton,
      if_pos rfl, pieces_slashed hparts.1 hparts.2]

/-- Segments fit the parts they are filled to. -/
theorem fits_filled {value : String} (hvalue : value ≠ "") (segments : List Segment) :
    fits segments (segments.map (Segment.filled value)) = true := by
  induction segments with
  | nil => rfl
  | cons segment segments ih =>
    rw [List.map_cons, fits, ih, Bool.and_true]
    cases segment with
    | literal text => exact decide_eq_true rfl
    | parameter name => exact decide_eq_true hvalue

/-- Segments without the value among their literals cover those that they fit when filled with it. -/
theorem covers_of_fits_filled {value : String} {general special : List Segment}
    (hvalue : Segment.literal value ∉ general)
    (h : fits general (special.map (Segment.filled value)) = true) : Covers general special := by
  rw [fits_eq_true_iff, List.forall₂_map_right_iff] at h
  induction h with
  | nil => exact .nil
  | @cons a b generals specials hfits _ ih =>
    rw [List.mem_cons, not_or] at hvalue
    refine .cons ?_ (ih hvalue.2)
    cases a with
    | literal text =>
      have htext : text = b.filled value := of_decide_eq_true hfits
      cases b with
      | literal other =>
        obtain rfl : text = other := htext
        exact .literal text
      | parameter name => exact absurd (congrArg Segment.literal htext.symm) hvalue.1
    | parameter name =>
      cases b with
      | literal text => exact .parameterLiteral name (of_decide_eq_true hfits)
      | parameter other => exact .parameter name other

/-! ## Segments of a template -/

/-- No literal of a template has a slash. -/
theorem slash_notMem_of_literal_mem {template text : String}
    (h : Segment.literal text ∈ templateSegments template) : '/' ∉ text.toList := by
  obtain ⟨part, hpart, hread⟩ := List.mem_map.1 h
  have htext : part.toList = text.toList := by
    rw [← Segment.colon_ofText, hread]
    rfl
  obtain ⟨piece, hpiece, rfl⟩ := List.mem_map.1 hpart
  rw [String.toList_ofList] at htext
  rw [← htext]
  exact separator_notMem_of_mem_pieces hpiece

theorem templateSegments_ne_nil (template : String) : templateSegments template ≠ [] := by
  unfold templateSegments segments
  simp [pieces_ne_nil]

/-- The path of a template with its parameters filled in has the literals and the values as parts. -/
theorem segments_filledPath {value template : String} (hvalue : '/' ∉ value.toList) :
    segments (filledPath value (templateSegments template)) =
      (templateSegments template).map (Segment.filled value) := by
  have hparts : ∀ part ∈ (templateSegments template).map fun segment =>
      (segment.filled value).toList, '/' ∉ part := by
    intro part hpart
    obtain ⟨segment, hsegment, rfl⟩ := List.mem_map.1 hpart
    cases segment with
    | literal text => exact slash_notMem_of_literal_mem hsegment
    | parameter name => exact hvalue
  have hne : ((templateSegments template).map fun segment => (segment.filled value).toList) ≠ [] :=
    fun hnil => templateSegments_ne_nil template (List.map_eq_nil_iff.1 hnil)
  have hpath : (filledPath value (templateSegments template)).toList =
      slashed ((templateSegments template).map fun segment => (segment.filled value).toList) ++ ['/'] :=
    String.toList_ofList
  rw [segments_of_toList_eq hne hpath hparts, List.map_map]
  refine List.map_congr_left fun segment _ => ?_
  exact String.ofList_toList

/-! ## Lower case -/

/-- A text that consists of images of themselves is its own lower case. -/
theorem lower_eq_of_forall_isImage {text : String}
    (h : ∀ c ∈ text.toList, Case.IsImage c [c]) : Case.lower text = text :=
  String.toList_inj.1 ((Case.isLowering_lower text).eq_of_isImage_self h)

theorem isImage_of_lower_eq {text : String} (h : Case.lower text = text) {c : Char}
    (hc : c ∈ text.toList) : Case.IsImage c [c] :=
  (Case.isLowering_lower text).isImage_self_of_mem (congrArg String.toList h) hc

/-- Every literal of a template is its own lower case. -/
def HasLowerLiterals (template : String) : Prop :=
  ∀ text, Segment.literal text ∈ templateSegments template → Case.lower text = text

/-- The path of a template whose literals are in lower case is in lower case when the value is. -/
theorem lower_filledPath {value template : String} (htemplate : HasLowerLiterals template)
    (hvalue : Case.lower value = value) :
    Case.lower (filledPath value (templateSegments template)) =
      filledPath value (templateSegments template) := by
  have hslash : Case.IsImage '/' ['/'] := Or.inr ⟨by decide, by decide⟩
  apply lower_eq_of_forall_isImage
  intro c hc
  unfold filledPath slashed at hc
  rw [String.toList_ofList, List.mem_append, List.mem_singleton] at hc
  rcases hc with hc | rfl
  · obtain ⟨part, hpart, hc⟩ := List.mem_flatMap.1 hc
    obtain ⟨segment, hsegment, rfl⟩ := List.mem_map.1 hpart
    rcases List.mem_cons.1 hc with rfl | hc
    · exact hslash
    · cases segment with
      | literal text => exact isImage_of_lower_eq (htemplate text hsegment) hc
      | parameter name => exact isImage_of_lower_eq hvalue hc
  · exact hslash

/-- The literals of segments are among the parts that they fit. -/
theorem mem_of_fits {segments : List Segment} {parts : List String} {text : String}
    (hfits : fits segments parts = true) (hliteral : .literal text ∈ segments) : text ∈ parts := by
  rw [fits_eq_true_iff] at hfits
  induction hfits with
  | nil => exact absurd hliteral List.not_mem_nil
  | cons hpart _ ih =>
    rcases List.mem_cons.1 hliteral with rfl | hrest
    · rw [of_decide_eq_true hpart]
      exact List.mem_cons_self
    · exact List.mem_cons_of_mem _ (ih hrest)

/-- No part of a path in lower case has a character that lowering never gives. -/
theorem notMem_of_mem_segments_lower {path part : String} {c : Char} (hc : Case.IsNoImage c)
    (hpart : part ∈ segments (Case.lower path)) : c ∉ part.toList := by
  obtain ⟨sent, hlowering⟩ := exists_isLowering_of_mem hpart
  exact hlowering.notMem_of_isNoImage hc

/-- The literals of templates. -/
def literals (templates : List String) : List String :=
  (templates.flatMap templateSegments).filterMap Segment.anonymous

theorem mem_literals {templates : List String} {text : String} :
    text ∈ literals templates ↔ ∃ template ∈ templates, .literal text ∈ templateSegments template := by
  unfold literals
  rw [List.mem_filterMap]
  constructor
  · rintro ⟨segment, hsegment, htext⟩
    obtain ⟨template, htemplate, hmem⟩ := List.mem_flatMap.1 hsegment
    cases segment with
    | literal other =>
      cases htext
      exact ⟨template, htemplate, hmem⟩
    | parameter name => cases htext
  · rintro ⟨template, htemplate, hmem⟩
    exact ⟨_, List.mem_flatMap.2 ⟨template, htemplate, hmem⟩, rfl⟩

/-- Some value is no literal of templates: there are more texts of one letter than literals. -/
theorem exists_fresh_value (templates : List String) :
    ∃ value, value ≠ "" ∧ '/' ∉ value.toList ∧ Case.lower value = value ∧
      ∀ template ∈ templates, Segment.literal value ∉ templateSegments template := by
  have hinjective : Function.Injective fun n : Nat => String.ofList (List.replicate (n + 1) 'v') := by
    intro m n hmn
    have hlength := congrArg List.length (String.ofList_inj.1 hmn)
    simpa using hlength
  obtain ⟨value, ⟨n, hvalue⟩, hfresh⟩ :=
    (Set.infinite_range_of_injective hinjective).exists_notMem_finset (literals templates).toFinset
  have hlist : value.toList = List.replicate (n + 1) 'v' := by
    rw [← hvalue]
    exact String.toList_ofList
  have hletters : ∀ c ∈ value.toList, c = 'v' := by
    intro c hc
    rw [hlist] at hc
    exact List.eq_of_mem_replicate hc
  refine ⟨value, ?_, ?_, ?_, ?_⟩
  · rintro rfl
    cases hlist
  · exact fun hslash => absurd (hletters '/' hslash) (by decide)
  · apply lower_eq_of_forall_isImage
    intro c hc
    rw [hletters c hc]
    exact Or.inr ⟨by decide, by decide⟩
  · intro template htemplate hmem
    exact hfresh (List.mem_toFinset.2 (mem_literals.2 ⟨template, htemplate, hmem⟩))

namespace Index

/-- No path resolves to a template that a greater one covers. -/
theorem resolve?_ne_of_covers {index : Index} {template other : String}
    (hother : other ∈ index.templates) (hlt : template < other)
    (hcovers : Covers (templateSegments other) (templateSegments template)) (path : String)
    (captures : Captures) : index.resolve? path ≠ some ⟨template, captures⟩ := by
  intro hresolve
  obtain ⟨hmem, hfits⟩ := fits_of_resolve?_eq_some hresolve
  have hgreatest := ((exists_resolve?_eq_some_iff hmem).1 ⟨captures, hresolve⟩).2
  exact hgreatest other hother (hcovers.fits hfits) hlt

/-- Some path resolves to a template whose literals are in lower case exactly when no greater template
covers it. -/
theorem exists_resolve?_iff {index : Index} {template : String}
    (hmem : template ∈ index.templates) (hlower : HasLowerLiterals template) :
    (∃ path captures, index.resolve? path = some ⟨template, captures⟩) ↔
      ∀ other ∈ index.templates, template < other →
        ¬ Covers (templateSegments other) (templateSegments template) := by
  constructor
  · rintro ⟨path, captures, hresolve⟩ other hother hlt hcovers
    exact resolve?_ne_of_covers hother hlt hcovers path captures hresolve
  · intro hfree
    obtain ⟨value, hne, hslash, hvalue, hfresh⟩ := exists_fresh_value index.templates
    have hpath := lower_filledPath hlower hvalue
    have hparts : segments (filledPath value (templateSegments template)) =
        (templateSegments template).map (Segment.filled value) := segments_filledPath hslash
    refine ⟨filledPath value (templateSegments template), ?_⟩
    rw [exists_resolve?_eq_some_iff hmem, hpath, hparts]
    refine ⟨fits_filled hne _, fun other hother hfits hlt => ?_⟩
    exact hfree other hother hlt (covers_of_fits_filled (hfresh other hother) hfits)

end Index

/-- A template that leaves a literal of another one open is below it, when their parameters are called
the same up to that literal. -/
theorem lt_of_beats {general special : String} (hgeneral : general.toList.head? = some '/')
    (hspecial : special.toList.head? = some '/') (hletters : HasLetters special)
    (hbeats : Beats (templateSegments special) (templateSegments general))
    (hnames : NamesAgree (templateSegments special) (templateSegments general)) :
    general < special := by
  obtain ⟨i, text, name, hdiffer⟩ := hbeats.exists_differAt hnames
  obtain ⟨byte, hbyte, hleast, _⟩ := hletters text (List.mem_of_getElem? hdiffer.literal)
  have habove : colonByte < byte := UInt8.lt_of_lt_of_le (by decide) hleast
  exact (hdiffer.order hspecial hgeneral hbyte).1 habove

/-- The route of a key that starts with a slash starts with it. -/
theorem head?_ofBraces {key : String} (h : key.toList.head? = some '/') :
    (ofBraces key).toList.head? = some '/' := by
  obtain ⟨rest, hrest⟩ := List.head?_eq_some_iff.1 h
  show (String.ofList (rewritten key.toList)).toList.head? = some '/'
  rw [String.toList_ofList, hrest]
  rfl

end Route

namespace Description

open Route

/-- A path key with the same shape as a template has a greater route. -/
def HasGreaterTwin (description : Description) (template : String) : Prop :=
  ∃ twin ∈ description.paths.names,
    SameShape (templateSegments (ofBraces twin)) (templateSegments (ofBraces template)) ∧
      ofBraces template < ofBraces twin

/-- The path keys that cover a template and leave a literal of it open call their parameters as the
template does, up to that literal. -/
def NamesAgreeFor (description : Description) (template : String) : Prop :=
  ∀ key ∈ description.paths.names,
    Covers (templateSegments (ofBraces key)) (templateSegments (ofBraces template)) →
      Beats (templateSegments (ofBraces template)) (templateSegments (ofBraces key)) →
        NamesAgree (templateSegments (ofBraces template)) (templateSegments (ofBraces key))

end Description

namespace Gate

open Route

variable {σ : Type}

/-- A request is planned for an operation that has rules exactly when some path resolves to its
route. -/
theorem exists_plan?_iff {gate : Gate σ} {route method : String} {verb : Verb}
    (hmethod : Verb.ofName? method = some verb)
    (hrules : (gate.compiled.rules.lookup? route verb).isSome = true) :
    (∃ path plan, gate.plan? path method = some plan ∧ plan.route = route ∧ plan.verb = verb) ↔
      ∃ path captures, gate.compiled.routes.resolve? path = some ⟨route, captures⟩ := by
  constructor
  · rintro ⟨path, plan, hplan, rfl, _⟩
    exact ⟨path, plan.captures, (plan?_eq_some_iff.1 hplan).2.1⟩
  · rintro ⟨path, captures, hresolve⟩
    obtain ⟨rules, hlookup⟩ := Option.isSome_iff_exists.1 hrules
    refine ⟨path, ⟨route, verb, rules, captures⟩, ?_, rfl, rfl⟩
    exact plan?_eq_some_iff.2 ⟨hmethod, hresolve, hlookup⟩

/-- An operation that has rules is planned for some request exactly when no path key of the same shape
has a greater route.  The literals of its template start with a small letter and are their own lower
case, and names of parameters do not put a more general template before it. -/
theorem exists_plan?_route {description : Description} {gate : Gate σ} {template method : String}
    {verb : Verb} (hcompile : description.compile = .ok gate.compiled)
    (hslash : ∀ key ∈ description.paths.names, key.toList.head? = some '/')
    (htemplate : template ∈ description.paths.names) (hletters : HasLetters (ofBraces template))
    (hlower : HasLowerLiterals (ofBraces template)) (hmethod : Verb.ofName? method = some verb)
    (hrules : (gate.compiled.rules.lookup? (ofBraces template) verb).isSome = true)
    (hnames : description.NamesAgreeFor template) :
    (∃ path plan, gate.plan? path method = some plan ∧ plan.route = ofBraces template ∧
      plan.verb = verb) ↔ ¬ description.HasGreaterTwin template := by
  have hmem := (Description.mem_routes_compile hcompile).2 ⟨template, htemplate, rfl⟩
  rw [exists_plan?_iff hmethod hrules, Index.exists_resolve?_iff hmem hlower]
  constructor
  · rintro hfree ⟨twin, htwin, hshape, hlt⟩
    exact hfree _ ((Description.mem_routes_compile hcompile).2 ⟨twin, htwin, rfl⟩) hlt hshape.covers
  · intro htwin other hother hlt hcovers
    obtain ⟨key, hkey, rfl⟩ := (Description.mem_routes_compile hcompile).1 hother
    rcases sameShape_or_beats_of_covers hcovers with hshape | hbeats
    · exact htwin ⟨key, hkey, hshape, hlt⟩
    · have hbelow := lt_of_beats (head?_ofBraces (hslash key hkey))
        (head?_ofBraces (hslash template htemplate)) hletters hbeats
        (hnames key hkey hcovers hbeats)
      exact String.lt_asymm hlt hbelow

/-! ## Operations that are reached, and operations that are not -/

/-- A description with the same operation for every path key: it requires a query parameter. -/
def demandingToken (keys : List String) : Description where
  swagger := none
  openapi := none
  paths := keys.map fun key => (key, ⟨fun
    | .get => some ⟨none, some [⟨some "token", some "query", none, some true, none, none, none⟩], none⟩
    | _ => none⟩)

/-- Two keys of one shape and one that leaves their literal open. -/
def personKeys : List String :=
  ["/users/\x7bid\x7d", "/users/\x7bname\x7d", "/\x7bkind\x7d/\x7bid\x7d"]

theorem templateSegments_name :
    templateSegments (ofBraces "/users/\x7bname\x7d") = [.literal "users", .parameter "name"] := by
  decide

theorem templateSegments_id :
    templateSegments (ofBraces "/users/\x7bid\x7d") = [.literal "users", .parameter "id"] := by
  decide

theorem templateSegments_kind :
    templateSegments (ofBraces "/\x7bkind\x7d/\x7bid\x7d") = [.parameter "kind", .parameter "id"] := by
  decide

/-- A list of segments has no literal before itself but for the name of a parameter. -/
theorem not_beats_users (name other : String) :
    ¬ Beats [.literal "users", .parameter name] [.literal "users", .parameter other] := by
  intro hbeats
  cases hbeats with
  | literal _ hbeats =>
    cases hbeats with
    | parameter _ _ hbeats => cases hbeats

theorem namesAgreeFor_person : (demandingToken personKeys).NamesAgreeFor "/users/\x7bname\x7d" := by
  intro key hkey _ hbeats
  have hkeys : key ∈ personKeys := hkey
  simp only [personKeys, List.mem_cons, List.not_mem_nil, or_false] at hkeys
  rcases hkeys with rfl | rfl | rfl
  · rw [templateSegments_name, templateSegments_id] at hbeats
    exact absurd hbeats (not_beats_users "name" "id")
  · rw [templateSegments_name] at hbeats
    exact absurd hbeats (not_beats_users "name" "name")
  · rw [templateSegments_name, templateSegments_kind]
    exact .literalFirst _ _ _ _

/-- The hypotheses are satisfied where a path key of the same shape has a smaller route and a more
general one fits as well. -/
theorem person_exists_plan?_route : ∃ gate : Gate Checker,
    prepare (demandingToken personKeys) .default = .ok gate ∧
      ∃ path plan, gate.plan? path "GET" = some plan ∧
        plan.route = ofBraces "/users/\x7bname\x7d" ∧ plan.verb = .get := by
  have hletters : HasLetters (ofBraces "/users/\x7bname\x7d") := by
    intro text htext
    rw [templateSegments_name] at htext
    obtain rfl : text = "users" := by simpa using htext
    exact ⟨0x75, rfl, by decide, by decide⟩
  have hlower : HasLowerLiterals (ofBraces "/users/\x7bname\x7d") := by
    intro text htext
    rw [templateSegments_name] at htext
    obtain rfl : text = "users" := by simpa using htext
    decide
  have htwin : ¬ (demandingToken personKeys).HasGreaterTwin "/users/\x7bname\x7d" := by
    unfold Description.HasGreaterTwin
    decide
  refine ⟨_, rfl, ?_⟩
  exact (exists_plan?_route rfl (by decide) (by decide) hletters hlower (by decide) rfl
    namesAgreeFor_person).2 htwin

/-! ### Dead operations -/

/-- A text has no braces. -/
def isBraceless (text : List Char) : Bool :=
  text.all fun c => c ≠ '\x7b' && c ≠ '\x7d'

/-- A piece of a path key is a literal that starts with a small letter and has no character in upper
case, or a whole placeholder with a name. -/
def isOrdinaryPiece : List Char → Bool
  | [] => false
  | c :: rest =>
    if c = '\x7b' then
      rest.getLast? = some '\x7d' && rest.dropLast ≠ [] && isBraceless rest.dropLast
    else 'a' ≤ c && c ≤ 'z' && rest.all (!Case.isUpper ·) && isBraceless rest

/-- A path key starts with a slash, and all of its pieces are ordinary. -/
def isOrdinaryKey (key : String) : Bool :=
  match key.toList with
  | '/' :: rest => (Pieces.pieces '/' rest).all isOrdinaryPiece
  | _ => false

/-- An operation has rules and no request is planned for it, although all path keys are ordinary. -/
def IsDead (description : Description) (template : String) : Prop :=
  description.paths.names.all isOrdinaryKey = true ∧ template ∈ description.paths.names ∧
    ∃ gate : Gate Checker, prepare description .default = .ok gate ∧
      (gate.compiled.rules.lookup? (ofBraces template) .get).isSome = true ∧
      ¬ ∃ path plan, gate.plan? path "GET" = some plan ∧ plan.route = ofBraces template ∧
        plan.verb = .get

/-- No request is planned for an operation when a greater route covers it. -/
theorem not_exists_plan?_of_covers {gate : Gate σ} {route other method : String} {verb : Verb}
    (hother : other ∈ gate.compiled.routes.templates) (hlt : route < other)
    (hcovers : Covers (templateSegments other) (templateSegments route)) :
    ¬ ∃ path plan, gate.plan? path method = some plan ∧ plan.route = route ∧ plan.verb = verb := by
  rintro ⟨path, plan, hplan, rfl, _⟩
  have hresolve := (plan?_eq_some_iff.1 hplan).2.1
  exact Index.resolve?_ne_of_covers hother hlt hcovers path plan.captures hresolve

/-- No request is planned for an operation with a literal that has a character which is never the
result of lowering. -/
theorem not_exists_plan?_of_isNoImage {gate : Gate σ} {route method text : String} {verb : Verb}
    {c : Char} (hliteral : .literal text ∈ templateSegments route) (hmem : c ∈ text.toList)
    (hc : Case.IsNoImage c) :
    ¬ ∃ path plan, gate.plan? path method = some plan ∧ plan.route = route ∧ plan.verb = verb := by
  rintro ⟨path, plan, hplan, rfl, _⟩
  have hfits := (Index.fits_of_resolve?_eq_some (plan?_eq_some_iff.1 hplan).2.1).2
  exact notMem_of_mem_segments_lower hc (mem_of_fits hfits hliteral) hmem

/-- Operations are dead behind a path key of the same shape, behind a more general one that calls its
first parameter differently, and when a literal has a letter in title case. -/
theorem dead :
    IsDead (demandingToken ["/users/\x7bid\x7d", "/users/\x7bname\x7d"]) "/users/\x7bid\x7d" ∧
    IsDead (demandingToken ["/\x7borg\x7d/teams", "/\x7buser\x7d/\x7brepo\x7d"])
      "/\x7borg\x7d/teams" ∧
    IsDead (demandingToken ["/a\u01C5"]) "/a\u01C5" := by
  have hteams : templateSegments (ofBraces "/\x7borg\x7d/teams") =
      [.parameter "org", .literal "teams"] := by
    decide
  have hrepo : templateSegments (ofBraces "/\x7buser\x7d/\x7brepo\x7d") =
      [.parameter "user", .parameter "repo"] := by
    decide
  refine ⟨⟨by decide, by decide, _, rfl, rfl, ?_⟩, ⟨by decide, by decide, _, rfl, rfl, ?_⟩,
    ⟨by decide, by decide, _, rfl, rfl, ?_⟩⟩
  · have hname : ofBraces "/users/\x7bid\x7d" < ofBraces "/users/\x7bname\x7d" := by decide
    refine not_exists_plan?_of_covers (by decide) hname ?_
    rw [templateSegments_name, templateSegments_id]
    exact SameShape.covers (by decide)
  · have huser : ofBraces "/\x7borg\x7d/teams" < ofBraces "/\x7buser\x7d/\x7brepo\x7d" := by decide
    refine not_exists_plan?_of_covers (by decide) huser ?_
    rw [hteams, hrepo]
    exact .cons (.parameter "user" "org") (.cons (.parameterLiteral "repo" (by decide)) .nil)
  · have htitle : Case.IsNoImage '\u01C5' :=
      Case.isNoImage_of_isUnreached (by decide) (by decide) (by decide +kernel) (by decide +kernel)
    have hliteral : Segment.literal "a\u01C5" ∈ templateSegments (ofBraces "/a\u01C5") := by decide
    exact not_exists_plan?_of_isNoImage hliteral (by decide) htitle

end Gate
end RequestGate
