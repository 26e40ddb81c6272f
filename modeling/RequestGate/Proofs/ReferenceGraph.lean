import Mathlib.Data.List.Nodup
import RequestGate.Description.Reference
import RequestGate.Proofs.Fields

/-!
# What references reach

A document is a graph: a value leads to the items and members that it has, and a reference to its
target instead of its members.  This module has the parts of a value, the values that are reached from
another one, and paths that name the references they go through.  A path that goes through a reference
twice can be shortened, so whatever is reached is reached without repetition.

Main results:

- Theorem `Reference.Reaches.isPartOf`: what is reached in a document is a part of the document.
- Theorem `Reference.Reaches.exists_path`: what is reached is reached by a path.
- Theorem `Reference.Path.exists_nodup`: a path has a way around every repetition.
-/

namespace RequestGate

/-! ## Parts of a value -/

namespace Json

/-- Induction over the items and the members of values. -/
@[elab_as_elim]
theorem inductionOn {motive : Json → Prop} (value : Json) (null : motive .null)
    (bool : ∀ b, motive (.bool b)) (number : ∀ n, motive (.number n))
    (string : ∀ text, motive (.string text))
    (array : ∀ items, (∀ item ∈ items, motive item) → motive (.array items))
    (object : ∀ members, (∀ member ∈ members, motive member.2) → motive (.object members)) :
    motive value :=
  @Json.rec motive (fun items => ∀ item ∈ items, motive item)
    (fun members => ∀ member ∈ members, motive member.2) (fun member => motive member.2)
    null bool number string array object (fun _ h => absurd h List.not_mem_nil)
    (fun _ _ hfirst hrest => List.forall_mem_cons.2 ⟨hfirst, hrest⟩)
    (fun _ h => absurd h List.not_mem_nil)
    (fun _ _ hfirst hrest => List.forall_mem_cons.2 ⟨hfirst, hrest⟩) (fun _ _ h => h) value

/-- A value stands in another one, at any depth, or is the other one. -/
inductive IsPartOf (part : Json) : Json → Prop
  | self : IsPartOf part part
  | item {items : List Json} {item : Json} (hmem : item ∈ items) (h : IsPartOf part item) :
    IsPartOf part (.array items)
  | member {members : Fields Json} {member : String × Json} (hmem : member ∈ members)
    (h : IsPartOf part member.2) : IsPartOf part (.object members)

theorem IsPartOf.trans {part middle whole : Json} (hpart : IsPartOf part middle)
    (h : IsPartOf middle whole) : IsPartOf part whole := by
  induction h with
  | self => exact hpart
  | item hmem _ ih => exact .item hmem ih
  | member hmem _ ih => exact .member hmem ih

theorem isPartOf_array {items : List Json} {item : Json} (h : item ∈ items) :
    IsPartOf item (.array items) :=
  .item h .self

theorem isPartOf_object {members : Fields Json} {member : String × Json} (h : member ∈ members) :
    IsPartOf member.2 (.object members) :=
  .member h .self

theorem isPartOf_of_child? {key : String} {value child : Json}
    (h : Pointer.child? key value = some child) : IsPartOf child value := by
  cases value with
  | array items =>
    obtain ⟨i, _, hitem⟩ := Option.bind_eq_some_iff.1 h
    exact isPartOf_array (List.mem_of_getElem? hitem)
  | object members => exact isPartOf_object (Fields.mem_of_get? h)
  | null | bool | number | string => cases h

/-- Keys lead to a part of a value. -/
theorem isPartOf_of_follow? {keys : List String} {value found : Json}
    (h : Pointer.follow? keys value = some found) : IsPartOf found value := by
  induction keys generalizing value with
  | nil =>
    cases h
    exact .self
  | cons key rest ih =>
    obtain ⟨child, hchild, hrest⟩ := Option.bind_eq_some_iff.1 h
    exact (ih hrest).trans (isPartOf_of_child? hchild)

theorem isPartOf_of_pointer? {value found : Json} {pointer : String}
    (h : value.pointer? pointer = some found) : IsPartOf found value := by
  obtain ⟨keys, _, hfound⟩ := Option.bind_eq_some_iff.1 h
  exact isPartOf_of_follow? hfound

end Json

namespace Reference

open Json (IsPartOf)

/-! ## Texts of references -/

/-- A text points at a value: behind `#` it has the pointer of that value. -/
theorem target_eq_ok_iff {root : Json} {text : String} {value : Json} :
    target root text = .ok value ↔ ∃ fragment, text.toList = '#' :: fragment ∧
      root.pointer? (Percent.decodeText (String.ofList fragment)) = some value := by
  unfold target
  split
  · rename_i fragment htext
    cases hpointer : root.pointer? (Percent.decodeText (String.ofList fragment)) <;>
      simp [htext, hpointer]
  · rename_i hremote
    refine iff_of_false (fun h => nomatch h) ?_
    rintro ⟨fragment, htext, _⟩
    exact hremote fragment htext

/-- The target of a reference is a part of the document. -/
theorem isPartOf_of_target {root value : Json} {text : String} (h : target root text = .ok value) :
    IsPartOf value root := by
  obtain ⟨_, _, hpointer⟩ := target_eq_ok_iff.1 h
  exact Json.isPartOf_of_pointer? hpointer

theorem mem_itemTexts {text : String} {items : List Json} :
    text ∈ itemTexts items ↔ ∃ item ∈ items, text ∈ texts item := by
  induction items with
  | nil => simp [itemTexts]
  | cons item rest ih => simp [itemTexts, ih]

theorem mem_memberTexts {text : String} {members : Fields Json} :
    text ∈ memberTexts members ↔ ∃ member ∈ members, text ∈ texts member.2 := by
  induction members with
  | nil => simp [memberTexts]
  | cons member rest ih => simp [memberTexts, ih]

/-- A document has the texts of all references in it. -/
theorem text_mem_texts {root : Json} {members : Fields Json} {text : String}
    (h : IsPartOf (.object members) root) (htext : text? members = some text) :
    text ∈ texts root := by
  induction h with
  | self => simp [texts, htext]
  | item hmem _ ih => exact mem_itemTexts.2 ⟨_, hmem, ih⟩
  | member hmem _ ih => exact List.mem_append_right _ (mem_memberTexts.2 ⟨_, hmem, ih⟩)

/-! ## Parts that are exposed -/

/-- A part stands in a value and in no reference, if it is not the value itself. -/
inductive IsExposedIn (part : Json) : Json → Prop
  | self : IsExposedIn part part
  | item {items : List Json} {item : Json} (hmem : item ∈ items) (h : IsExposedIn part item) :
    IsExposedIn part (.array items)
  | member {members : Fields Json} {member : String × Json} (hnone : text? members = none)
    (hmem : member ∈ members) (h : IsExposedIn part member.2) : IsExposedIn part (.object members)

theorem IsExposedIn.trans {part middle whole : Json} (hpart : IsExposedIn part middle)
    (h : IsExposedIn middle whole) : IsExposedIn part whole := by
  induction h with
  | self => exact hpart
  | item hmem _ ih => exact .item hmem ih
  | member hnone hmem _ ih => exact .member hnone hmem ih

/-! ## Values that are reached -/

variable {root : Json}

/-- The values that are reached from another one in a document: through items, through members of
objects that are no references, and from references to their targets. -/
inductive Reaches (root source : Json) : Json → Prop
  | source : Reaches root source source
  | item {items : List Json} {item : Json} (h : Reaches root source (.array items))
    (hmem : item ∈ items) : Reaches root source item
  | member {members : Fields Json} {member : String × Json}
    (h : Reaches root source (.object members)) (hnone : text? members = none)
    (hmem : member ∈ members) : Reaches root source member.2
  | target {members : Fields Json} {text : String} {value : Json}
    (h : Reaches root source (.object members)) (htext : text? members = some text)
    (hvalue : target root text = .ok value) : Reaches root source value

theorem Reaches.trans {first second third : Json} (h : Reaches root first second)
    (hnext : Reaches root second third) : Reaches root first third := by
  induction hnext with
  | source => exact h
  | item _ hmem ih => exact ih.item hmem
  | member _ hnone hmem ih => exact ih.member hnone hmem
  | target _ htext hvalue ih => exact ih.target htext hvalue

/-- What is exposed in a value is reached from it. -/
theorem IsExposedIn.reaches {part value : Json} (h : IsExposedIn part value) :
    Reaches root value part := by
  induction h with
  | self => exact .source
  | item hmem _ ih => exact (Reaches.source.item hmem).trans ih
  | member hnone hmem _ ih => exact (Reaches.source.member hnone hmem).trans ih

/-- What is reached from a part of the document is a part of the document. -/
theorem Reaches.isPartOf {source value : Json} (h : Reaches root source value)
    (hsource : IsPartOf source root) : IsPartOf value root := by
  induction h with
  | source => exact hsource
  | item _ hmem ih => exact (Json.isPartOf_array hmem).trans ih
  | member _ _ hmem ih => exact (Json.isPartOf_object hmem).trans ih
  | target _ _ hvalue _ => exact isPartOf_of_target hvalue

/-! ## Paths -/

/-- A path from a value to a goal, with the texts of the references that it goes through. -/
inductive Path (root goal : Json) : List String → Json → Prop
  | exposed {value : Json} (h : IsExposedIn goal value) : Path root goal [] value
  | through {value next : Json} {members : Fields Json} {text : String} {later : List String}
    (h : IsExposedIn (.object members) value) (htext : text? members = some text)
    (hnext : target root text = .ok next) (hpath : Path root goal later next) :
    Path root goal (text :: later) value

/-- A path goes on to what its goal exposes. -/
theorem Path.expose {value goal part : Json} {through : List String}
    (h : Path root goal through value) (hpart : IsExposedIn part goal) :
    Path root part through value := by
  induction h with
  | exposed hgoal => exact .exposed (hpart.trans hgoal)
  | through hmembers htext hnext _ ih => exact .through hmembers htext hnext ih

/-- A path to a reference goes on with the paths from its target. -/
theorem Path.append {value goal next : Json} {members : Fields Json} {text : String}
    {through later : List String} (h : Path root (.object members) through value)
    (htext : text? members = some text) (hnext : target root text = .ok next)
    (hpath : Path root goal later next) : Path root goal (through ++ text :: later) value := by
  induction h with
  | exposed hmembers => exact .through hmembers htext hnext hpath
  | through hmembers hfirst hsecond _ ih => exact .through hmembers hfirst hsecond ih

/-- What is reached is reached by a path. -/
theorem Reaches.exists_path {source value : Json} (h : Reaches root source value) :
    ∃ through, Path root value through source := by
  induction h with
  | source => exact ⟨[], .exposed .self⟩
  | item _ hmem ih =>
    obtain ⟨through, hpath⟩ := ih
    exact ⟨through, hpath.expose (.item hmem .self)⟩
  | member _ hnone hmem ih =>
    obtain ⟨through, hpath⟩ := ih
    exact ⟨through, hpath.expose (.member hnone hmem .self)⟩
  | target _ htext hvalue ih =>
    obtain ⟨through, hpath⟩ := ih
    exact ⟨_, hpath.append htext hvalue (.exposed .self)⟩

/-- Behind a reference a path goes on from its target, whatever was before. -/
theorem Path.drop {goal value : Json} {before later : List String} {text : String}
    (h : Path root goal (before ++ text :: later) value) :
    ∃ next, target root text = .ok next ∧ Path root goal later next := by
  induction before generalizing value with
  | nil =>
    cases h with
    | through _ _ hnext hpath => exact ⟨_, hnext, hpath⟩
  | cons first before ih =>
    cases h with
    | through _ _ _ hpath => exact ih hpath

/-- Every reference on a path has a target. -/
theorem Path.exists_target {goal value : Json} {through : List String} {text : String}
    (h : Path root goal through value) (hmem : text ∈ through) :
    ∃ next, target root text = .ok next := by
  obtain ⟨before, later, rfl⟩ := List.append_of_mem hmem
  obtain ⟨next, hnext, _⟩ := h.drop
  exact ⟨next, hnext⟩

/-- A path has a way around every repetition. -/
theorem Path.exists_nodup {goal value : Json} {through : List String}
    (h : Path root goal through value) :
    ∃ shorter, shorter.Nodup ∧ Path root goal shorter value := by
  induction h with
  | exposed hgoal => exact ⟨[], List.nodup_nil, .exposed hgoal⟩
  | @through value next members text later hmembers htext hnext _ ih =>
    obtain ⟨shorter, hnodup, hpath⟩ := ih
    by_cases hmem : text ∈ shorter
    · -- The reference comes again: what is between the two is left out.
      obtain ⟨before, later, rfl⟩ := List.append_of_mem hmem
      obtain ⟨again, hagain, hrest⟩ := hpath.drop
      refine ⟨text :: later, ?_, .through hmembers htext hagain hrest⟩
      exact (List.nodup_append.1 hnodup).2.1
    · exact ⟨text :: shorter, List.nodup_cons.2 ⟨hmem, hnodup⟩, .through hmembers htext hnext hpath⟩

end Reference
end RequestGate
