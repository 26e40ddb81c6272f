import RequestGate.Proofs.Expansion

/-!
# Circular references

A reference is circular when its target reaches a reference with the same text.  Where every member of
references is a text, the references that an expansion leaves are the circular ones: each reference in
the result that stands in no other is a circular reference of the document as it was written, and a
circular reference that is reached leaves one.  Without circles an expansion leaves no reference, and
another one changes nothing.

Main results:

- Theorem `Reference.exists_replaced_outermost`: the references that a turn leaves are those that its
  replacements leave.
- Theorem `Reference.isCircular_of_outermost`: what an expansion leaves is circular.
- Theorem `Reference.hasReference_of_isCircular`: a circle leaves a reference.
- Theorem `Reference.leavesCircular`: what is left in the result of an expansion.
-/

namespace RequestGate
namespace Reference

open Json (IsPartOf)

variable {root : Json}

/-- The target of a text reaches a reference with this text. -/
def IsCircular (root : Json) (text : String) : Prop :=
  ∃ value members, target root text = .ok value ∧ Reaches root value (.object members) ∧
    text? members = some text

/-- Every member of references is a text. -/
def HasTextReferences (value : Json) : Prop :=
  ∀ members, IsPartOf (.object members) value → ∀ member ∈ members, member.1 = key →
    ∃ text, member.2 = .string text

theorem HasTextReferences.of_isPartOf {part value : Json} (h : HasTextReferences value)
    (hpart : IsPartOf part value) : HasTextReferences part :=
  fun members hmembers => h members (hmembers.trans hpart)

theorem hasTextReferences_string (text : String) : HasTextReferences (.string text) := by
  rintro members ⟨⟩

theorem hasTextReferences_object {members : Fields Json} :
    HasTextReferences (.object members) ↔
      (∀ member ∈ members, member.1 = key → ∃ text, member.2 = .string text) ∧
        ∀ member ∈ members, HasTextReferences member.2 := by
  constructor
  · intro h
    exact ⟨h members .self, fun member hmember => h.of_isPartOf (Json.isPartOf_object hmember)⟩
  · rintro ⟨hown, hmembers⟩ inner hinner
    cases hinner with
    | self => exact hown
    | member hmem hpart => exact hmembers _ hmem inner hpart

/-- Where members of references are texts, objects with such a member are references. -/
theorem HasTextReferences.exists_text {members : Fields Json}
    (h : HasTextReferences (.object members)) (hkey : key ∈ Fields.names members) :
    ∃ text, text? members = some text := by
  obtain ⟨value, hvalue⟩ := Option.isSome_iff_exists.1 (Fields.contains_iff.2 hkey)
  obtain ⟨text, rfl⟩ := h members .self (key, value) (Fields.mem_of_get? hvalue) rfl
  refine ⟨text, ?_⟩
  unfold text?
  rw [hvalue]
  rfl

/-! ## Outermost references -/

/-- An object with the member of references stands in a value, and in no other such object. -/
inductive IsOutermostIn (found : Fields Json) : Json → Prop
  | self (hkey : key ∈ Fields.names found) : IsOutermostIn found (.object found)
  | item {items : List Json} {item : Json} (hmem : item ∈ items) (h : IsOutermostIn found item) :
    IsOutermostIn found (.array items)
  | member {members : Fields Json} {member : String × Json}
    (hkey : key ∉ Fields.names members) (hmem : member ∈ members)
    (h : IsOutermostIn found member.2) : IsOutermostIn found (.object members)

/-- Every reference stands in an outermost one. -/
theorem hasReference_iff {value : Json} :
    HasReference value ↔ ∃ found, IsOutermostIn found value := by
  constructor
  · rintro ⟨members, hpart, hkey⟩
    induction hpart with
    | self => exact ⟨members, .self hkey⟩
    | item hmem _ ih =>
      obtain ⟨found, hfound⟩ := ih
      exact ⟨found, .item hmem hfound⟩
    | @member outer member hmem _ ih =>
      by_cases houter : key ∈ Fields.names outer
      · exact ⟨outer, .self houter⟩
      · obtain ⟨found, hfound⟩ := ih
        exact ⟨found, .member houter hmem hfound⟩
  · rintro ⟨found, hfound⟩
    induction hfound with
    | self hkey => exact ⟨found, .self, hkey⟩
    | item hmem _ ih =>
      obtain ⟨members, hpart, hkey⟩ := ih
      exact ⟨members, .item hmem hpart, hkey⟩
    | member _ hmem _ ih =>
      obtain ⟨members, hpart, hkey⟩ := ih
      exact ⟨members, .member hmem hpart, hkey⟩

/-- An object with the member of references has no outermost one but itself. -/
theorem IsOutermostIn.eq_of_mem {found members : Fields Json}
    (h : IsOutermostIn found (.object members)) (hkey : key ∈ Fields.names members) :
    found = members := by
  cases h with
  | self => rfl
  | member hnone => exact absurd hkey hnone

section Walk

variable {replace : Fields Json → String → Except Fault Json}

/-- The outermost references in the result of a turn are those in what references are replaced by. -/
theorem exists_replaced_outermost {value result : Json} (htexts : HasTextReferences value)
    (h : walk replace value = .ok result) {found : Fields Json}
    (hfound : IsOutermostIn found result) :
    ∃ members text replaced, IsExposedIn (.object members) value ∧ text? members = some text ∧
      replace members text = .ok replaced ∧ IsOutermostIn found replaced := by
  induction value using Json.inductionOn generalizing result with
  | null | bool | number | string =>
    cases h
    cases hfound
  | array items ih =>
    obtain ⟨results, rfl, _, hresults⟩ := exists_of_walk_array h
    cases hfound with
    | item hmem hfound =>
      obtain ⟨item, hitem, hwalk⟩ := hresults _ hmem
      obtain ⟨members, text, replaced, hexposed, hreplaced⟩ :=
        ih item hitem (htexts.of_isPartOf (Json.isPartOf_array hitem)) hwalk hfound
      exact ⟨members, text, replaced, .item hitem hexposed, hreplaced⟩
  | object members ih =>
    cases htext : text? members with
    | some text =>
      rw [walk_of_text? htext] at h
      exact ⟨members, text, result, .self, htext, h, hfound⟩
    | none =>
      obtain ⟨results, rfl, _, hresults⟩ := exists_of_walk_object htext h
      cases hfound with
      | self hkey =>
        -- Members keep their names, so the object itself would be a reference.
        obtain ⟨made, hmade, hname⟩ := List.mem_map.1 hkey
        obtain ⟨member, hmember, hsame, _⟩ := hresults made hmade
        have hmembers : key ∈ Fields.names members :=
          List.mem_map.2 ⟨member, hmember, hsame.trans hname⟩
        obtain ⟨text, htext'⟩ := htexts.exists_text hmembers
        rw [htext] at htext'
        cases htext'
      | member _ hmem hfound =>
        obtain ⟨member, hmember, _, hwalk⟩ := hresults _ hmem
        obtain ⟨inner, text, replaced, hexposed, hreplaced⟩ :=
          ih member hmember (htexts.of_isPartOf (Json.isPartOf_object hmember)) hwalk hfound
        exact ⟨inner, text, replaced, .member htext hmember hexposed, hreplaced⟩

/-- A turn changes nothing where no reference is. -/
theorem walk_eq_self {value : Json} (h : ¬ HasReference value) : walk replace value = .ok value := by
  induction value using Json.inductionOn with
  | null | bool | number | string => rfl
  | array items ih =>
    have hitems : ∀ item ∈ items, walk replace item = .ok item := by
      intro item hitem
      refine ih item hitem ?_
      rintro ⟨members, hpart, hkey⟩
      exact h ⟨members, .item hitem hpart, hkey⟩
    rw [walk, walkItems_eq_mapM, Fallible.mapM_eq_self hitems]
    rfl
  | object members ih =>
    have hnone : text? members = none := by
      rw [Option.eq_none_iff_forall_ne_some]
      exact fun text htext => h ⟨members, .self, key_mem_names_of_text? htext⟩
    have hmembers : ∀ member ∈ members, (walk replace member.2).map (member.1, ·) = .ok member := by
      intro member hmember
      have hwithout : ¬ HasReference member.2 := by
        rintro ⟨inner, hpart, hkey⟩
        exact h ⟨inner, .member hmember hpart, hkey⟩
      rw [ih member hmember hwithout]
      rfl
    rw [walk_of_text?_eq_none hnone, walkMembers_eq_mapM, Fallible.mapM_eq_self hmembers]
    rfl

end Walk

/-! ## What an expansion leaves -/

/-- Every text in expansion has a target from which a value is reached. -/
def IsUnder (root : Json) (active : List String) (value : Json) : Prop :=
  ∀ text ∈ active, ∃ source, target root text = .ok source ∧ Reaches root source value

/-- An outermost reference that an expansion leaves is a reference of the document that is reached, and
it is circular. -/
theorem isCircular_of_outermost (htexts : HasTextReferences root) {turns : Nat}
    {active : List String} (hturns : Suffices root turns active) (hactive : IsActive root active)
    {value result : Json} (hvalue : IsPartOf value root) (hunder : IsUnder root active value)
    (h : expandFor root turns active value = .ok result) {found : Fields Json}
    (hfound : IsOutermostIn found result) :
    ∃ text, text? found = some text ∧ Reaches root value (.object found) ∧ IsCircular root text := by
  induction turns generalizing active value result with
  | zero =>
    obtain ⟨left, hleft⟩ := hturns.exists_succ hactive
    exact absurd hleft (Nat.succ_ne_zero left).symm
  | succ turns ih =>
    rw [expandFor_succ] at h
    obtain ⟨members, text, replaced, hexposed, htext, hreplaced, hfound⟩ :=
      exists_replaced_outermost (htexts.of_isPartOf hvalue) h hfound
    have hreaches : Reaches root value (.object members) := hexposed.reaches
    by_cases hmem : text ∈ active
    · -- The reference is left as it stands, since its own target led here.
      rw [replacement_of_mem hmem] at hreplaced
      cases hreplaced
      obtain rfl := hfound.eq_of_mem (key_mem_names_of_text? htext)
      obtain ⟨source, hsource, hvalue⟩ := hunder text hmem
      exact ⟨text, htext, hreaches, source, _, hsource, hvalue.trans hreaches, htext⟩
    · cases htarget : target root text with
      | error fault =>
        rw [replacement_of_error hmem members htarget] at hreplaced
        cases hreplaced
      | ok next =>
        rw [replacement_of_target hmem members htarget] at hreplaced
        have hnext := hreaches.target htext htarget
        have hunderNext : IsUnder root (text :: active) next := by
          refine List.forall_mem_cons.2 ⟨⟨next, htarget, .source⟩, fun other hother => ?_⟩
          obtain ⟨source, hsource, hvalue⟩ := hunder other hother
          exact ⟨source, hsource, hvalue.trans hnext⟩
        have hknown : text ∈ texts root := text_mem_texts (hreaches.isPartOf hvalue) htext
        obtain ⟨left, hleft, hlater, hcircular⟩ := ih (hturns.next text) (hactive.cons hmem hknown)
          (isPartOf_of_target htarget) hunderNext hreplaced hfound
        exact ⟨left, hleft, hnext.trans hlater, hcircular⟩

/-- A circular reference that is reached leaves a reference in the result. -/
theorem hasReference_of_isCircular {result : Json} (h : expand root = .ok result)
    {members : Fields Json} {text : String} (hreaches : Reaches root root (.object members))
    (htext : text? members = some text) (hcircular : IsCircular root text) :
    HasReference result := by
  obtain ⟨value, again, hvalue, hagain, hsame⟩ := hcircular
  obtain ⟨before, hbefore⟩ := hreaches.exists_path
  obtain ⟨around, haround⟩ := hagain.exists_path
  -- The path goes to the reference, and once around the circle to the same text.
  have hpath := hbefore.append htext hvalue haround
  rcases expandFor_path (suffices_start root) .nil .self h hsame hpath with
    ⟨hnodup, _⟩ | ⟨_, hleft⟩
  · rw [List.nil_append] at hnodup
    exact absurd (List.mem_singleton_self text) (List.disjoint_of_nodup_append hnodup (by simp))
  · exact hleft

/-- What is left in the result of an expansion. -/
structure LeavesCircular (root result : Json) : Prop where
  leaves_iff : HasReference result ↔
    ∃ members text, Reaches root root (.object members) ∧ text? members = some text ∧
      IsCircular root text
  /-- Every outermost reference of the result is an object of the document, which is reached, and it is
  circular. -/
  outermost : ∀ found, IsOutermostIn found result → IsPartOf (.object found) root ∧
    Reaches root root (.object found) ∧ ∃ text, text? found = some text ∧ IsCircular root text
  without_circles : (¬ ∃ members text, Reaches root root (.object members) ∧
      text? members = some text ∧ IsCircular root text) →
    ¬ HasReference result ∧ expand result = .ok result

/-- Where every member of references is a text, a successful expansion leaves circular references
only, and at least one for those that are reached. -/
theorem leavesCircular (htexts : HasTextReferences root) {result : Json}
    (h : expand root = .ok result) : LeavesCircular root result := by
  have houtermost : ∀ found, IsOutermostIn found result →
      ∃ text, text? found = some text ∧ Reaches root root (.object found) ∧ IsCircular root text :=
    fun found hfound => isCircular_of_outermost htexts (suffices_start root) .nil .self
      (fun _ hmem => absurd hmem List.not_mem_nil) h hfound
  have hiff : HasReference result ↔
      ∃ members text, Reaches root root (.object members) ∧ text? members = some text ∧
        IsCircular root text := by
    constructor
    · intro hleft
      obtain ⟨found, hfound⟩ := hasReference_iff.1 hleft
      obtain ⟨text, htext, hreaches, hcircular⟩ := houtermost found hfound
      exact ⟨found, text, hreaches, htext, hcircular⟩
    · rintro ⟨members, text, hreaches, htext, hcircular⟩
      exact hasReference_of_isCircular h hreaches htext hcircular
  constructor
  case leaves_iff => exact hiff
  case outermost =>
    intro found hfound
    obtain ⟨text, htext, hreaches, hcircular⟩ := houtermost found hfound
    exact ⟨hreaches.isPartOf .self, hreaches, text, htext, hcircular⟩
  case without_circles =>
    intro hnone
    have hleft : ¬ HasReference result := fun hleft => hnone (hiff.1 hleft)
    exact ⟨hleft, walk_eq_self hleft⟩

/-- A reference to a node, and the node with a reference to the next one, which has a title beside its
text. -/
def nodes : Json :=
  .object [("list", .object [("$ref", .string "#/node")]),
    ("node", .object [("next", .object [("$ref", .string "#/node"), ("title", .string "Next")])])]

/-- The hypotheses are satisfied by a circle: the reference in the node is left with its title. -/
theorem nodes_leavesCircular :
    let node := Json.object [("next", .object [("$ref", .string "#/node"), ("title", .string "Next")])]
    let result := Json.object [("list", node), ("node", .object [("next", node)])]
    HasTextReferences nodes ∧ expand nodes = .ok result ∧ LeavesCircular nodes result := by
  intro node result
  have htexts : HasTextReferences nodes := by
    simp [nodes, hasTextReferences_object, hasTextReferences_string, key]
  have hpointer : Percent.decodeText "/node" = "/node" := by
    unfold Percent.decodeText
    rw [Utf8.decodeLossy_of_ascii rfl]
    rfl
  have htarget : target nodes "#/node" = .ok node :=
    target_eq_ok_iff.2 ⟨_, rfl, hpointer ▸ rfl⟩
  -- The target is expanded while its own text is in expansion, which leaves it as it stands.
  have hreplaced : ∀ members, replacement nodes 1 [] members "#/node" = .ok node := by
    intro members
    rw [replacement_of_target List.not_mem_nil members htarget]
    rfl
  have hexpand : expand nodes = .ok result := by
    have hturns : (distinctTexts nodes).length = 1 := by decide
    have hlist := (walk_of_text? rfl).trans (hreplaced [("$ref", .string "#/node")])
    have hnext := (walk_of_text? rfl).trans
      (hreplaced [("$ref", .string "#/node"), ("title", .string "Next")])
    have hnode : walk (replacement nodes 1 []) node = .ok (.object [("next", node)]) := by
      rw [walk_of_text?_eq_none rfl, walkMembers, hnext]
      rfl
    rw [expand_eq, hturns, expandFor_succ]
    unfold nodes at hlist hnode ⊢
    rw [walk_of_text?_eq_none rfl, walkMembers, walkMembers, hlist, hnode]
    rfl
  exact ⟨htexts, hexpand, leavesCircular htexts hexpand⟩

end Reference
end RequestGate
