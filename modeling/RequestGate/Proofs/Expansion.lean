import Mathlib.Data.List.Perm.Subperm
import RequestGate.Proofs.Fallible
import RequestGate.Proofs.ReferenceGraph

/-!
# Expansion of references

One turn of an expansion replaces the references that a value exposes.  What comes out is said for any
replacement: it fails where the replacement of an exposed reference fails, and otherwise the replaced
values are parts of the result.  The texts that are being expanded are texts of the document, each
once, so the turns are never used up before the texts are.

Main results:

- Theorem `Reference.exists_of_walk_eq_error`, `Reference.exists_replaced`: failure and success of a
  turn, by the references that a value exposes.
- Theorem `Reference.length_active_le`: how many texts can be expanded at a time.
- Theorem `Reference.expandFor_path`: an expansion follows every path up to the first repetition, and
  where a reference is repeated one is left in the result.
-/

namespace RequestGate
namespace Reference

open Json (IsPartOf)

/-! ## One turn -/

section Walk

variable {replace : Fields Json → String → Except Fault Json}

theorem walkItems_eq_mapM (items : List Json) :
    walkItems replace items = items.mapM (walk replace) := by
  induction items with
  | nil => rfl
  | cons item rest ih => rw [walkItems, List.mapM_cons, ih]

theorem walkMembers_eq_mapM (members : List (String × Json)) :
    walkMembers replace members =
      members.mapM fun member => (walk replace member.2).map (member.1, ·) := by
  induction members with
  | nil => rfl
  | cons member rest ih =>
    rw [walkMembers, List.mapM_cons, ih]
    cases walk replace member.2 <;> rfl

/-- A reference is replaced. -/
theorem walk_of_text? {members : Fields Json} {text : String} (h : text? members = some text) :
    walk replace (.object members) = replace members text := by
  rw [walk, h]

/-- Another object is walked member by member. -/
theorem walk_of_text?_eq_none {members : Fields Json} (h : text? members = none) :
    walk replace (.object members) = (walkMembers replace members).map .object := by
  rw [walk, h]

/-- A turn fails when the replacement of an exposed reference does. -/
theorem exists_of_walk_eq_error {value : Json} {fault : Fault}
    (h : walk replace value = .error fault) : ∃ members text, IsExposedIn (.object members) value ∧
      text? members = some text ∧ replace members text = .error fault := by
  induction value using Json.inductionOn with
  | null | bool | number | string => cases h
  | array items ih =>
    rw [walk, Fallible.map_eq_error_iff, walkItems_eq_mapM] at h
    obtain ⟨item, hitem, hfault⟩ := Fallible.exists_of_mapM_eq_error h
    obtain ⟨members, text, hexposed, htext, hreplace⟩ := ih item hitem hfault
    exact ⟨members, text, .item hitem hexposed, htext, hreplace⟩
  | object members ih =>
    cases htext : text? members with
    | some text =>
      rw [walk_of_text? htext] at h
      exact ⟨members, text, .self, htext, h⟩
    | none =>
      rw [walk_of_text?_eq_none htext, Fallible.map_eq_error_iff, walkMembers_eq_mapM] at h
      obtain ⟨member, hmember, hfault⟩ := Fallible.exists_of_mapM_eq_error h
      rw [Fallible.map_eq_error_iff] at hfault
      obtain ⟨inner, text, hexposed, hinner, hreplace⟩ := ih member hmember hfault
      exact ⟨inner, text, .member htext hmember hexposed, hinner, hreplace⟩

/-- What a turn makes of an array: the results of its items, and of nothing else. -/
theorem exists_of_walk_array {items : List Json} {result : Json}
    (h : walk replace (.array items) = .ok result) : ∃ results, result = .array results ∧
      (∀ item ∈ items, ∃ made ∈ results, walk replace item = .ok made) ∧
      ∀ made ∈ results, ∃ item ∈ items, walk replace item = .ok made := by
  rw [walk, Fallible.map_eq_ok_iff] at h
  obtain ⟨results, hresults, rfl⟩ := h
  rw [walkItems_eq_mapM] at hresults
  exact ⟨results, rfl, Fallible.exists_of_mapM_eq_ok hresults⟩

/-- What a turn makes of an object that is no reference: the results of its members under their
names, and nothing else. -/
theorem exists_of_walk_object {members : Fields Json} (hnone : text? members = none) {result : Json}
    (h : walk replace (.object members) = .ok result) : ∃ results, result = .object results ∧
      (∀ member ∈ members, ∃ made, (member.1, made) ∈ results ∧
        walk replace member.2 = .ok made) ∧
      ∀ made ∈ results, ∃ member ∈ members, member.1 = made.1 ∧
        walk replace member.2 = .ok made.2 := by
  rw [walk_of_text?_eq_none hnone, Fallible.map_eq_ok_iff] at h
  obtain ⟨results, hresults, rfl⟩ := h
  rw [walkMembers_eq_mapM] at hresults
  obtain ⟨hmembers, hmade⟩ := Fallible.exists_of_mapM_eq_ok hresults
  refine ⟨results, rfl, fun member hmember => ?_, fun made hmem => ?_⟩
  · obtain ⟨_, hmem, hwalk⟩ := hmembers member hmember
    obtain ⟨made, hmade, rfl⟩ := Fallible.map_eq_ok_iff.1 hwalk
    exact ⟨made, hmem, hmade⟩
  · obtain ⟨member, hmember, hwalk⟩ := hmade made hmem
    obtain ⟨value, hvalue, rfl⟩ := Fallible.map_eq_ok_iff.1 hwalk
    exact ⟨member, hmember, rfl, hvalue⟩

/-- When a turn succeeds, every exposed reference is replaced, and by a part of the result. -/
theorem exists_replaced {value result : Json} (h : walk replace value = .ok result)
    {members : Fields Json} {text : String} (hexposed : IsExposedIn (.object members) value)
    (htext : text? members = some text) :
    ∃ replaced, replace members text = .ok replaced ∧ IsPartOf replaced result := by
  induction hexposed generalizing result with
  | self =>
    rw [walk_of_text? htext] at h
    exact ⟨result, h, .self⟩
  | item hmem _ ih =>
    obtain ⟨results, rfl, hitems, _⟩ := exists_of_walk_array h
    obtain ⟨made, hmade, hwalk⟩ := hitems _ hmem
    obtain ⟨replaced, hreplace, hpart⟩ := ih hwalk
    exact ⟨replaced, hreplace, .item hmade hpart⟩
  | member hnone hmem _ ih =>
    obtain ⟨results, rfl, hmembers, _⟩ := exists_of_walk_object hnone h
    obtain ⟨made, hmade, hwalk⟩ := hmembers _ hmem
    obtain ⟨replaced, hreplace, hpart⟩ := ih hwalk
    exact ⟨replaced, hreplace, .member hmade hpart⟩

end Walk

/-! ## Turns -/

/-- The texts of the references of a document, each once. -/
def distinctTexts (root : Json) : List String :=
  (texts root).eraseDups

/-- Texts that may be in expansion at a time: texts of the document, each once. -/
structure IsActive (root : Json) (active : List String) : Prop where
  nodup : active.Nodup
  mem_texts : ∀ text ∈ active, text ∈ texts root

variable {root : Json} {active : List String}

theorem IsActive.nil : IsActive root [] :=
  ⟨List.nodup_nil, fun _ h => absurd h List.not_mem_nil⟩

theorem IsActive.cons (h : IsActive root active) {text : String} (hnew : text ∉ active)
    (hmem : text ∈ texts root) : IsActive root (text :: active) :=
  ⟨List.nodup_cons.2 ⟨hnew, h.nodup⟩, List.forall_mem_cons.2 ⟨hmem, h.mem_texts⟩⟩

theorem IsActive.tail (h : IsActive root active) : IsActive root active.tail :=
  ⟨h.nodup.tail, fun text htext => h.mem_texts text (List.mem_of_mem_tail htext)⟩

/-- No more texts are in expansion than the document has. -/
theorem length_active_le (h : IsActive root active) :
    active.length ≤ (distinctTexts root).length :=
  (List.subperm_of_subset h.nodup fun text htext =>
    List.mem_eraseDups.2 (h.mem_texts text htext)).length_le

/-- Turns suffice for the texts of the document that are not in expansion yet, and one is left for the
value. -/
def Suffices (root : Json) (turns : Nat) (active : List String) : Prop :=
  (distinctTexts root).length < turns + active.length

/-- Turns that suffice are not used up. -/
theorem Suffices.exists_succ {turns : Nat} (h : Suffices root turns active)
    (hactive : IsActive root active) : ∃ left, turns = left + 1 := by
  have hle := length_active_le hactive
  unfold Suffices at h
  exact Nat.exists_eq_succ_of_ne_zero (by omega)

theorem Suffices.next {turns : Nat} (h : Suffices root (turns + 1) active) (text : String) :
    Suffices root turns (text :: active) := by
  unfold Suffices at *
  rw [List.length_cons]
  omega

/-- The replacement of a turn: the texts in expansion are left alone, and another one is replaced by
the expansion of its target. -/
def replacement (root : Json) (turns : Nat) (active : List String) (members : Fields Json)
    (text : String) : Except Fault Json :=
  if text ∈ active then .ok (.object members)
  else (target root text).bind (expandFor root turns (text :: active))

theorem expandFor_succ (root : Json) (turns : Nat) (active : List String) (value : Json) :
    expandFor root (turns + 1) active value = walk (replacement root turns active) value :=
  rfl

theorem replacement_of_mem {turns : Nat} {text : String} (h : text ∈ active)
    (members : Fields Json) :
    replacement root turns active members text = .ok (.object members) :=
  if_pos h

/-- A reference that is not in expansion is replaced by what its target expands to. -/
theorem replacement_of_target {turns : Nat} {text : String} (h : text ∉ active)
    (members : Fields Json) {value : Json} (hvalue : target root text = .ok value) :
    replacement root turns active members text = expandFor root turns (text :: active) value := by
  rw [replacement, if_neg h, hvalue]
  rfl

theorem replacement_of_error {turns : Nat} {text : String} (h : text ∉ active)
    (members : Fields Json) {fault : Fault} (hfault : target root text = .error fault) :
    replacement root turns active members text = .error fault := by
  rw [replacement, if_neg h, hfault]
  rfl

theorem expand_eq (root : Json) :
    expand root = expandFor root ((distinctTexts root).length + 1) [] root :=
  rfl

theorem suffices_start (root : Json) : Suffices root ((distinctTexts root).length + 1) [] :=
  Nat.lt_succ_self _

/-! ## Paths that an expansion follows -/

/-- An object that has the member of references stands in a value. -/
def HasReference (value : Json) : Prop :=
  ∃ members, IsPartOf (.object members) value ∧ key ∈ Fields.names members

theorem key_mem_names_of_text? {members : Fields Json} {text : String}
    (h : text? members = some text) : key ∈ Fields.names members := by
  obtain ⟨value, hvalue, _⟩ := Option.bind_eq_some_iff.1 h
  exact List.mem_map_of_mem (Fields.mem_of_get? hvalue)

/-- A successful expansion has followed every path to a reference, if no text comes twice on the path
and none of them was in expansion already: the reference has a target.  If a text does come twice, a
reference is left in the result. -/
theorem expandFor_path {turns : Nat} (hturns : Suffices root turns active)
    (hactive : IsActive root active) {value result : Json} (hvalue : IsPartOf value root)
    (hresult : expandFor root turns active value = .ok result) {members : Fields Json}
    {text : String} (htext : text? members = some text) {through : List String}
    (hpath : Path root (.object members) through value) :
    (active ++ (through ++ [text])).Nodup ∧ (∃ next, target root text = .ok next) ∨
      ¬ (active ++ (through ++ [text])).Nodup ∧ HasReference result := by
  -- The induction is on the path: each reference on it starts the next turn.
  induction hpath generalizing turns active result with
  | exposed hgoal =>
    obtain ⟨left, rfl⟩ := hturns.exists_succ hactive
    rw [expandFor_succ] at hresult
    obtain ⟨replaced, hreplaced, hpart⟩ := exists_replaced hresult hgoal htext
    by_cases hmem : text ∈ active
    · rw [replacement_of_mem hmem] at hreplaced
      cases hreplaced
      refine Or.inr ⟨fun hnodup => ?_, members, hpart, key_mem_names_of_text? htext⟩
      exact List.disjoint_of_nodup_append hnodup hmem (by simp)
    · left
      refine ⟨List.nodup_append.2 ⟨hactive.nodup, List.nodup_singleton text, ?_⟩, ?_⟩
      · intro other hother single hsingle hsame
        rw [List.nil_append, List.mem_singleton] at hsingle
        exact hmem (hsingle ▸ hsame ▸ hother)
      · cases htarget : target root text with
        | ok next => exact ⟨next, rfl⟩
        | error fault =>
          rw [replacement_of_error hmem members htarget] at hreplaced
          cases hreplaced
  | @through value next first reference later hfirst hreference hnext _ ih =>
    obtain ⟨left, rfl⟩ := hturns.exists_succ hactive
    rw [expandFor_succ] at hresult
    obtain ⟨replaced, hreplaced, hpart⟩ := exists_replaced hresult hfirst hreference
    by_cases hmem : reference ∈ active
    · rw [replacement_of_mem hmem] at hreplaced
      cases hreplaced
      refine Or.inr ⟨fun hnodup => ?_, first, hpart, key_mem_names_of_text? hreference⟩
      exact List.disjoint_of_nodup_append hnodup hmem (by simp)
    · rw [replacement_of_target hmem first hnext] at hreplaced
      have hknown : reference ∈ texts root :=
        text_mem_texts (hfirst.reaches.isPartOf hvalue) hreference
      have hlater := ih (hturns.next reference) (hactive.cons hmem hknown)
        (isPartOf_of_target hnext) hreplaced
      rw [List.cons_append, ← List.nodup_middle] at hlater
      rcases hlater with hnodup | ⟨hrepeated, inner, hinner, hkey⟩
      · exact Or.inl hnodup
      · exact Or.inr ⟨hrepeated, inner, hinner.trans hpart, hkey⟩

end Reference
end RequestGate
