import RequestGate.Proofs.ExpansionRun

/-!
# Faults of references

An expansion fails exactly when a reference without a target is reached.  A text that is in expansion
has a target, so a reference that is left as it stands hides no fault, and around every circle there is
a path that goes through no reference twice, so nothing behind it is missed.  What stands beside the
text of a reference is not reached through it, and no call is made for it.

Main results:

- Theorem `Reference.exists_of_expandFor_eq_error`: a fault is that of a reached reference.
- Theorem `Reference.exists_target_of_expand`: after a success all reached references have targets.
- Theorem `Reference.faultsExactly`: when an expansion fails, with which fault, and what it looks at.
-/

namespace RequestGate
namespace Reference

variable {root : Json}

/-- What is wrong with the text of a reference in a document. -/
inductive IsFaultOf (root : Json) (text : String) : Fault → Prop
  /-- It does not start with `#`. -/
  | remote (h : text.toList.head? ≠ some '#') : IsFaultOf root text (.remote text)
  /-- The pointer behind `#` leads nowhere in the document. -/
  | unresolved {fragment : List Char} (h : text.toList = '#' :: fragment)
    (hnone : root.pointer? (Percent.decodeText (String.ofList fragment)) = none) :
    IsFaultOf root text (.unresolved text)

/-- A text has no target when something is wrong with it. -/
theorem target_eq_error_iff {text : String} {fault : Fault} :
    target root text = .error fault ↔ IsFaultOf root text fault := by
  constructor
  · intro h
    unfold target at h
    split at h
    · rename_i fragment htext
      split at h
      · cases h
      · rename_i hnone
        cases h
        exact .unresolved htext hnone
    · rename_i hremote
      cases h
      refine .remote fun hhead => ?_
      obtain ⟨fragment, htext⟩ := List.head?_eq_some_iff.1 hhead
      exact hremote fragment htext
  · intro h
    cases h with
    | remote hremote =>
      unfold target
      split
      · rename_i fragment htext
        exact absurd (by rw [htext]; rfl) hremote
      · rfl
    | unresolved htext hnone =>
      unfold target
      simp only [htext, hnone]

/-- An expansion fails with the fault of a reference that is reached. -/
theorem exists_of_expandFor_eq_error {turns : Nat} {active : List String} {value : Json}
    {fault : Fault} (h : expandFor root turns active value = .error fault) :
    ∃ members text, Reaches root value (.object members) ∧ text? members = some text ∧
      target root text = .error fault := by
  induction turns generalizing active value with
  | zero => cases h
  | succ turns ih =>
    rw [expandFor_succ] at h
    obtain ⟨members, text, hexposed, htext, hreplace⟩ := exists_of_walk_eq_error h
    by_cases hmem : text ∈ active
    · rw [replacement_of_mem hmem] at hreplace
      cases hreplace
    · cases htarget : target root text with
      | error other =>
        rw [replacement_of_error hmem members htarget] at hreplace
        cases hreplace
        exact ⟨members, text, hexposed.reaches, htext, htarget⟩
      | ok next =>
        rw [replacement_of_target hmem members htarget] at hreplace
        obtain ⟨inner, other, hreaches, hother, hfault⟩ := ih hreplace
        exact ⟨inner, other, (hexposed.reaches.target htext htarget).trans hreaches, hother, hfault⟩

/-- When an expansion succeeds, every reference that is reached has a target. -/
theorem exists_target_of_expand {result : Json} (h : expand root = .ok result)
    {members : Fields Json} {text : String} (hreaches : Reaches root root (.object members))
    (htext : text? members = some text) : ∃ value, target root text = .ok value := by
  obtain ⟨_, hpath⟩ := hreaches.exists_path
  obtain ⟨through, hnodup, hpath⟩ := hpath.exists_nodup
  by_cases hmem : text ∈ through
  · exact hpath.exists_target hmem
  · have honce : ([] ++ (through ++ [text])).Nodup := by
      rw [List.nil_append]
      exact List.nodup_append_comm.1 (List.nodup_cons.2 ⟨hmem, hnodup⟩)
    rcases expandFor_path (suffices_start root) .nil .self h htext hpath with
      ⟨_, htarget⟩ | ⟨hrepeated, _⟩
    · exact htarget
    · exact absurd honce hrepeated

/-- When an expansion fails, with which fault, and what it looks at. -/
structure FaultsExactly (root : Json) : Prop where
  fails_iff : (∃ fault, expand root = .error fault) ↔
    ∃ members text fault, Reaches root root (.object members) ∧ text? members = some text ∧
      IsFaultOf root text fault
  isFaultOf : ∀ fault, expand root = .error fault →
    ∃ members text, Reaches root root (.object members) ∧ text? members = some text ∧
      IsFaultOf root text fault
  /-- The run that ends with the expansion makes no call for a value that is not reached. -/
  reaches_called : (∃ n, Run.moment root n = ⟨.answer (expand root), [], []⟩) ∧
    ∀ n value, (Run.moment root n).control = .call value → Reaches root root value

/-- The expansion of every document fails exactly on a reference that is reached and has no target. -/
theorem faultsExactly (root : Json) : FaultsExactly root := by
  have hfault : ∀ fault, expand root = .error fault →
      ∃ members text, Reaches root root (.object members) ∧ text? members = some text ∧
        IsFaultOf root text fault := by
    intro fault h
    obtain ⟨members, text, hreaches, htext, htarget⟩ := exists_of_expandFor_eq_error h
    exact ⟨members, text, hreaches, htext, target_eq_error_iff.1 htarget⟩
  constructor
  case fails_iff =>
    constructor
    · rintro ⟨fault, h⟩
      obtain ⟨members, text, hreached⟩ := hfault fault h
      exact ⟨members, text, fault, hreached⟩
    · rintro ⟨members, text, fault, hreaches, htext, hbad⟩
      cases hresult : expand root with
      | error other => exact ⟨other, rfl⟩
      | ok result =>
        obtain ⟨value, hvalue⟩ := exists_target_of_expand hresult hreaches htext
        rw [target_eq_error_iff.2 hbad] at hvalue
        cases hvalue
  case isFaultOf => exact hfault
  case reaches_called =>
    obtain ⟨n, hend⟩ := Run.exists_moment_eq root
    exact ⟨⟨n, hend n (Nat.le_refl n)⟩, fun k => (Run.isSound_moment root k).called⟩

end Reference
end RequestGate
