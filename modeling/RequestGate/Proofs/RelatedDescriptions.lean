import Mathlib.Data.Option.Basic
import RequestGate.Proofs.Compilation

/-!
# Descriptions that differ in their parameters

Two descriptions have the same operations, and their parameters are related one by one.  Compilation
looks at parameters only through the rules that they add, so where related parameters are added alike,
related descriptions compile alike: to the same, or both with an error in the same operation.

Main results:

- Theorem `PathItem.RelatedBy.operations`: the operations of related paths go together one by one.
- Theorem `Description.RelatedBy.compile_alike`: related descriptions compile alike.
-/

namespace RequestGate

open Fallible (Alike)

/-- Two operations are the same, with related parameters. -/
structure Operation.RelatedBy (related : Parameter → Parameter → Prop) (first second : Operation) :
    Prop where
  operationId : first.operationId = second.operationId
  parameters : Option.Rel (List.Forall₂ related) first.parameters second.parameters
  controller : first.controller = second.controller

/-- The operations of two paths are the same, with related parameters. -/
def PathItem.RelatedBy (related : Parameter → Parameter → Prop) (first second : PathItem) : Prop :=
  ∀ verb, Option.Rel (Operation.RelatedBy related) (first.operation verb) (second.operation verb)

/-- Two descriptions are the same, with related parameters. -/
structure Description.RelatedBy (related : Parameter → Parameter → Prop) (first second : Description) :
    Prop where
  swagger : first.swagger = second.swagger
  openapi : first.openapi = second.openapi
  paths : List.Forall₂ (fun entry other => entry.1 = other.1 ∧ entry.2.RelatedBy related other.2)
    first.paths second.paths

/-- Two errors occur in the same operation, with related faults. -/
structure CompileError.RelatedBy (same : ParameterFault → ParameterFault → Prop)
    (first second : CompileError) : Prop where
  verb : first.verb = second.verb
  template : first.template = second.template
  fault : same first.fault second.fault

/-- Two optional values that are related are both absent, or both present and related. -/
theorem optionRel_cases {α β : Type} {related : α → β → Prop} {first : Option α} {second : Option β}
    (h : Option.Rel related first second) :
    first = none ∧ second = none ∨ ∃ a b, first = some a ∧ second = some b ∧ related a b := by
  cases h with
  | none => exact Or.inl ⟨rfl, rfl⟩
  | some h => exact Or.inr ⟨_, _, rfl, rfl, h⟩

variable {related : Parameter → Parameter → Prop}

/-- The declared operations of two paths go together one by one. -/
theorem PathItem.RelatedBy.operations {first second : PathItem} (h : first.RelatedBy related second) :
    List.Forall₂ (fun a b => a.1 = b.1 ∧ a.2.RelatedBy related b.2) first.operations
      second.operations := by
  unfold PathItem.operations
  induction Verb.all with
  | nil => exact .nil
  | cons verb rest ih =>
    rcases optionRel_cases (h verb) with ⟨hfirst, hsecond⟩ | ⟨_, _, hfirst, hsecond, hsame⟩
    · simpa [hfirst, hsecond] using ih
    · simpa [hfirst, hsecond] using ⟨hsame, ih⟩

section Alike

variable {same : ParameterFault → ParameterFault → Prop}
  (hstep : ∀ rules a b, related a b →
    Alike same (LocationRules.withParameter rules a) (LocationRules.withParameter rules b))

include hstep

/-- Operations have the same rules, or errors with related faults. -/
theorem Operation.RelatedBy.operationRules_alike {first second : Operation}
    (h : first.RelatedBy related second) (template : String) (verb : Verb) :
    Alike (CompileError.RelatedBy same) (Compiled.operationRules template verb first)
      (Compiled.operationRules template verb second) := by
  unfold Compiled.operationRules
  rcases optionRel_cases h.parameters with
    ⟨hfirst, hsecond⟩ | ⟨parameters, others, hfirst, hsecond, hall⟩
  · rw [hfirst, hsecond]
    exact .ok none
  · have hrun : Alike same (LocationRules.ofParameters parameters) (LocationRules.ofParameters others) :=
      Fallible.alike_foldlM hstep hall LocationRules.empty
    rw [hfirst, hsecond]
    simp only
    generalize LocationRules.ofParameters parameters = built at hrun ⊢
    generalize LocationRules.ofParameters others = otherBuilt at hrun ⊢
    cases hrun with
    | ok rules => exact .ok (some rules)
    | error hfault => exact .error ⟨rfl, rfl, hfault⟩

namespace Compiled

theorem withPath_alike {first second : String × PathItem} (hname : first.1 = second.1)
    (h : first.2.RelatedBy related second.2) (table : RuleTable) :
    Alike (CompileError.RelatedBy same) (withPath table first) (withPath table second) := by
  unfold withPath
  rw [hname]
  refine Fallible.alike_foldlM ?_ h.operations table
  rintro table ⟨verb, operation⟩ ⟨other, otherOperation⟩ ⟨hverb, hoperation⟩
  obtain rfl : verb = other := hverb
  exact (hoperation.operationRules_alike hstep second.1 verb).bind fun rules => .ok _

end Compiled

end Alike

theorem Compiled.pathBindings_of_relatedBy {first second : String × PathItem}
    (hname : first.1 = second.1) (h : first.2.RelatedBy related second.2) :
    pathBindings first = pathBindings second := by
  have hbindings : first.2.operations.map (fun entry => (entry.1, entry.2.controller)) =
      second.2.operations.map fun entry => (entry.1, entry.2.controller) := by
    refine Fallible.map_eq_map_of_forall₂ (h.operations.imp fun a b hsame => ?_)
    rw [hsame.1, hsame.2.controller]
  have hall := congrArg (List.filterMap fun entry : Verb × Option String =>
    entry.2.map fun controller =>
      (⟨entry.1, second.1, Route.ofBraces second.1, controller⟩ : Binding)) hbindings
  rw [List.filterMap_map, List.filterMap_map] at hall
  unfold pathBindings
  rw [hname]
  exact hall

/-- Where related parameters are added alike, related descriptions compile alike. -/
theorem Description.RelatedBy.compile_alike {first second : Description}
    (h : first.RelatedBy related second) {same : ParameterFault → ParameterFault → Prop}
    (hstep : ∀ rules a b, related a b →
      Alike same (LocationRules.withParameter rules a) (LocationRules.withParameter rules b)) :
    Alike (CompileError.RelatedBy same) first.compile second.compile := by
  have hrules := Fallible.alike_foldlM
    (fun table _ _ hsame => Compiled.withPath_alike hstep hsame.1 hsame.2 table) h.paths
    RuleTable.empty
  have hroutes : (first.paths.map fun entry => Route.ofBraces entry.1) =
      second.paths.map fun entry => Route.ofBraces entry.1 :=
    Fallible.map_eq_map_of_forall₂ (h.paths.imp fun _ _ hsame => congrArg Route.ofBraces hsame.1)
  have hbindings : first.paths.flatMap Compiled.pathBindings =
      second.paths.flatMap Compiled.pathBindings := by
    rw [List.flatMap_def, List.flatMap_def]
    exact congrArg List.flatten (Fallible.map_eq_map_of_forall₂ (h.paths.imp fun _ _ hsame =>
      Compiled.pathBindings_of_relatedBy hsame.1 hsame.2))
  unfold compile
  rw [hroutes, hbindings]
  exact hrules.bind fun rules => .ok _

end RequestGate
