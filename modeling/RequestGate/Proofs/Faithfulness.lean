import Mathlib.Data.List.Basic
import RequestGate.Proofs.ByteOrder
import RequestGate.Proofs.Compilation
import RequestGate.Proofs.Resolution

/-!
# Compilation is faithful

A compiled description says what the description says.  Keys may collide: two path keys may have the
same route, two parameters the same name, header names may differ in letter case only, and several
body parameters may declare a property of one name.  In all of these cases the last one wins, and
nothing else is lost.

Main results:

- Theorem `Description.exists_last_path`: the last declaration of an operation stands under the last
  path key that declares it.
- Theorem `Description.pairwise_declarations`: declarations stand in document order.
- Theorem `Description.compile_isFaithful`: routes, rules and bindings of a compiled description.
-/

namespace RequestGate

/-- What may be recorded for an operation: the rules that its parameters declare, or that it has no
list of parameters. -/
def Operation.RecordedAs (operation : Operation) (recorded : Option LocationRules) : Prop :=
  match operation.parameters, recorded with
  | none, none => True
  | some parameters, some rules => ∀ location,
      FieldRules.DeclaredBy (rules.fieldsAt location)
        (parameters.flatMap (Parameter.declaredAt location))
  | _, _ => False

/-- The rules that are made of an operation are those that it declares. -/
theorem Compiled.recordedAs_of_operationRules {template : String} {verb : Verb}
    {operation : Operation} {recorded : Option LocationRules}
    (h : operationRules template verb operation = .ok recorded) : operation.RecordedAs recorded := by
  unfold operationRules at h
  unfold Operation.RecordedAs
  cases hparameters : operation.parameters with
  | none =>
    rw [hparameters] at h
    cases h
    trivial
  | some parameters =>
    rw [hparameters] at h
    cases hrules : LocationRules.ofParameters parameters with
    | error fault => simp [hrules] at h
    | ok rules =>
      simp only [hrules, Except.ok.injEq] at h
      subst h
      exact LocationRules.declaredBy_ofParameters hrules

namespace Description

/-! ## The last declaration -/

/-- The declarations of an operation with this route and method. -/
def declarationsFor (route : String) (verb : Verb) (paths : Fields PathItem) : List Declaration :=
  (declarationsOf paths).filter fun d => d.route = route ∧ d.verb = verb

theorem declarationsFor_append (route : String) (verb : Verb) (first second : Fields PathItem) :
    declarationsFor route verb (first ++ second) =
      declarationsFor route verb first ++ declarationsFor route verb second := by
  unfold declarationsFor
  rw [declarationsOf_append, List.filter_append]

theorem mem_declarationsFor {route : String} {verb : Verb} {paths : Fields PathItem}
    {declaration : Declaration} :
    declaration ∈ declarationsFor route verb paths ↔
      (declaration.route = route ∧ declaration.verb = verb) ∧ ∃ item,
        (declaration.template, item) ∈ paths ∧
          item.operation verb = some declaration.operation := by
  unfold declarationsFor
  rw [List.mem_filter, mem_declarationsOf, decide_eq_true_eq, and_comm]
  refine and_congr_right ?_
  rintro ⟨_, rfl⟩
  rfl

/-- No path key declares an operation exactly when it has no declarations. -/
theorem declarationsFor_eq_nil_iff {route : String} {verb : Verb} {paths : Fields PathItem} :
    declarationsFor route verb paths = [] ↔
      ∀ entry ∈ paths, Route.ofBraces entry.1 = route → entry.2.operation verb = none := by
  constructor
  · intro hnil entry hentry hroute
    cases hoperation : entry.2.operation verb with
    | none => rfl
    | some operation =>
      have hmem : ⟨entry.1, verb, operation⟩ ∈ declarationsFor route verb paths :=
        mem_declarationsFor.2 ⟨⟨hroute, rfl⟩, entry.2, hentry, hoperation⟩
      rw [hnil] at hmem
      exact absurd hmem List.not_mem_nil
  · intro hnone
    refine List.eq_nil_iff_forall_not_mem.2 ?_
    intro declaration hmem
    obtain ⟨⟨hroute, _⟩, item, hitem, hoperation⟩ := mem_declarationsFor.1 hmem
    rw [hnone _ hitem hroute] at hoperation
    cases hoperation

/-- The last declaration of an operation stands under the last path key that declares it. -/
theorem exists_last_path {paths : Fields PathItem} {route : String} {verb : Verb}
    {declaration : Declaration}
    (h : (declarationsFor route verb paths).getLast? = some declaration) :
    ∃ before item after, paths = before ++ (declaration.template, item) :: after ∧
      item.operation verb = some declaration.operation ∧
      ∀ later ∈ after, Route.ofBraces later.1 = route → later.2.operation verb = none := by
  induction paths using List.reverseRecOn with
  | nil => cases h
  | append_singleton paths entry ih =>
    rw [declarationsFor_append] at h
    by_cases hnil : declarationsFor route verb [entry] = []
    · rw [hnil, List.append_nil] at h
      obtain ⟨before, item, after, rfl, hoperation, hafter⟩ := ih h
      refine ⟨before, item, after ++ [entry], by simp, hoperation, ?_⟩
      intro later hlater
      rcases List.mem_append.1 hlater with hlater | hlater
      · exact hafter later hlater
      · exact declarationsFor_eq_nil_iff.1 hnil later hlater
    · rw [List.getLast?_append_of_ne_nil _ hnil] at h
      obtain ⟨_, item, hitem, hoperation⟩ := mem_declarationsFor.1 (List.mem_of_getLast? h)
      obtain rfl := List.mem_singleton.1 hitem
      exact ⟨paths, item, [], rfl, hoperation, fun _ hlater => absurd hlater List.not_mem_nil⟩

/-! ## Document order -/

/-- The order of operations in a document: of path keys, and of methods under one path key. -/
def Precedes (description : Description) (first second : String × Verb) : Prop :=
  description.paths.names.idxOf first.1 < description.paths.names.idxOf second.1 ∨
    first.1 = second.1 ∧ first.2.rank < second.2.rank

theorem Precedes.ne {description : Description} {first second : String × Verb}
    (h : description.Precedes first second) : first ≠ second := by
  rintro rfl
  rcases h with h | ⟨_, h⟩
  · exact Nat.lt_irrefl _ h
  · exact Nat.lt_irrefl _ h

/-- The operations of a path stand in the order of the methods. -/
theorem pairwise_operations (item : PathItem) :
    item.operations.Pairwise fun a b => a.1.rank < b.1.rank := by
  unfold PathItem.operations
  rw [List.pairwise_filterMap]
  have hall : Verb.all.Pairwise fun a b => a.rank < b.rank := by decide
  refine hall.imp ?_
  intro a b hab x hx y hy
  obtain ⟨_, _, rfl⟩ := Option.map_eq_some_iff.1 hx
  obtain ⟨_, _, rfl⟩ := Option.map_eq_some_iff.1 hy
  exact hab

/-- When every path key occurs once, the declarations stand in document order. -/
theorem pairwise_declarations {description : Description} (h : description.paths.Distinct) :
    description.declarations.Pairwise fun a b =>
      description.Precedes (a.template, a.verb) (b.template, b.verb) := by
  unfold declarations declarationsOf
  rw [List.pairwise_flatMap]
  constructor
  · intro entry _
    rw [List.pairwise_map]
    exact (pairwise_operations entry.2).imp fun hab => Or.inr ⟨rfl, hab⟩
  · refine (Fields.pairwise_idxOf_names h).imp ?_
    intro a b hab x hx y hy
    obtain ⟨_, _, rfl⟩ := List.mem_map.1 hx
    obtain ⟨_, _, rfl⟩ := List.mem_map.1 hy
    exact Or.inl hab

/-- When every path key occurs once, the bindings stand in document order. -/
theorem pairwise_bindings {description : Description} (h : description.paths.Distinct) :
    (description.declarations.filterMap Declaration.binding?).Pairwise fun a b =>
      description.Precedes (a.template, a.verb) (b.template, b.verb) := by
  rw [List.pairwise_filterMap]
  refine (pairwise_declarations h).imp ?_
  intro a b hab x hx y hy
  obtain ⟨_, _, rfl⟩ := Option.map_eq_some_iff.1 hx
  obtain ⟨_, _, rfl⟩ := Option.map_eq_some_iff.1 hy
  exact hab

/-- The bindings are the operations that name a controller. -/
theorem mem_bindings {description : Description} {binding : Binding} :
    binding ∈ description.declarations.filterMap Declaration.binding? ↔
      binding.route = Route.ofBraces binding.template ∧ ∃ item operation,
        (binding.template, item) ∈ description.paths ∧
          item.operation binding.verb = some operation ∧
          operation.controller = some binding.controller := by
  rw [List.mem_filterMap]
  constructor
  · rintro ⟨declaration, hdeclaration, hbinding⟩
    obtain ⟨item, hitem, hoperation⟩ := mem_declarations.1 hdeclaration
    obtain ⟨controller, hcontroller, rfl⟩ := Option.map_eq_some_iff.1 hbinding
    exact ⟨rfl, item, declaration.operation, hitem, hoperation, hcontroller⟩
  · rintro ⟨hroute, item, operation, hitem, hoperation, hcontroller⟩
    refine ⟨⟨binding.template, binding.verb, operation⟩,
      mem_declarations.2 ⟨item, hitem, hoperation⟩, ?_⟩
    obtain ⟨verb, template, route, controller⟩ := binding
    obtain rfl : route = Route.ofBraces template := hroute
    exact Option.map_eq_some_iff.2 ⟨controller, hcontroller, rfl⟩

end Description

/-! ## Faithfulness -/

/-- A compiled description says what a description says. -/
structure Compiled.IsFaithful (compiled : Compiled) (description : Description) : Prop where
  mem_routes : ∀ route, route ∈ compiled.routes.templates ↔
    ∃ template ∈ description.paths.names, Route.ofBraces template = route
  /-- Every route stands once, and they descend in the order of their bytes. -/
  routes_descending : compiled.routes.templates.Pairwise fun a b => Utf8.encode b < Utf8.encode a
  recorded_eq_none : ∀ route verb, compiled.rules.recorded? route verb = none ↔
    ∀ entry ∈ description.paths,
      Route.ofBraces entry.1 = route → entry.2.operation verb = none
  /-- What is recorded for an operation comes from the last path key that declares it. -/
  recorded_last : ∀ route verb recorded, compiled.rules.recorded? route verb = some recorded →
    ∃ before template item after operation,
      description.paths = before ++ (template, item) :: after ∧
      Route.ofBraces template = route ∧ item.operation verb = some operation ∧
      (∀ later ∈ after, Route.ofBraces later.1 = route → later.2.operation verb = none) ∧
      operation.RecordedAs recorded
  mem_bindings : ∀ binding, binding ∈ compiled.bindings ↔
    binding.route = Route.ofBraces binding.template ∧ ∃ item operation,
      (binding.template, item) ∈ description.paths ∧
        item.operation binding.verb = some operation ∧
        operation.controller = some binding.controller
  bindings_nodup : compiled.bindings.Nodup
  bindings_in_order : compiled.bindings.Pairwise fun a b =>
    description.Precedes (a.template, a.verb) (b.template, b.verb)
  binding_is_known : ∀ binding ∈ compiled.bindings,
    binding.route ∈ compiled.routes.templates ∧
      (compiled.rules.recorded? binding.route binding.verb).isSome = true

namespace Description

/-- The routes of a compiled description are those of its path keys. -/
theorem mem_routes_compile {description : Description} {compiled : Compiled}
    (h : description.compile = .ok compiled) {route : String} :
    route ∈ compiled.routes.templates ↔
      ∃ template ∈ description.paths.names, Route.ofBraces template = route := by
  rw [(compile_cases h).2.1, Route.Index.mem_templates_ofList, List.mem_map]

/-- Nothing is recorded for an operation exactly when no path key declares it. -/
theorem recorded?_compile_eq_none_iff {description : Description} {compiled : Compiled}
    (h : description.compile = .ok compiled) {route : String} {verb : Verb} :
    compiled.rules.recorded? route verb = none ↔ ∀ entry ∈ description.paths,
      Route.ofBraces entry.1 = route → entry.2.operation verb = none := by
  rw [← declarationsFor_eq_nil_iff, ← List.getLast?_eq_none_iff]
  have hrecords := records_compile h route verb
  constructor
  · intro hnone
    rw [hnone] at hrecords
    exact Option.map_eq_none_iff.1 hrecords.symm
  · intro hnone
    unfold declarationsFor at hnone
    unfold declarations at hrecords
    rw [hnone] at hrecords
    exact Option.map_eq_none_iff.1 hrecords

/-- What is recorded for an operation comes from the last path key that declares it. -/
theorem recorded?_compile_eq_some {description : Description} {compiled : Compiled}
    (h : description.compile = .ok compiled) {route : String} {verb : Verb}
    {recorded : Option LocationRules} (hrecorded : compiled.rules.recorded? route verb = some recorded) :
    ∃ before template item after operation,
      description.paths = before ++ (template, item) :: after ∧
      Route.ofBraces template = route ∧ item.operation verb = some operation ∧
      (∀ later ∈ after, Route.ofBraces later.1 = route → later.2.operation verb = none) ∧
      operation.RecordedAs recorded := by
  have hrecords := records_compile h route verb
  rw [hrecorded] at hrecords
  obtain ⟨declaration, hlast, hrules⟩ := Option.map_eq_some_iff.1 hrecords.symm
  obtain ⟨before, item, after, hpaths, hoperation, hafter⟩ := exists_last_path hlast
  obtain ⟨⟨hroute, _⟩, _⟩ := mem_declarationsFor.1 (List.mem_of_getLast? hlast)
  exact ⟨before, declaration.template, item, after, declaration.operation, hpaths, hroute,
    hoperation, hafter, Compiled.recordedAs_of_operationRules hrules⟩

/-- The compiled rules of an operation have every field once at every place. -/
theorem distinct_fieldsAt_compile {description : Description} {compiled : Compiled}
    (h : description.compile = .ok compiled) {route : String} {verb : Verb} {rules : LocationRules}
    (hrules : compiled.rules.recorded? route verb = some (some rules)) (location : Location) :
    (rules.fieldsAt location).Distinct := by
  obtain ⟨_, _, _, _, operation, _, _, _, _, hrecorded⟩ := recorded?_compile_eq_some h hrules
  unfold Operation.RecordedAs at hrecorded
  cases hparameters : operation.parameters with
  | none =>
    rw [hparameters] at hrecorded
    exact absurd hrecorded id
  | some parameters =>
    rw [hparameters] at hrecorded
    unfold Fields.Distinct
    rw [(hrecorded location).names_eq]
    exact Fields.nodup_eraseDups _

/-- Compilation is faithful: what it gives says what the description says.  Path keys are the keys of
one mapping, so each of them occurs once. -/
theorem compile_isFaithful {description : Description} {compiled : Compiled}
    (hdistinct : description.paths.Distinct) (h : description.compile = .ok compiled) :
    compiled.IsFaithful description := by
  have hbindings := (compile_cases h).2.2
  have horder := pairwise_bindings hdistinct
  rw [← hbindings] at horder
  constructor
  case mem_routes => exact fun route => mem_routes_compile h
  case routes_descending =>
    exact compiled.routes.descending.imp fun hlt => Utf8.encode_lt_encode_iff.2 hlt
  case recorded_eq_none => exact fun route verb => recorded?_compile_eq_none_iff h
  case recorded_last => exact fun route verb recorded => recorded?_compile_eq_some h
  case mem_bindings =>
    intro binding
    rw [hbindings, mem_bindings]
  case bindings_nodup =>
    refine horder.imp ?_
    rintro a _ hab rfl
    exact hab.ne rfl
  case bindings_in_order => exact horder
  case binding_is_known =>
    intro binding hbinding
    rw [hbindings, mem_bindings] at hbinding
    obtain ⟨hroute, item, operation, hitem, hoperation, _⟩ := hbinding
    have hname : binding.template ∈ description.paths.names := List.mem_map_of_mem hitem
    refine ⟨(mem_routes_compile h).2 ⟨binding.template, hname, hroute.symm⟩, ?_⟩
    rw [Option.isSome_iff_ne_none]
    intro hnone
    have hother := (recorded?_compile_eq_none_iff h).1 hnone _ hitem hroute.symm
    rw [hoperation] at hother
    cases hother

/-- Two path keys with one route: the first declares a parameter and names a controller, the second
declares no list of parameters. -/
def twoKeys : Description where
  swagger := none
  openapi := none
  paths :=
    [("/users/\x7bid\x7d", ⟨fun
        | .get => some ⟨none, some [⟨some "id", some "path", some "int", none, none, none, none⟩],
          some "show"⟩
        | _ => none⟩),
      ("/users/:id", ⟨fun
        | .get => some ⟨none, none, none⟩
        | _ => none⟩)]

/-- The hypotheses are satisfied where keys collide; the second key wins. -/
theorem twoKeys_isFaithful : twoKeys.paths.Distinct ∧ ∃ compiled,
    twoKeys.compile = .ok compiled ∧ compiled.IsFaithful twoKeys ∧
      compiled.rules.recorded? "/users/:id" .get = some none ∧ compiled.bindings.length = 1 := by
  have hdistinct : twoKeys.paths.Distinct := by
    unfold Fields.Distinct
    decide
  exact ⟨hdistinct, _, rfl, compile_isFaithful hdistinct rfl, by rfl, by decide⟩

end Description
end RequestGate
