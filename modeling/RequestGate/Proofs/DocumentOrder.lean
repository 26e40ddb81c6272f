import Mathlib.Data.List.Sort
import RequestGate.Proofs.Compilation
import RequestGate.Proofs.Planning
import RequestGate.Proofs.Resolution

/-!
# The order of a document

A document lists its paths in some order.  What it compiles to does not depend on that order, as long
as every path key has a route of its own: the table and the index are sorted, and no operation is
declared twice, so that none replaces another.

Main results:

- Theorem `Description.exists_compile_iff`: a description compiles exactly when the rules of every
  declaration can be built.
- Theorem `Description.recorded?_compile_iff`: where every path key has its own route, an operation is
  recorded with rules exactly when it is declared with them.
- Theorem `Description.SamePaths.compilesAlike`: descriptions with the same paths in different orders
  compile alike.
-/

namespace RequestGate

/-! ## Whether a description compiles -/

/-- The rules of a declaration, or what is malformed in it. -/
def Declaration.rules (declaration : Declaration) : Except CompileError (Option LocationRules) :=
  Compiled.operationRules declaration.template declaration.verb declaration.operation

/-- A path is added to a table exactly when the rules of all its declarations can be built; the table
does not matter. -/
theorem Compiled.exists_withPath_iff (table : RuleTable) (entry : String × PathItem) :
    (∃ next, withPath table entry = .ok next) ↔
      ∀ declaration ∈ Description.declarationsOf [entry], ∃ rules, declaration.rules = .ok rules := by
  have hstep : ∀ table : RuleTable, ∀ operation ∈ entry.2.operations,
      (∃ next, (operationRules entry.1 operation.1 operation.2 >>= fun rules =>
        .ok (table.insert (Route.ofBraces entry.1) operation.1 rules)) = .ok next) ↔
      ∃ rules, operationRules entry.1 operation.1 operation.2 = .ok rules := by
    intro table operation _
    constructor
    · rintro ⟨_, hnext⟩
      obtain ⟨rules, hrules, _⟩ := Fallible.bind_eq_ok_iff.1 hnext
      exact ⟨rules, hrules⟩
    · rintro ⟨rules, hrules⟩
      exact ⟨_, Fallible.bind_eq_ok_iff.2 ⟨rules, hrules, rfl⟩⟩
  have hrun := Fallible.exists_foldlM_eq_ok_iff hstep table
  unfold Description.declarationsOf
  rw [List.flatMap_singleton, List.forall_mem_map]
  exact hrun

namespace Description

/-- A description compiles exactly when the rules of all its declarations can be built. -/
theorem exists_compile_iff {description : Description} :
    (∃ compiled, description.compile = .ok compiled) ↔
      ∀ declaration ∈ description.declarations, ∃ rules, declaration.rules = .ok rules := by
  have hrun := Fallible.exists_foldlM_eq_ok_iff
    (fun table entry (_ : entry ∈ description.paths) => Compiled.exists_withPath_iff table entry)
    RuleTable.empty
  have htable : (∃ compiled, description.compile = .ok compiled) ↔
      ∃ table, description.paths.foldlM Compiled.withPath RuleTable.empty = .ok table := by
    constructor
    · rintro ⟨compiled, hcompile⟩
      exact ⟨compiled.rules, (compile_cases hcompile).1⟩
    · rintro ⟨table, htable⟩
      exact ⟨_, Fallible.bind_eq_ok_iff.2 ⟨table, htable, rfl⟩⟩
  rw [htable, hrun]
  unfold declarations declarationsOf
  simp only [List.flatMap_singleton, List.mem_flatMap]
  constructor
  · rintro hentries declaration ⟨entry, hentry, hdeclared⟩
    exact hentries entry hentry declaration hdeclared
  · intro hall entry hentry declaration hdeclared
    exact hall declaration ⟨entry, hentry, hdeclared⟩

/-! ## Path keys with routes of their own -/

/-- Distinct path keys have distinct routes. -/
def HasOwnRoutes (description : Description) : Prop :=
  ∀ key ∈ description.paths.names, ∀ other ∈ description.paths.names,
    Route.ofBraces key = Route.ofBraces other → key = other

/-- An operation is declared once, where every path key stands once and has its own route. -/
theorem HasOwnRoutes.declaration_unique {description : Description} (hroutes : description.HasOwnRoutes)
    (hdistinct : description.paths.Distinct) {first second : Declaration}
    (hfirst : first ∈ description.declarations) (hsecond : second ∈ description.declarations)
    (hroute : first.route = second.route) (hverb : first.verb = second.verb) : first = second := by
  obtain ⟨template, verb, operation⟩ := first
  obtain ⟨otherTemplate, otherVerb, otherOperation⟩ := second
  obtain ⟨item, hitem, hoperation⟩ := mem_declarations.1 hfirst
  obtain ⟨otherItem, hotherItem, hotherOperation⟩ := mem_declarations.1 hsecond
  obtain rfl : template = otherTemplate :=
    hroutes _ (List.mem_map_of_mem hitem) _ (List.mem_map_of_mem hotherItem) hroute
  obtain rfl : verb = otherVerb := hverb
  have hget := (Fields.get?_eq_some_iff_mem hdistinct).2 hitem
  have hotherGet := (Fields.get?_eq_some_iff_mem hdistinct).2 hotherItem
  obtain rfl : item = otherItem := Option.some.inj (hget.symm.trans hotherGet)
  obtain rfl : operation = otherOperation :=
    Option.some.inj (hoperation.symm.trans hotherOperation)
  rfl

/-- An operation is recorded with rules exactly when it is declared with them. -/
theorem recorded?_compile_iff {description : Description} {compiled : Compiled}
    (hcompile : description.compile = .ok compiled) (hdistinct : description.paths.Distinct)
    (hroutes : description.HasOwnRoutes) {route : String} {verb : Verb}
    {rules : Option LocationRules} :
    compiled.rules.recorded? route verb = some rules ↔
      ∃ declaration ∈ description.declarations, declaration.route = route ∧
        declaration.verb = verb ∧ declaration.rules = .ok rules := by
  have hrecords := records_compile hcompile route verb
  have hfilter : ∀ {declaration : Declaration}, declaration ∈ description.declarations.filter
      (fun d => d.route = route ∧ d.verb = verb) ↔ declaration ∈ description.declarations ∧
        declaration.route = route ∧ declaration.verb = verb := by
    intro declaration
    rw [List.mem_filter, decide_eq_true_eq]
  constructor
  · intro hrecorded
    rw [hrecorded, Option.map_some] at hrecords
    obtain ⟨declaration, hlast, hrules⟩ := Option.map_eq_some_iff.1 hrecords.symm
    obtain ⟨hmem, hroute, hverb⟩ := hfilter.1 (List.mem_of_getLast? hlast)
    exact ⟨declaration, hmem, hroute, hverb, hrules⟩
  · rintro ⟨declaration, hmem, hroute, hverb, hrules⟩
    have hne := List.ne_nil_of_mem (hfilter.2 ⟨hmem, hroute, hverb⟩)
    have hlast := List.getLast?_eq_some_getLast hne
    -- The last declaration of the operation is its only one.
    obtain ⟨hmem', hroute', hverb'⟩ := hfilter.1 (List.getLast_mem hne)
    have hsame := hroutes.declaration_unique hdistinct hmem' hmem (hroute'.trans hroute.symm)
      (hverb'.trans hverb.symm)
    rw [hlast, hsame, Option.map_some] at hrecords
    obtain ⟨found, hfound, hok⟩ := Option.map_eq_some_iff.1 hrecords
    rw [hfound, Except.ok.inj (hok.trans hrules)]

end Description

/-! ## Sorted tables and indexes -/

instance : Std.Irrefl RuleEntry.Precedes where
  irrefl _ h := h.not_same ⟨rfl, rfl⟩

instance : Std.Antisymm RuleEntry.Precedes where
  antisymm _ _ hab hba := absurd ⟨rfl, rfl⟩ (hab.trans hba).not_same

/-- Tables in order that record the same are the same. -/
theorem RuleTable.eq_of_recorded?_iff {first second : RuleTable} (hfirst : first.Ordered)
    (hsecond : second.Ordered) (h : ∀ route verb rules,
      first.recorded? route verb = some rules ↔ second.recorded? route verb = some rules) :
    first = second := by
  obtain ⟨entries⟩ := first
  obtain ⟨others⟩ := second
  rw [RuleTable.mk.injEq]
  refine List.Pairwise.eq_of_mem_iff hfirst hsecond ?_
  rintro ⟨route, verb, rules⟩
  have hrecorded := h route verb rules
  rwa [recorded?_eq_some_iff hfirst, recorded?_eq_some_iff hsecond] at hrecorded

/-- Indexes with the same templates are the same. -/
theorem Route.Index.eq_of_mem_iff {first second : Route.Index}
    (h : ∀ template, template ∈ first.templates ↔ template ∈ second.templates) : first = second := by
  obtain ⟨templates, hdescending⟩ := first
  obtain ⟨others, hothers⟩ := second
  rw [Route.Index.mk.injEq]
  exact List.Pairwise.eq_of_mem_iff hdescending hothers h

/-! ## Descriptions with the same paths -/

/-- Compiled descriptions differ at most in the order of their bindings. -/
structure Compiled.Agrees (first second : Compiled) : Prop where
  rules : first.rules = second.rules
  routes : first.routes = second.routes
  bindings : first.bindings.Perm second.bindings
  /-- Gates for the two find the same plan for every path and method. -/
  plans : ∀ {σ τ : Type} (gate : Gate σ) (other : Gate τ), gate.compiled = first →
    other.compiled = second → ∀ path method, gate.plan? path method = other.plan? path method

/-- Plans depend on the table and on the index of a gate only. -/
theorem Gate.plan?_congr {σ τ : Type} {gate : Gate σ} {other : Gate τ}
    (hrules : gate.compiled.rules = other.compiled.rules)
    (hroutes : gate.compiled.routes = other.compiled.routes) (path method : String) :
    gate.plan? path method = other.plan? path method := by
  unfold plan?
  rw [hrules, hroutes]

namespace Description

/-- Two descriptions have the same path keys, each of them once, and the same item under each key. -/
structure SamePaths (first second : Description) : Prop where
  distinct_first : first.paths.Distinct
  distinct_second : second.paths.Distinct
  get?_eq : ∀ key, Fields.get? key first.paths = Fields.get? key second.paths

/-- The paths of a description in another order. -/
theorem SamePaths.of_perm {first second : Description} (hdistinct : first.paths.Distinct)
    (h : first.paths.Perm second.paths) : first.SamePaths second := by
  have hnames : first.paths.names.Perm second.paths.names := h.map Prod.fst
  have hsecond : second.paths.Distinct := hnames.nodup_iff.1 hdistinct
  refine ⟨hdistinct, hsecond, ?_⟩
  intro key
  ext item
  rw [Fields.get?_eq_some_iff_mem hdistinct, Fields.get?_eq_some_iff_mem hsecond, h.mem_iff]

theorem SamePaths.paths_perm {first second : Description} (h : first.SamePaths second) :
    first.paths.Perm second.paths :=
  Fields.perm_of_get?_eq h.distinct_first h.distinct_second h.get?_eq

theorem SamePaths.declarations_perm {first second : Description} (h : first.SamePaths second) :
    first.declarations.Perm second.declarations :=
  h.paths_perm.flatMap_right _

theorem SamePaths.hasOwnRoutes {first second : Description} (h : first.SamePaths second)
    (hroutes : first.HasOwnRoutes) : second.HasOwnRoutes := by
  have hnames : first.paths.names.Perm second.paths.names := h.paths_perm.map Prod.fst
  intro key hkey other hother
  exact hroutes key (hnames.mem_iff.2 hkey) other (hnames.mem_iff.2 hother)

/-- Two descriptions both compile or both do not, and what they compile to agrees. -/
structure CompilesAlike (first second : Description) : Prop where
  compiles_iff : (∃ compiled, first.compile = .ok compiled) ↔
    ∃ compiled, second.compile = .ok compiled
  agrees : ∀ compiled other, first.compile = .ok compiled → second.compile = .ok other →
    compiled.Agrees other

theorem SamePaths.compiles_iff {first second : Description} (h : first.SamePaths second) :
    (∃ compiled, first.compile = .ok compiled) ↔ ∃ compiled, second.compile = .ok compiled := by
  rw [exists_compile_iff, exists_compile_iff]
  simp only [h.declarations_perm.mem_iff]

theorem SamePaths.rules_eq {first second : Description} (h : first.SamePaths second)
    (hroutes : first.HasOwnRoutes) {compiled other : Compiled}
    (hfirst : first.compile = .ok compiled) (hsecond : second.compile = .ok other) :
    compiled.rules = other.rules := by
  apply RuleTable.eq_of_recorded?_iff (ordered_compile hfirst) (ordered_compile hsecond)
  intro route verb rules
  rw [recorded?_compile_iff hfirst h.distinct_first hroutes,
    recorded?_compile_iff hsecond h.distinct_second (h.hasOwnRoutes hroutes)]
  simp only [h.declarations_perm.mem_iff]

theorem SamePaths.routes_eq {first second : Description} (h : first.SamePaths second)
    {compiled other : Compiled} (hfirst : first.compile = .ok compiled)
    (hsecond : second.compile = .ok other) : compiled.routes = other.routes := by
  have hnames : first.paths.names.Perm second.paths.names := h.paths_perm.map Prod.fst
  apply Route.Index.eq_of_mem_iff
  intro template
  rw [(compile_cases hfirst).2.1, (compile_cases hsecond).2.1, Route.Index.mem_templates_ofList,
    Route.Index.mem_templates_ofList]
  exact (hnames.map Route.ofBraces).mem_iff

theorem SamePaths.bindings_perm {first second : Description} (h : first.SamePaths second)
    {compiled other : Compiled} (hfirst : first.compile = .ok compiled)
    (hsecond : second.compile = .ok other) : compiled.bindings.Perm other.bindings := by
  rw [(compile_cases hfirst).2.2, (compile_cases hsecond).2.2]
  exact h.declarations_perm.filterMap _

/-- Descriptions that list the same paths in different orders compile alike, when distinct keys have
distinct routes. -/
theorem SamePaths.compilesAlike {first second : Description} (h : first.SamePaths second)
    (hroutes : first.HasOwnRoutes) : first.CompilesAlike second := by
  refine ⟨h.compiles_iff, ?_⟩
  intro compiled other hfirst hsecond
  have hrules := h.rules_eq hroutes hfirst hsecond
  have hindex := h.routes_eq hfirst hsecond
  constructor
  case rules => exact hrules
  case routes => exact hindex
  case bindings => exact h.bindings_perm hfirst hsecond
  case plans =>
    rintro σ τ gate _ rfl rfl path method
    exact Gate.plan?_congr hrules hindex path method

/-- Two paths, one of them with a placeholder. -/
def petsThenUsers : Description where
  swagger := none
  openapi := none
  paths :=
    [("/pets", ⟨fun
        | .get => some ⟨none, some [⟨some "limit", some "query", none, none, none, none, none⟩],
          some "list"⟩
        | _ => none⟩),
     ("/users/{id}", ⟨fun
        | .get => some ⟨none, some [⟨some "id", some "path", none, none, none, none, none⟩],
          some "show"⟩
        | _ => none⟩)]

/-- The same paths the other way round. -/
def usersThenPets : Description :=
  { petsThenUsers with paths := petsThenUsers.paths.reverse }

theorem petsThenUsers_compilesAlike :
    petsThenUsers.paths.names ≠ usersThenPets.paths.names ∧
      (∃ compiled, petsThenUsers.compile = .ok compiled) ∧
        petsThenUsers.CompilesAlike usersThenPets := by
  have hdistinct : petsThenUsers.paths.Distinct := by
    unfold Fields.Distinct
    decide
  have hroutes : petsThenUsers.HasOwnRoutes := by
    unfold HasOwnRoutes
    decide
  have hsame : petsThenUsers.SamePaths usersThenPets :=
    SamePaths.of_perm hdistinct (List.reverse_perm _).symm
  exact ⟨by decide, ⟨_, rfl⟩, hsame.compilesAlike hroutes⟩

end Description
end RequestGate
