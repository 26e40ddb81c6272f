import Mathlib.Data.List.Induction
import RequestGate.Compiled
import RequestGate.Proofs.Fallible
import RequestGate.Proofs.Fields
import RequestGate.Proofs.RuleTable

/-!
# Declarations and what is compiled of them

A description declares rules for the parameters and properties of every operation, and operations for
every path key.  Compilation inserts the rules of an operation into the tables of the five places, and
the operations into the table of rules; both are runs of steps that may fail.

Main results:

- Theorem `LocationRules.declaredBy_ofParameters`: the rules of an operation at a place are the
  declared ones, each key with its last rule at the place of its first.
- Theorem `Description.records_compile`: the compiled table has for every operation the rules of its
  last declaration.
- Theorem `Description.ordered_compile`: the compiled table is in order.
-/

namespace RequestGate

namespace Location

theorem ofName?_eq_some_iff {text : String} {location : Location} :
    ofName? text = some location ↔ location.name = text := by
  unfold ofName?
  constructor
  · intro h
    simpa using List.find?_some h
  · rintro rfl
    cases location <;> decide

theorem name_injective {a b : Location} (h : a.name = b.name) : a = b := by
  have ha := ofName?_eq_some_iff.2 h
  have hb := ofName?_eq_some_iff.2 (rfl : b.name = b.name)
  exact Option.some.inj (ha.symm.trans hb)

end Location

/-! ## What a description declares -/

namespace Schema

/-- The rule of a property of a schema. -/
def propertyRule (schema : Schema) (field : String) (property : Schema) :
    Except ParameterFault Rule :=
  Rule.build (property.kind.bind SchemaType.primary?)
    (LocationRules.propertyRequired schema field property) property.format property.formatOptions
    field

/-- The rules that a schema declares: one for each property. -/
def declared (schema : Schema) : List (String × Except ParameterFault Rule) :=
  (schema.properties.getD []).map fun entry => (entry.1, schema.propertyRule entry.1 entry.2)

end Schema

namespace Parameter

/-- The rule of a parameter that is not a body; a path parameter is always required. -/
def ownRule (location : Location) (name : String) (parameter : Parameter) :
    Except ParameterFault Rule :=
  (Rule.build parameter.kind (parameter.required.getD false) parameter.format
    parameter.formatOptions name).map fun rule =>
      if location = .path then { rule with required := true } else rule

/-- The rules that a parameter declares at a location, with their keys in order. -/
def declaredAt (location : Location) (parameter : Parameter) :
    List (String × Except ParameterFault Rule) :=
  if parameter.location = some location.name then
    if location = .body then (parameter.schema.map Schema.declared).getD []
    else parameter.name.toList.map fun name =>
      (LocationRules.fieldKey location name, parameter.ownRule location name)
  else []

end Parameter

/-- Declared rules that can all be built, and what they are. -/
def built (rules : List (String × Rule)) : List (String × Except ParameterFault Rule) :=
  rules.map fun entry => (entry.1, .ok entry.2)

theorem built_append (first second : List (String × Rule)) :
    built (first ++ second) = built first ++ built second :=
  List.map_append

namespace LocationRules

/-! ## One operation -/

theorem withBody_cases {parameter : Parameter} {name : String} {rules body : FieldRules}
    (h : withBody parameter name rules = .ok body) :
    ∃ schema properties, parameter.schema = some schema ∧ schema.properties = some properties ∧
      properties.foldlM (withProperty schema) rules = .ok body := by
  unfold withBody at h
  split at h
  · cases h
  · rename_i schema hschema
    split at h
    · cases h
    · rename_i properties hproperties
      exact ⟨schema, properties, hschema, hproperties, h⟩

/-- What adding a parameter does: it adds the properties of a body, or one rule. -/
theorem withParameter_cases {rules next : LocationRules} {parameter : Parameter}
    (h : withParameter rules parameter = .ok next) :
    (parameter.location = some Location.body.name ∧ ∃ schema properties body,
      parameter.schema = some schema ∧ schema.properties = some properties ∧
      properties.foldlM (withProperty schema) rules.body = .ok body ∧
      next = { rules with body := body }) ∨
    ∃ location name rule, location ≠ .body ∧ parameter.location = some location.name ∧
      parameter.name = some name ∧ parameter.ownRule location name = .ok rule ∧
      next = rules.modify (·.insert (fieldKey location name) rule) location := by
  unfold withParameter at h
  cases hname : parameter.name with
  | none => simp [hname] at h
  | some name =>
    cases hlocation : parameter.location with
    | none => simp [hname, hlocation] at h
    | some text =>
      cases htext : Location.ofName? text with
      | none => simp [hname, hlocation, htext] at h
      | some location =>
        simp only [hname, hlocation, htext] at h
        obtain rfl := Location.ofName?_eq_some_iff.1 htext
        by_cases hbody : location = .body
        · rw [if_pos hbody] at h
          obtain ⟨body, hwith, hnext⟩ := Fallible.bind_eq_ok_iff.1 h
          obtain ⟨schema, properties, hschema, hproperties, hrun⟩ := withBody_cases hwith
          cases hnext
          exact Or.inl ⟨congrArg (some ∘ Location.name) hbody, schema, properties, body, hschema,
            hproperties, hrun, rfl⟩
        · rw [if_neg hbody] at h
          obtain ⟨rule, hrule, hnext⟩ := Fallible.bind_eq_ok_iff.1 h
          cases hnext
          refine Or.inr ⟨location, name, _, hbody, rfl, rfl, ?_, rfl⟩
          exact Fallible.map_eq_ok_iff.2 ⟨rule, hrule, rfl⟩

/-- A parameter away from bodies is added with its own rule. -/
theorem withParameter_eq_map {rules : LocationRules} {parameter : Parameter} {name : String}
    {location : Location} (hname : parameter.name = some name)
    (hlocation : parameter.location = some location.name) (hbody : location ≠ .body) :
    withParameter rules parameter = (parameter.ownRule location name).map fun rule =>
      rules.modify (·.insert (fieldKey location name) rule) location := by
  have hread : Location.ofName? location.name = some location := Location.ofName?_eq_some_iff.2 rfl
  unfold withParameter Parameter.ownRule
  simp only [hname, hlocation, hread, if_neg hbody]
  cases Rule.build parameter.kind (parameter.required.getD false) parameter.format
    parameter.formatOptions name <;> rfl

/-- The properties of a schema are added one after another, each with the rule it declares. -/
theorem foldlM_withProperty {schema : Schema} {properties : List (String × Schema)}
    {rules body : FieldRules} (hproperties : schema.properties = some properties)
    (h : properties.foldlM (withProperty schema) rules = .ok body) :
    ∃ added, schema.declared = built added ∧ body = Fields.insertAll rules added := by
  unfold Schema.declared
  rw [hproperties, Option.getD_some]
  refine Fallible.foldlM_ok_induction (motive := fun done body => ∃ added,
    (done.map fun entry => (entry.1, schema.propertyRule entry.1 entry.2)) = built added ∧
      body = Fields.insertAll rules added) ⟨[], rfl, rfl⟩ ?_ h
  rintro done fields ⟨field, property⟩ next ⟨added, hadded, rfl⟩ hnext
  obtain ⟨rule, hrule, hnext⟩ := Fallible.bind_eq_ok_iff.1 hnext
  cases hnext
  refine ⟨added ++ [(field, rule)], ?_, (Fields.insertAll_append_singleton rules added (field, rule)).symm⟩
  rw [List.map_append, hadded, built_append, List.map_singleton, Schema.propertyRule, hrule]
  rfl

/-- Adding a parameter inserts the rules it declares, at every location. -/
theorem fieldsAt_withParameter {rules next : LocationRules} {parameter : Parameter}
    (h : withParameter rules parameter = .ok next) (location : Location) :
    ∃ added, parameter.declaredAt location = built added ∧
      next.fieldsAt location = Fields.insertAll (rules.fieldsAt location) added := by
  rcases withParameter_cases h with
    ⟨hplace, schema, properties, body, hschema, hproperties, hrun, rfl⟩ |
    ⟨place, name, rule, hbody, hplace, hname, hrule, rfl⟩
  · by_cases hlocation : location = .body
    · subst hlocation
      obtain ⟨added, hadded, hbody⟩ := foldlM_withProperty hproperties hrun
      refine ⟨added, ?_, hbody⟩
      simp [Parameter.declaredAt, hplace, hschema, hadded]
    · have hother : ¬ Location.body.name = location.name := fun hn =>
        hlocation (Location.name_injective hn).symm
      refine ⟨[], by simp [Parameter.declaredAt, hplace, hother, built], ?_⟩
      cases location <;> first | rfl | exact absurd rfl hlocation
  · rw [fieldsAt_modify]
    by_cases hlocation : location = place
    · subst hlocation
      refine ⟨[(fieldKey location name, rule)], ?_, ?_⟩
      · simp [Parameter.declaredAt, hplace, hbody, hname, hrule, built]
      · rw [if_pos rfl]
        rfl
    · have hother : ¬ place.name = location.name := fun hn =>
        hlocation (Location.name_injective hn).symm
      refine ⟨[], by simp [Parameter.declaredAt, hplace, hother, built], ?_⟩
      rw [if_neg hlocation]
      rfl

/-- The rules of an operation at a location are its declared rules, inserted in order. -/
theorem fieldsAt_ofParameters {parameters : List Parameter} {rules : LocationRules}
    (h : ofParameters parameters = .ok rules) (location : Location) :
    ∃ added, parameters.flatMap (Parameter.declaredAt location) = built added ∧
      rules.fieldsAt location = Fields.ofList added := by
  refine Fallible.foldlM_ok_induction (motive := fun done rules => ∃ added,
    done.flatMap (Parameter.declaredAt location) = built added ∧
      rules.fieldsAt location = Fields.ofList added) ⟨[], rfl, ?_⟩ ?_ h
  · cases location <;> rfl
  · rintro done rules parameter next ⟨before, hbefore, hrules⟩ hnext
    obtain ⟨added, hadded, hfields⟩ := fieldsAt_withParameter hnext location
    refine ⟨before ++ added, ?_, ?_⟩
    · rw [List.flatMap_append, hbefore, built_append, List.flatMap_singleton, hadded]
    · rw [hfields, hrules, Fields.ofList_append]

end LocationRules

/-- Rules by field are declared by a list: every key stands where it is first declared and has the
rule that is declared for it last. -/
structure FieldRules.DeclaredBy (rules : FieldRules)
    (declared : List (String × Except ParameterFault Rule)) : Prop where
  names_eq : rules.names = (declared.map Prod.fst).eraseDups
  get?_eq : ∀ key, (Fields.get? key rules).map Except.ok = Fields.lastOf key declared

theorem LocationRules.declaredBy_ofParameters {parameters : List Parameter} {rules : LocationRules}
    (h : LocationRules.ofParameters parameters = .ok rules) (location : Location) :
    FieldRules.DeclaredBy (rules.fieldsAt location)
      (parameters.flatMap (Parameter.declaredAt location)) := by
  obtain ⟨added, hadded, hrules⟩ := LocationRules.fieldsAt_ofParameters h location
  rw [hadded, hrules]
  constructor
  · rw [Fields.names_ofList, built, List.map_map]
    rfl
  · intro key
    rw [Fields.get?_ofList, built, Fields.lastOf_map]

/-! ## All operations -/

/-- An operation with the path key and the method that it is declared for. -/
structure Declaration where
  template : String
  verb : Verb
  operation : Operation

namespace Declaration

/-- The route of a declaration. -/
def route (declaration : Declaration) : String :=
  Route.ofBraces declaration.template

/-- The binding of a declaration that names a controller. -/
def binding? (declaration : Declaration) : Option Binding :=
  declaration.operation.controller.map fun controller =>
    ⟨declaration.verb, declaration.template, declaration.route, controller⟩

end Declaration

namespace Description

/-- The declarations of paths: in the order of the paths, and of methods within a path. -/
def declarationsOf (paths : Fields PathItem) : List Declaration :=
  paths.flatMap fun entry => entry.2.operations.map fun operation =>
    ⟨entry.1, operation.1, operation.2⟩

theorem declarationsOf_append (first second : Fields PathItem) :
    declarationsOf (first ++ second) = declarationsOf first ++ declarationsOf second :=
  List.flatMap_append

/-- The declarations of a description in document order. -/
def declarations (description : Description) : List Declaration :=
  declarationsOf description.paths

end Description

theorem PathItem.mem_operations {item : PathItem} {verb : Verb} {operation : Operation} :
    (verb, operation) ∈ item.operations ↔ item.operation verb = some operation := by
  unfold PathItem.operations
  constructor
  · intro h
    obtain ⟨other, _, hother⟩ := List.mem_filterMap.1 h
    obtain ⟨found, hfound, hpair⟩ := Option.map_eq_some_iff.1 hother
    cases hpair
    exact hfound
  · intro h
    exact List.mem_filterMap.2 ⟨verb, Verb.mem_all verb, by rw [h]; rfl⟩

namespace Description

/-- The declarations of paths are the operations of their items. -/
theorem mem_declarationsOf {paths : Fields PathItem} {declaration : Declaration} :
    declaration ∈ declarationsOf paths ↔ ∃ item, (declaration.template, item) ∈ paths ∧
      item.operation declaration.verb = some declaration.operation := by
  unfold declarationsOf
  constructor
  · intro h
    obtain ⟨⟨template, item⟩, hitem, h⟩ := List.mem_flatMap.1 h
    obtain ⟨⟨verb, operation⟩, hoperation, rfl⟩ := List.mem_map.1 h
    exact ⟨item, hitem, PathItem.mem_operations.1 hoperation⟩
  · rintro ⟨item, hitem, hoperation⟩
    have hmem := PathItem.mem_operations.2 hoperation
    exact List.mem_flatMap.2 ⟨_, hitem, List.mem_map.2 ⟨_, hmem, rfl⟩⟩

theorem mem_declarations {description : Description} {declaration : Declaration} :
    declaration ∈ description.declarations ↔ ∃ item,
      (declaration.template, item) ∈ description.paths ∧
        item.operation declaration.verb = some declaration.operation :=
  mem_declarationsOf

/-- The bindings of the paths are those of the declarations, in their order. -/
theorem flatMap_pathBindings (paths : Fields PathItem) :
    paths.flatMap Compiled.pathBindings = (declarationsOf paths).filterMap Declaration.binding? := by
  unfold declarationsOf
  rw [List.filterMap_flatMap]
  congr 1
  funext entry
  rw [List.filterMap_map]
  rfl

end Description

/-! ## The table of rules -/

namespace Compiled

/-- A table records declarations: for every operation the rules of its last one. -/
def Records (table : RuleTable) (declarations : List Declaration) : Prop :=
  ∀ route verb, (table.recorded? route verb).map Except.ok =
    ((declarations.filter fun d => d.route = route ∧ d.verb = verb).getLast?).map fun d =>
      operationRules d.template d.verb d.operation

theorem records_nil : Records RuleTable.empty [] := by
  intro route verb
  rfl

/-- Recording one more operation. -/
theorem Records.insert {table : RuleTable} {declarations : List Declaration}
    (h : Records table declarations) (declaration : Declaration) {rules : Option LocationRules}
    (hrules : operationRules declaration.template declaration.verb declaration.operation = .ok rules) :
    Records (table.insert declaration.route declaration.verb rules)
      (declarations ++ [declaration]) := by
  intro route verb
  rw [RuleTable.recorded?_insert, List.filter_append]
  by_cases hsame : route = declaration.route ∧ verb = declaration.verb
  · rw [if_pos hsame]
    simp [hsame.1, hsame.2, hrules]
  · rw [if_neg hsame]
    have hother : ¬ (declaration.route = route ∧ declaration.verb = verb) := fun hd =>
      hsame ⟨hd.1.symm, hd.2.symm⟩
    simpa [hother] using h route verb

/-- A path adds its declarations to the table. -/
theorem Records.withPath {table next : RuleTable} {declarations : List Declaration}
    (h : Records table declarations) {entry : String × PathItem}
    (hpath : withPath table entry = .ok next) :
    Records next (declarations ++ Description.declarationsOf [entry]) := by
  have hrun := Fallible.foldlM_ok_induction
    (motive := fun done next => Records next
      (declarations ++ done.map fun operation => ⟨entry.1, operation.1, operation.2⟩))
    (by simpa using h) ?_ hpath
  · simpa [Description.declarationsOf] using hrun
  · rintro done state ⟨verb, operation⟩ next hdone hnext
    obtain ⟨rules, hrules, hnext⟩ := Fallible.bind_eq_ok_iff.1 hnext
    cases hnext
    rw [List.map_append, ← List.append_assoc]
    exact hdone.insert ⟨entry.1, verb, operation⟩ hrules

end Compiled

namespace Description

/-- What compilation gives, when it succeeds. -/
theorem compile_cases {description : Description} {compiled : Compiled}
    (h : description.compile = .ok compiled) :
    description.paths.foldlM Compiled.withPath RuleTable.empty = .ok compiled.rules ∧
      compiled.routes = Route.Index.ofList (description.paths.names.map Route.ofBraces) ∧
      compiled.bindings = description.declarations.filterMap Declaration.binding? := by
  obtain ⟨rules, hrules, hnext⟩ := Fallible.bind_eq_ok_iff.1 h
  cases hnext
  refine ⟨hrules, ?_, flatMap_pathBindings description.paths⟩
  rw [Fields.names, List.map_map]
  rfl

/-- The compiled table records the declarations of the description. -/
theorem records_compile {description : Description} {compiled : Compiled}
    (h : description.compile = .ok compiled) :
    Compiled.Records compiled.rules description.declarations := by
  refine Fallible.foldlM_ok_induction
    (motive := fun done table => Compiled.Records table (declarationsOf done))
    Compiled.records_nil ?_ (compile_cases h).1
  intro done table entry next hdone hnext
  rw [declarationsOf_append]
  exact hdone.withPath hnext

/-- The compiled table is in order. -/
theorem ordered_compile {description : Description} {compiled : Compiled}
    (h : description.compile = .ok compiled) : compiled.rules.Ordered := by
  refine Fallible.foldlM_ok_induction (motive := fun _ table => table.Ordered)
    RuleTable.ordered_empty ?_ (compile_cases h).1
  intro _ table entry next htable hnext
  refine Fallible.foldlM_ok_induction (motive := fun _ table => table.Ordered) htable ?_ hnext
  intro _ state operation next hstate hnext
  obtain ⟨rules, _, hnext⟩ := Fallible.bind_eq_ok_iff.1 hnext
  cases hnext
  exact RuleTable.ordered_insert hstate _ _ _

end Description
end RequestGate
