import RequestGate.Proofs.RelatedDescriptions
import RequestGate.Proofs.RuleOptions

/-!
# Which fields are required

Where the mark `required` of a compiled rule comes from.  A path parameter is always required.  A
property of a body is required as its own options say, or else as its own flag says, or else when the
schema around it lists it; other parameters are required as their options say, or else as they are
declared.  Of several parameters or properties with one key the last one counts.

So the flag of a parameter in a path or of a body has no effect: descriptions that differ in such flags
only compile to the same.

Main results:

- Theorem `LocationRules.isRequiredAs_of_declaredBy`: the marks of the rules of an operation.
- Theorem `LocationRules.withParameter_of_sameButFlag`: a flag without effect is not looked at.
- Theorem `Description.requiresAsDeclared`: the marks of all compiled rules, and the flags that have no
  effect.
-/

namespace RequestGate

/-! ## What is declared under a key -/

namespace Parameter

/-- The properties that a body parameter declares, each with the schema around it. -/
def bodyProperties (parameter : Parameter) : List (String × Schema × Schema) :=
  if parameter.location = some Location.body.name then
    (parameter.schema.map fun schema =>
      (schema.properties.getD []).map fun entry => (entry.1, schema, entry.2)).getD []
  else []

/-- A parameter at a location, with the key of its rule. -/
def keyedAt (location : Location) (parameter : Parameter) : List (String × Parameter) :=
  if parameter.location = some location.name then
    parameter.name.toList.map fun name => (LocationRules.fieldKey location name, parameter)
  else []

/-- The rule of a body field is that of the last property with its name. -/
theorem lastOf_declaredAt_body (field : String) (parameters : List Parameter) :
    Fields.lastOf field (parameters.flatMap (declaredAt .body)) =
      (Fields.lastOf field (parameters.flatMap bodyProperties)).map fun declared =>
        declared.1.propertyRule field declared.2 := by
  have hdeclared : parameters.flatMap (declaredAt .body) =
      (parameters.flatMap bodyProperties).map fun entry =>
        (entry.1, entry.2.1.propertyRule entry.1 entry.2.2) := by
    rw [List.map_flatMap]
    refine List.flatMap_congr fun parameter _ => ?_
    unfold declaredAt bodyProperties Schema.declared
    split
    · cases parameter.schema <;> simp
    · rfl
  rw [hdeclared]
  exact Fields.lastOf_mapKeys field
    (fun field (declared : Schema × Schema) => declared.1.propertyRule field declared.2) _

/-- Away from bodies the rule of a key is that of the last parameter with the key. -/
theorem lastOf_declaredAt {location : Location} (hbody : location ≠ .body) (key : String)
    (parameters : List Parameter) :
    Fields.lastOf key (parameters.flatMap (declaredAt location)) =
      (Fields.lastOf key (parameters.flatMap (keyedAt location))).map fun parameter =>
        parameter.ownRule location (parameter.name.getD "") := by
  have hdeclared : parameters.flatMap (declaredAt location) =
      (parameters.flatMap (keyedAt location)).map fun entry =>
        (entry.1, entry.2.ownRule location (entry.2.name.getD "")) := by
    rw [List.map_flatMap]
    refine List.flatMap_congr fun parameter _ => ?_
    unfold declaredAt keyedAt
    rw [if_neg hbody]
    split
    · cases hname : parameter.name <;> simp [hname]
    · rfl
  rw [hdeclared]
  exact Fields.lastOf_map key
    (fun parameter : Parameter => parameter.ownRule location (parameter.name.getD "")) _

end Parameter

/-! ## The marks of the rules of an operation -/

/-- Whether a property of a schema is required, and what says so: its own options, or else its own
flag, or else the list of the schema. -/
inductive Schema.RequiresProperty (schema : Schema) (field : String) (property : Schema) : Bool → Prop
  | option {flag : Bool} (h : Extensions.required? property.formatOptions = some flag) :
    RequiresProperty schema field property flag
  | own {flag : Bool} (hoption : Extensions.required? property.formatOptions = none)
    (h : property.required = some (.flag flag)) : RequiresProperty schema field property flag
  | listed {flag : Bool} (hoption : Extensions.required? property.formatOptions = none)
    (hown : ∀ own, property.required ≠ some (.flag own))
    (h : flag = true ↔ ∃ names, schema.required = some (.fields names) ∧ field ∈ names) :
    RequiresProperty schema field property flag

/-- The rules of an operation are marked as its parameters say: each rule as the last parameter or
property says that is declared under its key. -/
structure LocationRules.IsRequiredAs (rules : LocationRules) (parameters : List Parameter) :
    Prop where
  path : ∀ key rule, Fields.get? key rules.path = some rule → rule.required = true
  body : ∀ field rule, Fields.get? field rules.body = some rule → ∃ schema property,
    Fields.lastOf field (parameters.flatMap Parameter.bodyProperties) = some (schema, property) ∧
      schema.RequiresProperty field property rule.required
  other : ∀ location, location ≠ .path → location ≠ .body → ∀ key rule,
    Fields.get? key (rules.fieldsAt location) = some rule → ∃ parameter,
      Fields.lastOf key (parameters.flatMap (Parameter.keyedAt location)) = some parameter ∧
        rule.required =
          ((Extensions.required? parameter.formatOptions).or parameter.required).getD false

/-- A property is required by the first of its sources that says something. -/
theorem Schema.requiresProperty_of_propertyRule {schema property : Schema} {field : String}
    {rule : Rule} (h : schema.propertyRule field property = .ok rule) :
    schema.RequiresProperty field property rule.required := by
  have hrequired := Rule.required_of_build h
  unfold LocationRules.propertyRequired at hrequired
  cases hoption : Extensions.required? property.formatOptions with
  | some flag =>
    rw [hoption, Option.getD_some] at hrequired
    rw [hrequired]
    exact .option hoption
  | none =>
    rw [hoption, Option.getD_none] at hrequired
    rw [hrequired]
    cases hown : property.required.bind RequiredMark.flag? with
    | some flag =>
      obtain ⟨mark, hmark, hflag⟩ := Option.bind_eq_some_iff.1 hown
      cases mark <;> cases hflag
      exact .own hoption hmark
    | none =>
      refine .listed hoption (fun own hmark => ?_) ?_
      · rw [hmark] at hown
        cases hown
      · cases hlist : schema.required with
        | none => simp
        | some mark => cases mark <;> simp [RequiredMark.lists]

/-- A parameter outside of paths and bodies is required by the first of its sources that says
something. -/
theorem Parameter.required_of_ownRule {parameter : Parameter} {location : Location} {name : String}
    {rule : Rule} (hpath : location ≠ .path) (h : parameter.ownRule location name = .ok rule) :
    rule.required =
      ((Extensions.required? parameter.formatOptions).or parameter.required).getD false := by
  obtain ⟨built, hbuilt, hrule⟩ := Fallible.map_eq_ok_iff.1 h
  rw [if_neg hpath] at hrule
  rw [← hrule, Rule.required_of_build hbuilt]
  cases Extensions.required? parameter.formatOptions <;> simp

/-- Declared rules are marked as their parameters say. -/
theorem LocationRules.isRequiredAs_of_declaredBy {rules : LocationRules} {parameters : List Parameter}
    (h : ∀ location, FieldRules.DeclaredBy (rules.fieldsAt location)
      (parameters.flatMap (Parameter.declaredAt location))) :
    rules.IsRequiredAs parameters := by
  have hown : ∀ location, location ≠ .body → ∀ key rule,
      Fields.get? key (rules.fieldsAt location) = some rule → ∃ parameter,
        Fields.lastOf key (parameters.flatMap (Parameter.keyedAt location)) = some parameter ∧
          parameter.ownRule location (parameter.name.getD "") = .ok rule := by
    intro location hbody key rule hrule
    have hlast := (h location).get?_eq key
    rw [hrule, Parameter.lastOf_declaredAt hbody] at hlast
    exact Option.map_eq_some_iff.1 hlast.symm
  constructor
  case path =>
    intro key rule hrule
    obtain ⟨parameter, _, hown⟩ := hown .path (by decide) key rule hrule
    obtain ⟨built, _, rfl⟩ := Fallible.map_eq_ok_iff.1 hown
    rfl
  case body =>
    intro field rule hrule
    have hlast := (h .body).get?_eq field
    rw [show Fields.get? field (rules.fieldsAt .body) = some rule from hrule,
      Parameter.lastOf_declaredAt_body] at hlast
    obtain ⟨⟨schema, property⟩, hlast, hbuilt⟩ := Option.map_eq_some_iff.1 hlast.symm
    exact ⟨schema, property, hlast, Schema.requiresProperty_of_propertyRule hbuilt⟩
  case other =>
    intro location hpath hbody key rule hrule
    obtain ⟨parameter, hlast, hown⟩ := hown location hbody key rule hrule
    exact ⟨parameter, hlast, Parameter.required_of_ownRule hpath hown⟩

/-! ## Flags without effect -/

/-- The rule with the mark that path parameters have. -/
def Rule.markRequired (rule : Rule) : Rule :=
  { rule with required := true }

namespace Rule

theorem withOption_markRequired (field : String) (rule : Rule) (entry : String × Json) :
    (withOption field rule.markRequired entry).map markRequired =
      (withOption field rule entry).map markRequired := by
  obtain ⟨key, value⟩ := entry
  unfold withOption
  by_cases hkind : key = "type"
  · subst hkind
    cases value <;> rfl
  · by_cases hrequired : key = "required"
    · subst hrequired
      cases value <;> rfl
    · simp [hkind, hrequired, Except.map, markRequired]

/-- Rules that are the same but for their marks stay so, whatever options they take over. -/
theorem foldlM_withOption_markRequired {field : String} (members : Fields Json) {first second : Rule}
    (h : first.markRequired = second.markRequired) :
    (members.foldlM (withOption field) first).map markRequired =
      (members.foldlM (withOption field) second).map markRequired := by
  induction members generalizing first second with
  | nil => exact congrArg Except.ok h
  | cons entry rest ih =>
    have hstep : (withOption field first entry).map markRequired =
        (withOption field second entry).map markRequired := by
      rw [← withOption_markRequired, h, withOption_markRequired]
    rw [List.foldlM_cons, List.foldlM_cons]
    cases hfirst : withOption field first entry <;> cases hsecond : withOption field second entry <;>
      simp only [hfirst, hsecond, Except.map, Except.error.injEq, Except.ok.injEq, reduceCtorEq]
        at hstep
    · rw [hstep]
    · exact ih hstep

/-- Up to its mark a rule does not depend on whether it is declared as required. -/
theorem build_markRequired (declared : Option String) (required other : Bool)
    (format options : Option Json) (field : String) :
    (build declared required format options field).map markRequired =
      (build declared other format options field).map markRequired := by
  unfold build
  cases formatText field format with
  | error fault => rfl
  | ok text =>
    cases optionMembers field options with
    | error fault => rfl
    | ok members => exact foldlM_withOption_markRequired members rfl

end Rule

namespace Parameter

/-- A flag of its own has no effect on a parameter in a path or of a body. -/
def IgnoresFlag (parameter : Parameter) : Prop :=
  parameter.location = some Location.path.name ∨ parameter.location = some Location.body.name

/-- Two parameters are the same, or they differ in a flag that has no effect. -/
def SameButFlag (first second : Parameter) : Prop :=
  first = second ∨ first.IgnoresFlag ∧ ∃ flag, second = { first with required := flag }

end Parameter

namespace LocationRules

/-- Adding a parameter does not look at a flag that has no effect. -/
theorem withParameter_of_sameButFlag {first second : Parameter} (h : first.SameButFlag second)
    (rules : LocationRules) : withParameter rules first = withParameter rules second := by
  rcases h with rfl | ⟨hignored, flag, rfl⟩
  · rfl
  · rcases Option.eq_none_or_eq_some first.name with hname | ⟨name, hname⟩
    · simp only [withParameter, hname]
    · rcases hignored with hpath | hbody
      · have hother := @withParameter_eq_map rules { first with required := flag } name .path hname hpath
          (by decide)
        rw [withParameter_eq_map hname hpath (by decide), hother]
        exact congrArg (Except.map _) (Rule.build_markRequired _ _ _ _ _ _)
      · have hread : Location.ofName? Location.body.name = some .body := rfl
        simp only [withParameter, hname, hbody, hread]
        rfl

end LocationRules

/-- Two operations are the same but for flags that have no effect. -/
structure Operation.SameButFlags (first second : Operation) : Prop where
  operationId : first.operationId = second.operationId
  parameters : Option.Rel (List.Forall₂ Parameter.SameButFlag) first.parameters second.parameters
  controller : first.controller = second.controller

/-- The operations of two paths are the same but for flags that have no effect. -/
def PathItem.SameButFlags (first second : PathItem) : Prop :=
  ∀ verb, Option.Rel Operation.SameButFlags (first.operation verb) (second.operation verb)

/-- Two descriptions are the same but for flags of parameters in paths and of bodies. -/
structure Description.SameButFlags (first second : Description) : Prop where
  swagger : first.swagger = second.swagger
  openapi : first.openapi = second.openapi
  paths : List.Forall₂ (fun entry other => entry.1 = other.1 ∧ entry.2.SameButFlags other.2)
    first.paths second.paths

theorem PathItem.SameButFlags.relatedBy {first second : PathItem} (h : first.SameButFlags second) :
    first.RelatedBy Parameter.SameButFlag second := by
  intro verb
  rcases optionRel_cases (h verb) with ⟨hfirst, hsecond⟩ | ⟨_, _, hfirst, hsecond, hsame⟩
  · rw [hfirst, hsecond]
    exact .none
  · rw [hfirst, hsecond]
    exact .some ⟨hsame.operationId, hsame.parameters, hsame.controller⟩

/-- Descriptions that are the same but for some flags are related by their parameters. -/
theorem Description.SameButFlags.relatedBy {first second : Description} (h : first.SameButFlags second) :
    first.RelatedBy Parameter.SameButFlag second where
  swagger := h.swagger
  openapi := h.openapi
  paths := h.paths.imp fun _ _ hpath => ⟨hpath.1, hpath.2.relatedBy⟩

namespace Description

/-- Flags that have no effect do not change what a description compiles to. -/
theorem SameButFlags.compile_eq {first second : Description} (h : first.SameButFlags second) :
    first.compile = second.compile := by
  have halike := h.relatedBy.compile_alike fun rules a b hsame => by
    rw [LocationRules.withParameter_of_sameButFlag hsame]
    exact .refl (fun _ => rfl) _
  refine halike.eq fun e other hrelated => ?_
  cases e
  cases other
  simpa using ⟨hrelated.verb, hrelated.template, hrelated.fault⟩

/-- Where the marks of compiled rules come from, and which flags have no effect on them. -/
structure RequiresAsDeclared (description : Description) : Prop where
  /-- The rules of an operation are marked as the parameters say that the last path key with its route
  and method declares. -/
  marks : ∀ compiled, description.compile = .ok compiled → ∀ route verb rules,
    compiled.rules.recorded? route verb = some (some rules) →
      ∃ before template item after operation parameters,
        description.paths = before ++ (template, item) :: after ∧
        Route.ofBraces template = route ∧ item.operation verb = some operation ∧
        (∀ later ∈ after, Route.ofBraces later.1 = route → later.2.operation verb = none) ∧
        operation.parameters = some parameters ∧ rules.IsRequiredAs parameters
  /-- Descriptions that differ in flags of parameters in paths and of bodies only compile to the same,
  or fail with the same error. -/
  flags : ∀ other : Description, description.SameButFlags other →
    description.compile = other.compile

theorem requiresAsDeclared (description : Description) : description.RequiresAsDeclared := by
  constructor
  case marks =>
    intro compiled hcompile route verb rules hrules
    obtain ⟨before, template, item, after, operation, hpaths, hroute, hoperation, hafter,
      hrecorded⟩ := recorded?_compile_eq_some hcompile hrules
    unfold Operation.RecordedAs at hrecorded
    cases hparameters : operation.parameters with
    | none =>
      rw [hparameters] at hrecorded
      exact absurd hrecorded id
    | some parameters =>
      rw [hparameters] at hrecorded
      exact ⟨before, template, item, after, operation, parameters, hpaths, hroute, hoperation, hafter,
        hparameters, LocationRules.isRequiredAs_of_declaredBy hrecorded⟩
  case flags => exact fun other hsame => hsame.compile_eq

end Description
end RequestGate
