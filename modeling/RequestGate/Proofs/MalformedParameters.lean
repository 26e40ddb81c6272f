import RequestGate.Proofs.DocumentOrder

/-!
# Malformed parameters

A description compiles unless a parameter of a declared operation is malformed.  This module says when a
parameter is malformed, without saying in which order that is found out, and which fault is reported of
one that is: the checks of a parameter are made one after another, and the first that fails gives the
fault.  Compilation ends at the first malformed parameter in the order of the document.

Main results:

- Theorem `Rule.build_eq_error_iff`: the rule of a field cannot be built exactly when its extensions are
  malformed.
- Theorem `LocationRules.withParameter_eq_error_iff`: a parameter is refused for its fault.
- Theorem `Description.failsExactly`: when compilation fails, and with which error.
-/

namespace RequestGate

/-! ## Extensions -/

namespace Extensions

/-- A text extension is a text where it stands; `null` stands for none. -/
def IsText (extension : Option Json) : Prop :=
  extension = none ∨ extension = some .null ∨ ∃ text, extension = some (.string text)

/-- An object extension is an object where it stands; `null` stands for none. -/
def IsObject (extension : Option Json) : Prop :=
  extension = none ∨ extension = some .null ∨ ∃ members, extension = some (.object members)

/-- An option that overrides a part of a rule has a value of another type than the part. -/
inductive IsBadOverride : String × Json → Prop
  | kind {value : Json} (h : ∀ text, value ≠ .string text) : IsBadOverride ("type", value)
  | required {value : Json} (h : ∀ flag, value ≠ .bool flag) : IsBadOverride ("required", value)

theorem isBadOverride_iff {key : String} {value : Json} : IsBadOverride (key, value) ↔
    key = "type" ∧ (∀ text, value ≠ .string text) ∨
      key = "required" ∧ ∀ flag, value ≠ .bool flag := by
  constructor
  · intro h
    cases h with
    | kind h => exact Or.inl ⟨rfl, h⟩
    | required h => exact Or.inr ⟨rfl, h⟩
  · rintro (⟨rfl, h⟩ | ⟨rfl, h⟩)
    · exact .kind h
    · exact .required h

/-- The extensions of a field are malformed. -/
inductive AreMalformed (format options : Option Json) : Prop
  | format (h : ¬ IsText format)
  | options (h : ¬ IsObject options)
  | override {members : Fields Json} (hoptions : options = some (.object members))
    {entry : String × Json} (hentry : entry ∈ members) (h : IsBadOverride entry)

/-- The fault that an option is reported with. -/
def OverrideFault (field : String) (entry : String × Json) (fault : ParameterFault) : Prop :=
  IsBadOverride entry ∧ ParameterFault.overrideShape field entry.1 = fault

/-- The fault that the extensions of a field are reported with: the format comes before the options, and
options come in their order. -/
inductive HasFault (field : String) (format options : Option Json) : ParameterFault → Prop
  | format (h : ¬ IsText format) : HasFault field format options (.formatShape field)
  | options (hformat : IsText format) (h : ¬ IsObject options) :
    HasFault field format options (.optionsShape field)
  | override (hformat : IsText format) {members : Fields Json}
    (hoptions : options = some (.object members)) {fault : ParameterFault}
    (h : Fallible.FailsFirst (OverrideFault field) members fault) :
    HasFault field format options fault

/-- Extensions have a fault exactly when they are malformed. -/
theorem exists_hasFault_iff {field : String} {format options : Option Json} :
    (∃ fault, HasFault field format options fault) ↔ AreMalformed format options := by
  constructor
  · rintro ⟨fault, hfault⟩
    cases hfault with
    | format h => exact .format h
    | options _ h => exact .options h
    | override _ hoptions h =>
      obtain ⟨entry, hentry, _, hbad, _⟩ := Fallible.exists_failsFirst_iff.1 ⟨fault, h⟩
      exact .override hoptions hentry hbad
  · intro h
    by_cases hformat : IsText format
    · cases h with
      | format h => exact absurd hformat h
      | options h => exact ⟨_, .options hformat h⟩
      | override hoptions hentry hbad =>
        have hfault : OverrideFault field _ _ := ⟨hbad, rfl⟩
        obtain ⟨fault, hfirst⟩ := Fallible.exists_failsFirst_iff.2 ⟨_, hentry, _, hfault⟩
        exact ⟨fault, .override hformat hoptions hfirst⟩
    · exact ⟨_, .format hformat⟩

end Extensions

namespace Rule

open Extensions

variable {field : String} {format options : Option Json} {fault : ParameterFault}

theorem formatText_eq_error_iff :
    formatText field format = .error fault ↔ ¬ IsText format ∧ .formatShape field = fault := by
  unfold formatText IsText
  split <;> simp_all

theorem exists_formatText_eq_ok_iff (field : String) :
    (∃ text, formatText field format = .ok text) ↔ IsText format := by
  unfold formatText IsText
  split <;> simp_all

theorem optionMembers_eq_error_iff :
    optionMembers field options = .error fault ↔ ¬ IsObject options ∧ .optionsShape field = fault := by
  unfold optionMembers IsObject
  split <;> simp_all

theorem optionMembers_eq_ok_iff {members : Fields Json} :
    optionMembers field options = .ok members ↔ options = some (.object members) ∨
      (options = none ∨ options = some .null) ∧ members = [] := by
  unfold optionMembers
  split <;> simp_all [eq_comm]

/-- An option is refused when it overrides a part of the rule with a value of another type. -/
theorem withOption_eq_error_iff {rule : Rule} {entry : String × Json} :
    withOption field rule entry = .error fault ↔ OverrideFault field entry fault := by
  obtain ⟨key, value⟩ := entry
  unfold withOption OverrideFault
  rw [isBadOverride_iff]
  by_cases hkind : key = "type"
  · subst hkind
    cases value <;> simp
  · by_cases hrequired : key = "required"
    · subst hrequired
      cases value <;> simp
    · simp [hkind, hrequired]

/-- The rule of a field cannot be built exactly when its extensions have a fault. -/
theorem build_eq_error_iff {declared : Option String} {required : Bool} :
    build declared required format options field = .error fault ↔
      HasFault field format options fault := by
  have hmembers : ∀ (members : Fields Json) (start : Rule),
      members.foldlM (withOption field) start = .error fault ↔
        Fallible.FailsFirst (OverrideFault field) members fault := by
    intro members start
    refine Fallible.foldlM_eq_error_iff (fun rule entry _ other => ?_) start
    exact withOption_eq_error_iff
  unfold build
  simp only [Fallible.bind_eq_error_iff, hmembers, formatText_eq_error_iff,
    optionMembers_eq_error_iff]
  constructor
  · rintro (⟨hformat, rfl⟩ | ⟨text, htext, ⟨hoptions, rfl⟩ | ⟨members, hoptions, hfirst⟩⟩)
    · exact .format hformat
    · exact .options ((exists_formatText_eq_ok_iff field).1 ⟨text, htext⟩) hoptions
    · rcases optionMembers_eq_ok_iff.1 hoptions with hobject | ⟨_, rfl⟩
      · exact .override ((exists_formatText_eq_ok_iff field).1 ⟨text, htext⟩) hobject hfirst
      · exact absurd hfirst Fallible.not_failsFirst_nil
  · intro hfault
    cases hfault with
    | format hformat => exact Or.inl ⟨hformat, rfl⟩
    | options hformat hoptions =>
      obtain ⟨text, htext⟩ := (exists_formatText_eq_ok_iff field).2 hformat
      exact Or.inr ⟨text, htext, Or.inl ⟨hoptions, rfl⟩⟩
    | override hformat hobject hfirst =>
      obtain ⟨text, htext⟩ := (exists_formatText_eq_ok_iff field).2 hformat
      exact Or.inr ⟨text, htext, Or.inr ⟨_, optionMembers_eq_ok_iff.2 (Or.inl hobject), hfirst⟩⟩

end Rule

/-! ## Parameters -/

/-- What is wrong with a property of a body. -/
def Schema.PropertyFault (entry : String × Schema) (fault : ParameterFault) : Prop :=
  Extensions.HasFault entry.1 entry.2.format entry.2.formatOptions fault

namespace Parameter

/-- A parameter is malformed.  Extensions beside the schema of a body parameter do not count. -/
inductive IsMalformed (parameter : Parameter) : Prop
  | noName (h : parameter.name = none)
  | noLocation (h : parameter.location = none)
  | unknownLocation {text : String} (htext : parameter.location = some text)
    (h : ∀ location : Location, location.name ≠ text)
  | noSchema (hbody : parameter.location = some "body") (h : parameter.schema = none)
  | noProperties (hbody : parameter.location = some "body") {schema : Schema}
    (hschema : parameter.schema = some schema) (h : schema.properties = none)
  | property (hbody : parameter.location = some "body") {schema : Schema}
    (hschema : parameter.schema = some schema) {properties : List (String × Schema)}
    (hproperties : schema.properties = some properties) {entry : String × Schema}
    (hentry : entry ∈ properties)
    (h : Extensions.AreMalformed entry.2.format entry.2.formatOptions)
  | extensions (hbody : parameter.location ≠ some "body")
    (h : Extensions.AreMalformed parameter.format parameter.formatOptions)

/-- The fault that a parameter is reported with: name and location come before everything else, and the
properties of a body come in their order. -/
inductive HasFault (parameter : Parameter) : ParameterFault → Prop
  | noName (h : parameter.name = none) : HasFault parameter .noName
  | noLocation {name : String} (hname : parameter.name = some name) (h : parameter.location = none) :
    HasFault parameter (.noLocation name)
  | unknownLocation {name text : String} (hname : parameter.name = some name)
    (htext : parameter.location = some text) (h : ∀ location : Location, location.name ≠ text) :
    HasFault parameter (.unknownLocation name text)
  | noSchema {name : String} (hname : parameter.name = some name)
    (hbody : parameter.location = some "body") (h : parameter.schema = none) :
    HasFault parameter (.noSchema name)
  | noProperties {name : String} (hname : parameter.name = some name)
    (hbody : parameter.location = some "body") {schema : Schema}
    (hschema : parameter.schema = some schema) (h : schema.properties = none) :
    HasFault parameter (.noProperties name)
  | property {name : String} (hname : parameter.name = some name)
    (hbody : parameter.location = some "body") {schema : Schema}
    (hschema : parameter.schema = some schema) {properties : List (String × Schema)}
    (hproperties : schema.properties = some properties) {fault : ParameterFault}
    (h : Fallible.FailsFirst Schema.PropertyFault properties fault) : HasFault parameter fault
  | extensions {name : String} (hname : parameter.name = some name) {location : Location}
    (hlocation : parameter.location = some location.name) (hbody : location ≠ .body)
    {fault : ParameterFault}
    (h : Extensions.HasFault name parameter.format parameter.formatOptions fault) :
    HasFault parameter fault

/-- A parameter has a fault exactly when it is malformed. -/
theorem exists_hasFault_iff {parameter : Parameter} :
    (∃ fault, parameter.HasFault fault) ↔ parameter.IsMalformed := by
  constructor
  · rintro ⟨fault, hfault⟩
    cases hfault with
    | noName h => exact .noName h
    | noLocation _ h => exact .noLocation h
    | unknownLocation _ htext h => exact .unknownLocation htext h
    | noSchema _ hbody h => exact .noSchema hbody h
    | noProperties _ hbody hschema h => exact .noProperties hbody hschema h
    | property _ hbody hschema hproperties h =>
      obtain ⟨entry, hentry, hfault⟩ := Fallible.exists_failsFirst_iff.1 ⟨fault, h⟩
      exact .property hbody hschema hproperties hentry (Extensions.exists_hasFault_iff.1 hfault)
    | extensions _ hlocation hbody h =>
      refine .extensions (fun hname => hbody ?_) (Extensions.exists_hasFault_iff.1 ⟨fault, h⟩)
      exact Location.name_injective (Option.some.inj (hlocation.symm.trans hname))
  · intro h
    cases hname : parameter.name with
    | none => exact ⟨_, .noName hname⟩
    | some name =>
      cases htext : parameter.location with
      | none => exact ⟨_, .noLocation hname htext⟩
      | some text =>
        by_cases hknown : ∃ location : Location, location.name = text
        case neg => exact ⟨_, .unknownLocation hname htext (not_exists.1 hknown)⟩
        obtain ⟨location, rfl⟩ := hknown
        cases h with
        | noName h => exact nomatch hname.symm.trans h
        | noLocation h => exact nomatch htext.symm.trans h
        | unknownLocation hother h =>
          exact absurd (Option.some.inj (htext.symm.trans hother)) (h location)
        | noSchema hbody h => exact ⟨_, .noSchema hname hbody h⟩
        | noProperties hbody hschema h => exact ⟨_, .noProperties hname hbody hschema h⟩
        | property hbody hschema hproperties hentry h =>
          have hfault : ∃ fault, Schema.PropertyFault _ fault := Extensions.exists_hasFault_iff.2 h
          obtain ⟨fault, hfirst⟩ := Fallible.exists_failsFirst_iff.2 ⟨_, hentry, hfault⟩
          exact ⟨fault, .property hname hbody hschema hproperties hfirst⟩
        | extensions hbody h =>
          obtain ⟨fault, hfault⟩ := Extensions.exists_hasFault_iff.2 h
          refine ⟨fault, .extensions hname htext ?_ hfault⟩
          rintro rfl
          exact hbody htext

end Parameter

namespace LocationRules

theorem withProperty_eq_error_iff {schema : Schema} {rules : FieldRules} {entry : String × Schema}
    {fault : ParameterFault} :
    withProperty schema rules entry = .error fault ↔ Schema.PropertyFault entry fault := by
  unfold withProperty Schema.PropertyFault
  rw [Fallible.bind_eq_error_iff, Rule.build_eq_error_iff]
  exact or_iff_left nofun

/-- A body parameter is refused when it has no properties, or for the first property with a fault. -/
theorem withBody_eq_error_iff {parameter : Parameter} {name : String} {rules : FieldRules}
    {fault : ParameterFault} : withBody parameter name rules = .error fault ↔
      parameter.schema = none ∧ .noSchema name = fault ∨
      ∃ schema, parameter.schema = some schema ∧
        (schema.properties = none ∧ .noProperties name = fault ∨
          ∃ properties, schema.properties = some properties ∧
            Fallible.FailsFirst Schema.PropertyFault properties fault) := by
  have hproperties : ∀ (schema : Schema) (properties : List (String × Schema)),
      properties.foldlM (withProperty schema) rules = .error fault ↔
        Fallible.FailsFirst Schema.PropertyFault properties fault := by
    intro schema properties
    refine Fallible.foldlM_eq_error_iff (fun rules entry _ other => ?_) rules
    exact withProperty_eq_error_iff
  unfold withBody
  cases parameter.schema with
  | none => simp
  | some schema =>
    cases hfound : schema.properties with
    | none => simp [hfound]
    | some properties => simp [hfound, hproperties]

/-- A parameter with a name and a location is refused for its schema or its properties when it is a
body, and for its own extensions otherwise. -/
theorem withParameter_eq_error_iff_of_location {rules : LocationRules} {parameter : Parameter}
    {name : String} (hname : parameter.name = some name) {location : Location}
    (hlocation : parameter.location = some location.name) {fault : ParameterFault} :
    withParameter rules parameter = .error fault ↔
      location = .body ∧ withBody parameter name rules.body = .error fault ∨
      location ≠ .body ∧
        Extensions.HasFault name parameter.format parameter.formatOptions fault := by
  have hread : Location.ofName? location.name = some location := Location.ofName?_eq_some_iff.2 rfl
  unfold withParameter
  simp only [hname, hlocation, hread]
  by_cases hbody : location = .body
  · rw [if_pos hbody, Fallible.bind_eq_error_iff, or_iff_left nofun]
    simp [hbody]
  · rw [if_neg hbody, Fallible.bind_eq_error_iff, or_iff_left nofun, Rule.build_eq_error_iff]
    simp [hbody]

/-- A parameter is refused exactly for its fault. -/
theorem withParameter_eq_error_iff {rules : LocationRules} {parameter : Parameter}
    {fault : ParameterFault} :
    withParameter rules parameter = .error fault ↔ parameter.HasFault fault := by
  constructor
  · intro h
    cases hname : parameter.name with
    | none =>
      simp only [withParameter, hname] at h
      cases h
      exact .noName hname
    | some name =>
      cases htext : parameter.location with
      | none =>
        simp only [withParameter, hname, htext] at h
        cases h
        exact .noLocation hname htext
      | some text =>
        cases hlocation : Location.ofName? text with
        | none =>
          simp only [withParameter, hname, htext, hlocation] at h
          cases h
          refine .unknownLocation hname htext fun location hsame => ?_
          exact nomatch hlocation.symm.trans (Location.ofName?_eq_some_iff.2 hsame)
        | some location =>
          obtain rfl := Location.ofName?_eq_some_iff.1 hlocation
          rw [withParameter_eq_error_iff_of_location hname htext, withBody_eq_error_iff] at h
          rcases h with ⟨rfl, ⟨hschema, rfl⟩ | ⟨schema, hschema, ⟨hnone, rfl⟩ |
            ⟨properties, hproperties, hfirst⟩⟩⟩ | ⟨hbody, hfault⟩
          · exact .noSchema hname htext hschema
          · exact .noProperties hname htext hschema hnone
          · exact .property hname htext hschema hproperties hfirst
          · exact .extensions hname htext hbody hfault
  · intro hfault
    have hbody : ∀ {name : String}, parameter.name = some name →
        parameter.location = some Location.body.name →
        withBody parameter name rules.body = .error fault →
          withParameter rules parameter = .error fault := fun hname hlocation hwith =>
      (withParameter_eq_error_iff_of_location hname hlocation).2 (Or.inl ⟨rfl, hwith⟩)
    cases hfault with
    | noName h =>
      simp only [withParameter, h]
      rfl
    | noLocation hname h =>
      simp only [withParameter, hname, h]
      rfl
    | @unknownLocation name text hname htext h =>
      have hnone : Location.ofName? text = none := by
        rw [Option.eq_none_iff_forall_ne_some]
        exact fun location hlocation => h location (Location.ofName?_eq_some_iff.1 hlocation)
      simp only [withParameter, hname, htext, hnone]
      rfl
    | noSchema hname hlocation h =>
      exact hbody hname hlocation (withBody_eq_error_iff.2 (Or.inl ⟨h, rfl⟩))
    | noProperties hname hlocation hschema h =>
      refine hbody hname hlocation (withBody_eq_error_iff.2 (Or.inr ⟨_, hschema, ?_⟩))
      exact Or.inl ⟨h, rfl⟩
    | property hname hlocation hschema hproperties h =>
      refine hbody hname hlocation (withBody_eq_error_iff.2 (Or.inr ⟨_, hschema, ?_⟩))
      exact Or.inr ⟨_, hproperties, h⟩
    | extensions hname hlocation hother h =>
      exact (withParameter_eq_error_iff_of_location hname hlocation).2 (Or.inr ⟨hother, h⟩)

end LocationRules

/-! ## Operations -/

/-- A parameter with the operation that declares it. -/
structure DeclaredParameter where
  template : String
  verb : Verb
  parameter : Parameter

namespace DeclaredParameter

/-- The error that a declared parameter ends compilation with. -/
def HasError (declared : DeclaredParameter) (e : CompileError) : Prop :=
  ∃ fault, declared.parameter.HasFault fault ∧
    CompileError.mk declared.verb declared.template fault = e

theorem exists_hasError_iff {declared : DeclaredParameter} :
    (∃ e, declared.HasError e) ↔ declared.parameter.IsMalformed := by
  rw [← Parameter.exists_hasFault_iff]
  constructor
  · rintro ⟨_, fault, hfault, _⟩
    exact ⟨fault, hfault⟩
  · rintro ⟨fault, hfault⟩
    exact ⟨_, fault, hfault, rfl⟩

end DeclaredParameter

/-- The parameters of a declaration, in order. -/
def Declaration.parameters (declaration : Declaration) : List DeclaredParameter :=
  (declaration.operation.parameters.getD []).map (⟨declaration.template, declaration.verb, ·⟩)

/-- The rules of a declaration cannot be built exactly when a parameter is malformed, and the error is
that of the first one. -/
theorem Declaration.rules_eq_error_iff {declaration : Declaration} {e : CompileError} :
    declaration.rules = .error e ↔
      Fallible.FailsFirst DeclaredParameter.HasError declaration.parameters e := by
  obtain ⟨template, verb, operation⟩ := declaration
  have hparameters : ∀ (parameters : List Parameter) (fault : ParameterFault),
      LocationRules.ofParameters parameters = .error fault ↔
        Fallible.FailsFirst Parameter.HasFault parameters fault := by
    intro parameters fault
    refine Fallible.foldlM_eq_error_iff (fun rules parameter _ other => ?_) LocationRules.empty
    exact LocationRules.withParameter_eq_error_iff
  unfold rules Compiled.operationRules parameters
  rw [Fallible.failsFirst_map]
  cases operation.parameters with
  | none => exact iff_of_false nofun Fallible.not_failsFirst_nil
  | some parameters =>
    have hwrapped : Fallible.FailsFirst
        (fun parameter => DeclaredParameter.HasError ⟨template, verb, parameter⟩) parameters e ↔
          ∃ fault, Fallible.FailsFirst Parameter.HasFault parameters fault ∧
            CompileError.mk verb template fault = e :=
      Fallible.failsFirst_wrapped fun _ _ => Iff.rfl
    rw [Option.getD_some, hwrapped]
    simp only [← hparameters]
    cases LocationRules.ofParameters parameters <;> simp

/-! ## Descriptions -/

/-- The rules of a path are added in the order of the methods up to the first error. -/
theorem Compiled.withPath_eq_error_iff {table : RuleTable} {entry : String × PathItem}
    {e : CompileError} : withPath table entry = .error e ↔
      Fallible.FailsFirst (fun declaration e => declaration.rules = .error e)
        (Description.declarationsOf [entry]) e := by
  unfold Description.declarationsOf
  rw [List.flatMap_singleton, Fallible.failsFirst_map]
  refine Fallible.foldlM_eq_error_iff (fun table operation _ other => ?_) table
  rw [Fallible.bind_eq_error_iff]
  exact or_iff_left nofun

namespace Description

/-- The parameters of all declared operations: in the order of the document's paths, of the methods and
of the parameters of an operation. -/
def parameters (description : Description) : List DeclaredParameter :=
  description.declarations.flatMap Declaration.parameters

theorem mem_parameters {description : Description} {declared : DeclaredParameter} :
    declared ∈ description.parameters ↔ ∃ item operation,
      (declared.template, item) ∈ description.paths ∧
        item.operation declared.verb = some operation ∧
          declared.parameter ∈ operation.parameters.getD [] := by
  unfold parameters Declaration.parameters
  rw [List.mem_flatMap]
  constructor
  · rintro ⟨declaration, hdeclaration, hparameter⟩
    obtain ⟨item, hitem, hoperation⟩ := mem_declarations.1 hdeclaration
    obtain ⟨parameter, hmem, rfl⟩ := List.mem_map.1 hparameter
    exact ⟨item, declaration.operation, hitem, hoperation, hmem⟩
  · rintro ⟨item, operation, hitem, hoperation, hparameter⟩
    exact ⟨⟨declared.template, declared.verb, operation⟩,
      mem_declarations.2 ⟨item, hitem, hoperation⟩, List.mem_map_of_mem hparameter⟩

/-- A description does not compile exactly when a parameter is malformed, and the error is that of the
first one. -/
theorem compile_eq_error_iff {description : Description} {e : CompileError} :
    description.compile = .error e ↔
      Fallible.FailsFirst DeclaredParameter.HasError description.parameters e := by
  have hpaths : description.paths.foldlM Compiled.withPath RuleTable.empty = .error e ↔
      Fallible.FailsFirst (fun entry => Fallible.FailsFirst
        (fun declaration e => declaration.rules = .error e) (declarationsOf [entry]))
        description.paths e := by
    refine Fallible.foldlM_eq_error_iff (fun table entry _ other => ?_) RuleTable.empty
    exact Compiled.withPath_eq_error_iff
  have hall : (description.paths.flatMap fun entry => declarationsOf [entry]) =
      description.declarations :=
    List.flatMap_congr fun entry _ => List.flatMap_singleton _ entry
  unfold compile parameters
  rw [Fallible.bind_eq_error_iff, or_iff_left nofun, hpaths, ← Fallible.failsFirst_flatMap, hall,
    Fallible.failsFirst_flatMap]
  simp only [Declaration.rules_eq_error_iff]

/-- A declared parameter is malformed, and those before it in the document are not. -/
def IsFirstMalformed (description : Description) (declared : DeclaredParameter) : Prop :=
  ∃ before after, description.parameters = before ++ declared :: after ∧
    (∀ earlier ∈ before, ¬ earlier.parameter.IsMalformed) ∧ declared.parameter.IsMalformed

/-- When compilation fails, and with which error. -/
structure FailsExactly (description : Description) : Prop where
  fails_iff : (∃ e, description.compile = .error e) ↔
    ∃ entry ∈ description.paths, ∃ verb operation, entry.2.operation verb = some operation ∧
      ∃ parameter ∈ operation.parameters.getD [], parameter.IsMalformed
  /-- The error has the fault of the first malformed parameter, and its operation. -/
  error_iff : ∀ e, description.compile = .error e ↔
    ∃ declared, description.IsFirstMalformed declared ∧ declared.parameter.HasFault e.fault ∧
      e.verb = declared.verb ∧ e.template = declared.template
  message_eq : ∀ e, description.compile = .error e →
    ∃ declared, description.IsFirstMalformed declared ∧
      e.message = declared.verb.upperName ++ " " ++ declared.template ++ ": " ++ e.fault.message

/-- Every description compiles unless a declared parameter is malformed, and the first one is
reported. -/
theorem failsExactly (description : Description) : description.FailsExactly := by
  have herror : ∀ e, description.compile = .error e ↔
      ∃ declared, description.IsFirstMalformed declared ∧ declared.parameter.HasFault e.fault ∧
        e.verb = declared.verb ∧ e.template = declared.template := by
    intro e
    rw [compile_eq_error_iff]
    constructor
    · rintro ⟨before, declared, after, hparameters, hbefore, fault, hfault, rfl⟩
      refine ⟨declared, ⟨before, after, hparameters, fun earlier hearlier hmalformed => ?_,
        Parameter.exists_hasFault_iff.1 ⟨fault, hfault⟩⟩, hfault, rfl, rfl⟩
      obtain ⟨other, hother⟩ := DeclaredParameter.exists_hasError_iff.2 hmalformed
      exact hbefore earlier hearlier other hother
    · rintro ⟨declared, ⟨before, after, hparameters, hbefore, _⟩, hfault, hverb, htemplate⟩
      refine ⟨before, declared, after, hparameters, fun earlier hearlier other hother => ?_,
        e.fault, hfault, ?_⟩
      · exact hbefore earlier hearlier (DeclaredParameter.exists_hasError_iff.1 ⟨other, hother⟩)
      · rw [← hverb, ← htemplate]
  constructor
  case fails_iff =>
    simp only [compile_eq_error_iff, Fallible.exists_failsFirst_iff,
      DeclaredParameter.exists_hasError_iff, mem_parameters]
    constructor
    · rintro ⟨declared, ⟨item, operation, hitem, hoperation, hparameter⟩, hmalformed⟩
      exact ⟨_, hitem, declared.verb, operation, hoperation, _, hparameter, hmalformed⟩
    · rintro ⟨⟨template, item⟩, hitem, verb, operation, hoperation, parameter, hparameter, h⟩
      exact ⟨⟨template, verb, parameter⟩, ⟨item, operation, hitem, hoperation, hparameter⟩, h⟩
  case error_iff => exact herror
  case message_eq =>
    intro e he
    obtain ⟨declared, hfirst, _, hverb, htemplate⟩ := (herror e).1 he
    refine ⟨declared, hfirst, ?_⟩
    rw [← hverb, ← htemplate]
    rfl

end Description
end RequestGate
