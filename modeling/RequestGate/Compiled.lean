import RequestGate.Description.Basic
import RequestGate.Route.Index
import RequestGate.Rule.Table

/-!
# Compiled descriptions

A description compiles to the table of rules, the index of routes and the list of controller
bindings.  Operations are visited in the order of the document's paths and, within a path, of the
methods; the first malformed parameter ends compilation and is reported with its operation.

A rule's kind is the text of the extension format or else the declared type.  Extension options are
taken over, except that `type` and `required` override the rule's own.  Rules for path parameters are
always required.  A body parameter gives one rule for each property of its schema, required as the
property says itself or else as the schema's list says.
-/

namespace RequestGate

/-- A controller that serves an operation. -/
structure Binding where
  verb : Verb
  /-- The path template as declared. -/
  template : String
  /-- The route form of the template. -/
  route : String
  controller : String
  deriving DecidableEq

/-- What a description compiles to. -/
structure Compiled where
  rules : RuleTable
  routes : Route.Index
  bindings : List Binding

/-- What is wrong with a parameter. -/
inductive ParameterFault where
  | noName
  | noLocation (name : String)
  | unknownLocation (name location : String)
  | noSchema (name : String)
  | noProperties (name : String)
  | formatShape (field : String)
  | optionsShape (field : String)
  | overrideShape (field key : String)
  deriving DecidableEq

/-- A parameter fault and the operation where it occurs. -/
structure CompileError where
  verb : Verb
  template : String
  fault : ParameterFault
  deriving DecidableEq

/-- A fault in words. -/
def ParameterFault.message : ParameterFault → String
  | noName => "parameter without a name"
  | noLocation name => "parameter `" ++ name ++ "` has no location"
  | unknownLocation name location =>
    "parameter `" ++ name ++ "` has unknown location `" ++ location ++ "`"
  | noSchema name => "body parameter `" ++ name ++ "` has no schema"
  | noProperties name => "body parameter `" ++ name ++ "` schema has no properties"
  | formatShape field => "`x-format` of `" ++ field ++ "` must be a string"
  | optionsShape field => "`x-format-options` of `" ++ field ++ "` must be an object"
  | overrideShape field key =>
    "`x-format-options." ++ key ++ "` of `" ++ field ++ "` has the wrong type"

/-- A compile error in words: the operation and the fault. -/
def CompileError.message (e : CompileError) : String :=
  e.verb.upperName ++ " " ++ e.template ++ ": " ++ e.fault.message

namespace Rule

/-- The text of an extension format. -/
def formatText (field : String) : Option Json → Except ParameterFault (Option String)
  | none | some .null => .ok none
  | some (.string text) => .ok (some text)
  | some _ => .error (.formatShape field)

/-- The members of extension options. -/
def optionMembers (field : String) : Option Json → Except ParameterFault (Fields Json)
  | none | some .null => .ok []
  | some (.object members) => .ok members
  | some _ => .error (.optionsShape field)

/-- The rule with one extension option taken over. -/
def withOption (field : String) (rule : Rule) (entry : String × Json) :
    Except ParameterFault Rule :=
  if entry.1 = "type" then
    match entry.2 with
    | .string kind => .ok { rule with kind := some kind }
    | _ => .error (.overrideShape field "type")
  else if entry.1 = "required" then
    match entry.2 with
    | .bool required => .ok { rule with required := required }
    | _ => .error (.overrideShape field "required")
  else .ok { rule with options := rule.options ++ [entry] }

/-- The rule of a field from its declared type, its presence and its extensions. -/
def build (declared : Option String) (required : Bool) (format formatOptions : Option Json)
    (field : String) : Except ParameterFault Rule := do
  let text ← formatText field format
  let members ← optionMembers field formatOptions
  members.foldlM (withOption field) ⟨text.or declared, required, []⟩

end Rule

namespace LocationRules

/-- Whether a property of a schema is required. -/
def propertyRequired (schema : Schema) (field : String) (property : Schema) : Bool :=
  match property.required.bind RequiredMark.flag? with
  | some flag => flag
  | none => schema.required.any (RequiredMark.lists field)

/-- The rules of a body with one property of the schema added. -/
def withProperty (schema : Schema) (rules : FieldRules) (entry : String × Schema) :
    Except ParameterFault FieldRules := do
  let (field, property) := entry
  let rule ← Rule.build (property.kind.bind SchemaType.primary?)
    (propertyRequired schema field property) property.format property.formatOptions field
  return rules.insert field rule

/-- The rules of a body with the properties of a body parameter added. -/
def withBody (parameter : Parameter) (name : String) (rules : FieldRules) :
    Except ParameterFault FieldRules :=
  match parameter.schema with
  | none => .error (.noSchema name)
  | some schema =>
    match schema.properties with
    | none => .error (.noProperties name)
    | some properties => properties.foldlM (withProperty schema) rules

/-- The key under which a parameter's rule stands: header names are compared in lower case. -/
def fieldKey (location : Location) (name : String) : String :=
  if location = .header then Case.lowerAsciiText name else name

/-- The rules with one parameter added. -/
def withParameter (rules : LocationRules) (parameter : Parameter) :
    Except ParameterFault LocationRules := do
  let some name := parameter.name | throw .noName
  let some locationName := parameter.location | throw (.noLocation name)
  let some location := Location.ofName? locationName | throw (.unknownLocation name locationName)
  if location = .body then
    let body ← withBody parameter name rules.body
    return { rules with body := body }
  else
    let rule ← Rule.build parameter.kind (parameter.required.getD false) parameter.format
      parameter.formatOptions name
    let rule := if location = .path then { rule with required := true } else rule
    return rules.modify (·.insert (fieldKey location name) rule) location

/-- The rules of a list of parameters. -/
def ofParameters (parameters : List Parameter) : Except ParameterFault LocationRules :=
  parameters.foldlM withParameter empty

end LocationRules

namespace Compiled

/-- The rules of an operation; none when it declares no parameters. -/
def operationRules (template : String) (verb : Verb) (operation : Operation) :
    Except CompileError (Option LocationRules) :=
  match operation.parameters with
  | none => .ok none
  | some parameters =>
    match LocationRules.ofParameters parameters with
    | .ok rules => .ok (some rules)
    | .error fault => .error ⟨verb, template, fault⟩

/-- The table with the operations of one path added. -/
def withPath (table : RuleTable) (entry : String × PathItem) : Except CompileError RuleTable :=
  entry.2.operations.foldlM (fun table (verb, operation) => do
    let rules ← operationRules entry.1 verb operation
    return table.insert (Route.ofBraces entry.1) verb rules) table

/-- The bindings of one path. -/
def pathBindings (entry : String × PathItem) : List Binding :=
  entry.2.operations.filterMap fun (verb, operation) =>
    operation.controller.map fun controller =>
      ⟨verb, entry.1, Route.ofBraces entry.1, controller⟩

/-- A binding as JSON. -/
def bindingJson (binding : Binding) : Json :=
  .object [("method", .string binding.verb.name), ("template", .string binding.template),
    ("route", .string binding.route), ("controller", .string binding.controller)]

/-- A compiled description as JSON. -/
def toJson (compiled : Compiled) : Json :=
  .object [("rules", compiled.rules.toJson), ("paths", .ofStrings compiled.routes.templates),
    ("controllers", .array (compiled.bindings.map bindingJson))]

end Compiled

/-- Compiles a description. -/
def Description.compile (description : Description) : Except CompileError Compiled := do
  let rules ← description.paths.foldlM Compiled.withPath RuleTable.empty
  return ⟨rules, Route.Index.ofList (description.paths.map fun entry => Route.ofBraces entry.1),
    description.paths.flatMap Compiled.pathBindings⟩

end RequestGate
