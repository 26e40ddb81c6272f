import RequestGate.Json.Record

/-!
# Rules

A rule says what is asked of one field: its kind, whether it has to be present, and further options
that are kept as they were written.  Rules are grouped by the place of a request where the field
stands.  The places have a fixed order, in which they are checked.
-/

namespace RequestGate

/-- A place of a request that holds fields. -/
inductive Location where
  | query
  | header
  | path
  | formData
  | body
  deriving DecidableEq

/-- What is asked of one field. -/
structure Rule where
  /-- The name of the kind of value; without one only presence is asked. -/
  kind : Option String
  required : Bool
  options : Fields Json

/-- Rules by field, in the order of their declaration. -/
abbrev FieldRules := Fields Rule

/-- The rules of every place of a request. -/
structure LocationRules where
  query : FieldRules
  header : FieldRules
  path : FieldRules
  formData : FieldRules
  body : FieldRules

namespace Location

/-- All places in the order in which they are checked. -/
def all : List Location :=
  [query, header, path, formData, body]

/-- The name of a place. -/
def name : Location → String
  | query => "query"
  | header => "header"
  | path => "path"
  | formData => "formData"
  | body => "body"

/-- The place with exactly this name. -/
def ofName? (text : String) : Option Location :=
  all.find? fun location => location.name = text

/-- The number of a place in the order of checking. -/
def rank : Location → Nat
  | query => 0
  | header => 1
  | path => 2
  | formData => 3
  | body => 4

theorem mem_all (location : Location) : location ∈ all := by
  cases location <;> decide

end Location

namespace Rule

/-- The value of an option. -/
def option? (rule : Rule) (key : String) : Option Json :=
  Fields.get? key rule.options

/-- A rule as one flat object: kind and presence before the options. -/
def toJson (rule : Rule) : Json :=
  .object ((rule.kind.map fun kind => ("type", Json.string kind)).toList ++
    ("required", .bool rule.required) :: rule.options)

/-- Reads a rule: an optional kind, presence, and every other member as an option. -/
def ofJson? (value : Json) : Option Rule := do
  let members ← value.asObject?
  let kind ← Json.Record.optional? Json.asString? (Fields.get? "type" members)
  let required ← (Fields.get? "required" members).bind Json.asBool?
  return ⟨kind, required, (members.erase "type").erase "required"⟩

end Rule

namespace FieldRules

/-- Rules as an object with a member for each field. -/
def toJson (rules : FieldRules) : Json :=
  .object (rules.map fun (field, rule) => (field, rule.toJson))

/-- Reads rules by field. -/
def ofJson? (value : Json) : Option FieldRules :=
  value.asObject?.bind fun members =>
    members.mapM fun (field, rule) => (Rule.ofJson? rule).map (field, ·)

end FieldRules

namespace LocationRules

/-- No rules anywhere. -/
def empty : LocationRules :=
  ⟨[], [], [], [], []⟩

/-- The rules of one place. -/
def fieldsAt (rules : LocationRules) : Location → FieldRules
  | .query => rules.query
  | .header => rules.header
  | .path => rules.path
  | .formData => rules.formData
  | .body => rules.body

/-- The rules with those of one place changed. -/
def modify (rules : LocationRules) (f : FieldRules → FieldRules) : Location → LocationRules
  | .query => { rules with query := f rules.query }
  | .header => { rules with header := f rules.header }
  | .path => { rules with path := f rules.path }
  | .formData => { rules with formData := f rules.formData }
  | .body => { rules with body := f rules.body }

theorem fieldsAt_modify (rules : LocationRules) (f : FieldRules → FieldRules)
    (location other : Location) :
    (rules.modify f location).fieldsAt other =
      if other = location then f (rules.fieldsAt location) else rules.fieldsAt other := by
  cases location <;> cases other <;> rfl

/-- The places that have rules, with them, in the order of checking. -/
def nonempty (rules : LocationRules) : List (Location × FieldRules) :=
  (Location.all.map fun location => (location, rules.fieldsAt location)).filter
    fun entry => !entry.2.isEmpty

/-- Whether no place has rules. -/
def isEmpty (rules : LocationRules) : Bool :=
  Location.all.all fun location => (rules.fieldsAt location).isEmpty

/-- Whether checking these rules takes the request body. -/
def needsBody (rules : LocationRules) : Bool :=
  !(rules.fieldsAt .formData).isEmpty || !(rules.fieldsAt .body).isEmpty

/-- The rules as an object with a member for every place. -/
def toJson (rules : LocationRules) : Json :=
  .object (Location.all.map fun location => (location.name, (rules.fieldsAt location).toJson))

end LocationRules
end RequestGate
