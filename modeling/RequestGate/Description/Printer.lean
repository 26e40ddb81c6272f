import RequestGate.Description.Basic
import RequestGate.Json.Record

/-!
# Writing a description

The JSON value of a description: every record is an object of its present fields in their order of
declaration, and the paths are always present.
-/

namespace RequestGate

open Json.Record

/-- A schema type as JSON. -/
def SchemaType.toJson : SchemaType → Json
  | single name => .string name
  | union names => .ofStrings names

/-- A requirement as JSON. -/
def RequiredMark.toJson : RequiredMark → Json
  | flag required => .bool required
  | fields names => .ofStrings names

namespace Schema

/-- A schema as JSON, given its properties as JSON. -/
def withProperties (kind : Option SchemaType) (properties : Option Json)
    (required : Option RequiredMark) (format formatOptions : Option Json) : Json :=
  present [("type", kind.map SchemaType.toJson), ("properties", properties),
    ("required", required.map RequiredMark.toJson), ("x-format", format),
    ("x-format-options", formatOptions)]

mutual

/-- A schema as JSON. -/
def toJson : Schema → Json
  | ⟨kind, none, required, format, formatOptions⟩ =>
    withProperties kind none required format formatOptions
  | ⟨kind, some properties, required, format, formatOptions⟩ =>
    withProperties kind (some (.object (membersJson properties))) required format formatOptions

/-- Named schemas as members of an object. -/
def membersJson : List (String × Schema) → List (String × Json)
  | [] => []
  | (name, schema) :: rest => (name, toJson schema) :: membersJson rest

end

end Schema

/-- A parameter as JSON. -/
def Parameter.toJson (parameter : Parameter) : Json :=
  present [("name", parameter.name.map .string), ("in", parameter.location.map .string),
    ("type", parameter.kind.map .string), ("required", parameter.required.map .bool),
    ("schema", parameter.schema.map Schema.toJson), ("x-format", parameter.format),
    ("x-format-options", parameter.formatOptions)]

/-- An operation as JSON. -/
def Operation.toJson (operation : Operation) : Json :=
  present [("operationId", operation.operationId.map .string),
    ("parameters", operation.parameters.map fun list => .array (list.map Parameter.toJson)),
    ("x-controller", operation.controller.map .string)]

/-- The operations of a path as JSON. -/
def PathItem.toJson (item : PathItem) : Json :=
  present (Verb.all.map fun verb => (verb.name, (item.operation verb).map Operation.toJson))

/-- A description as JSON. -/
def Description.toJson (description : Description) : Json :=
  present [("swagger", description.swagger.map .string), ("openapi", description.openapi.map .string),
    ("paths", some (.object (description.paths.map fun (name, item) => (name, item.toJson))))]

end RequestGate
