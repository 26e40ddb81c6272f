import RequestGate.Description.Basic
import RequestGate.Json.Record

/-!
# Reading a description

The typed description of a document without references.  A document is refused when a known field
has a value of the wrong shape; unknown fields are ignored.
-/

namespace RequestGate

open Json.Record

/-- Reads a schema type: a name or a list of names. -/
def SchemaType.ofJson? : Json → Option SchemaType
  | .string name => some (.single name)
  | value => (strings? value).map .union

/-- Reads a requirement: a flag or a list of names. -/
def RequiredMark.ofJson? : Json → Option RequiredMark
  | .bool required => some (.flag required)
  | value => (strings? value).map .fields

namespace Schema

/-- The fields of a schema in their order. -/
def fieldOrder : List String :=
  ["type", "properties", "required", "x-format", "x-format-options"]

/-- Reads a schema whose properties have been read. -/
def withProperties? (value : Json) (properties : Option (List (String × Schema))) :
    Option Schema := do
  if !isRecord fieldOrder value then none
  else
    return {
      kind := ← optional? SchemaType.ofJson? (field? fieldOrder "type" value)
      properties := properties
      required := ← optional? RequiredMark.ofJson? (field? fieldOrder "required" value)
      format := ← optional? some (field? fieldOrder "x-format" value)
      formatOptions := ← optional? some (field? fieldOrder "x-format-options" value) }

mutual

/-- Reads a schema. -/
def ofJson? : Json → Option Schema
  | .object members => (memberProperties? members).bind (withProperties? (.object members))
  | .array items => (itemProperties? items).bind (withProperties? (.array items))
  | _ => none

/-- Reads the properties among the members of an object. -/
def memberProperties? : List (String × Json) → Option (Option (List (String × Schema)))
  | [] => some none
  | (name, value) :: rest =>
    if name = "properties" then properties? value else memberProperties? rest

/-- Reads the properties among the fields of an array: they are the second one. -/
def itemProperties? : List Json → Option (Option (List (String × Schema)))
  | _ :: value :: _ => properties? value
  | _ => some none

/-- Reads optional properties. -/
def properties? : Json → Option (Option (List (String × Schema)))
  | .null => some none
  | .object members => (schemas? members).map some
  | _ => none

/-- Reads a schema for every member. -/
def schemas? : List (String × Json) → Option (List (String × Schema))
  | [] => some []
  | (name, value) :: rest => do
    let schema ← ofJson? value
    let schemas ← schemas? rest
    return (name, schema) :: schemas

end

end Schema

/-- The fields of a parameter in their order. -/
def Parameter.fieldOrder : List String :=
  ["name", "in", "type", "required", "schema", "x-format", "x-format-options"]

/-- Reads a parameter. -/
def Parameter.ofJson? (value : Json) : Option Parameter := do
  if !isRecord fieldOrder value then none
  else
    return {
      name := ← optional? Json.asString? (field? fieldOrder "name" value)
      location := ← optional? Json.asString? (field? fieldOrder "in" value)
      kind := ← optional? Json.asString? (field? fieldOrder "type" value)
      required := ← optional? Json.asBool? (field? fieldOrder "required" value)
      schema := ← optional? Schema.ofJson? (field? fieldOrder "schema" value)
      format := ← optional? some (field? fieldOrder "x-format" value)
      formatOptions := ← optional? some (field? fieldOrder "x-format-options" value) }

/-- The fields of an operation in their order. -/
def Operation.fieldOrder : List String :=
  ["operationId", "parameters", "x-controller"]

/-- Reads an operation. -/
def Operation.ofJson? (value : Json) : Option Operation := do
  if !isRecord fieldOrder value then none
  else
    return {
      operationId := ← optional? Json.asString? (field? fieldOrder "operationId" value)
      parameters := ← optional?
        (fun v => v.asArray?.bind fun items => items.mapM Parameter.ofJson?)
        (field? fieldOrder "parameters" value)
      controller := ← optional? Json.asString? (field? fieldOrder "x-controller" value) }

/-- The fields of a path in their order: the names of the methods. -/
def PathItem.fieldOrder : List String :=
  Verb.all.map Verb.name

/-- Reads the operations of a path. -/
def PathItem.ofJson? (value : Json) : Option PathItem := do
  let read (verb : Verb) : Option (Option Operation) :=
    optional? Operation.ofJson? (field? fieldOrder verb.name value)
  if isRecord fieldOrder value && Verb.all.all fun verb => (read verb).isSome then
    some ⟨fun verb => (read verb).join⟩
  else none

/-- The fields of a description in their order. -/
def Description.fieldOrder : List String :=
  ["swagger", "openapi", "paths"]

/-- Reads a description. -/
def Description.ofJson? (value : Json) : Option Description := do
  let items (v : Json) : Option (Fields PathItem) :=
    v.asObject?.bind fun members =>
      members.mapM fun (name, item) => (PathItem.ofJson? item).map (name, ·)
  if !isRecord fieldOrder value then none
  else
    return {
      swagger := ← optional? Json.asString? (field? fieldOrder "swagger" value)
      openapi := ← optional? Json.asString? (field? fieldOrder "openapi" value)
      paths := ← defaulted? [] items (field? fieldOrder "paths" value) }

end RequestGate
