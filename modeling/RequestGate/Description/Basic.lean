import RequestGate.Verb
import RequestGate.Json.Basic

/-!
# Service descriptions

The parts of a service description that the gate works with: for every path template the operations
declared under it, and for every operation its parameters and the controller that serves it.  An
absent list of parameters differs from an empty one.

Extension values are kept as they were written; whether they have the right shape is decided when
rules are compiled, where the operation at fault can be named.
-/

namespace RequestGate

/-- The declared type of a schema: one name, or a union of names. -/
inductive SchemaType where
  | single (name : String)
  | union (names : List String)
  deriving DecidableEq

/-- The mark that says what a schema requires: itself as a property, or a list of its properties. -/
inductive RequiredMark where
  | flag (required : Bool)
  | fields (names : List String)
  deriving DecidableEq

/-- The part of a schema that rules are made of. -/
structure Schema where
  kind : Option SchemaType
  /-- The properties in the order of their declaration, if any are declared. -/
  properties : Option (List (String × Schema))
  required : Option RequiredMark
  format : Option Json
  formatOptions : Option Json

/-- A parameter of an operation. -/
structure Parameter where
  name : Option String
  location : Option String
  kind : Option String
  required : Option Bool
  schema : Option Schema
  format : Option Json
  formatOptions : Option Json

/-- What a service does for one method of one path. -/
structure Operation where
  operationId : Option String
  parameters : Option (List Parameter)
  controller : Option String

/-- The operations of one path. -/
structure PathItem where
  operation : Verb → Option Operation

/-- A service description. -/
structure Description where
  swagger : Option String
  openapi : Option String
  /-- The path templates in the order of the document. -/
  paths : Fields PathItem

/-- The first type name that is not `null`. -/
def SchemaType.primary? : SchemaType → Option String
  | single name => some name
  | union names => names.find? (· ≠ "null")

/-- The flag of a mark that is one. -/
def RequiredMark.flag? : RequiredMark → Option Bool
  | flag required => some required
  | fields _ => none

/-- Whether a mark lists a property. -/
def RequiredMark.lists (field : String) : RequiredMark → Bool
  | flag _ => false
  | fields names => names.contains field

/-- The declared operations in the fixed order of methods. -/
def PathItem.operations (item : PathItem) : List (Verb × Operation) :=
  Verb.all.filterMap fun verb => (item.operation verb).map (verb, ·)

end RequestGate
