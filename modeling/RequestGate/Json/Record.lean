import RequestGate.Json.Basic

/-!
# Records in JSON

A record with named fields is written as an object, or as an array of its fields in their order of
declaration, of which the last may be missing.  Unknown names are ignored.  An optional field that is
missing or `null` is absent.
-/

namespace RequestGate
namespace Json
namespace Record

/-- Whether a value has the form of a record with these fields. -/
def isRecord (order : List String) : Json → Bool
  | .object _ => true
  | .array items => items.length ≤ order.length
  | _ => false

/-- The item of an array that stands for a field. -/
def positional? (name : String) : List String → List Json → Option Json
  | field :: order, item :: items => if field = name then some item else positional? name order items
  | _, _ => none

/-- The value written for a field. -/
def field? (order : List String) (name : String) : Json → Option Json
  | .object members => Fields.get? name members
  | .array items => positional? name order items
  | _ => none

/-- Reads an optional field: nothing or `null` is absent, anything else has to be readable. -/
def optional? {α : Type} (read : Json → Option α) : Option Json → Option (Option α)
  | none => some none
  | some .null => some none
  | some value => (read value).map some

/-- Reads a field that has a default: only a missing one takes it. -/
def defaulted? {α : Type} (fallback : α) (read : Json → Option α) : Option Json → Option α
  | none => some fallback
  | some value => read value

/-- Reads a list of texts. -/
def strings? (value : Json) : Option (List String) :=
  value.asArray?.bind fun items => items.mapM asString?

/-- The members of an object whose values are present. -/
def present (members : List (String × Option Json)) : Json :=
  .object (members.filterMap fun (name, value) => value.map (name, ·))

end Record
end Json
end RequestGate
