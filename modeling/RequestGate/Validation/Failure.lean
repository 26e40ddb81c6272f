import RequestGate.Rule.Basic

/-!
# Failures of validation

A field that fails is missing or has an invalid value.  A validator reports the failures of one bag
(`InvalidParams`); before they leave the gate each is given the place where the field stands, and the
failures of all places together are a `Rejection`.
-/

namespace RequestGate

/-- How a field fails. -/
inductive Defect where
  | missing
  | invalid (message : String)
  deriving DecidableEq

/-- A field that fails, and where it stands when that is known. -/
structure FieldError where
  field : String
  defect : Defect
  location : Option Location
  deriving DecidableEq

/-- The failures that a validator reports for one bag. -/
structure InvalidParams where
  errors : List FieldError
  deriving DecidableEq

/-- The failures of a rejected request. -/
structure Rejection where
  errors : List FieldError
  deriving DecidableEq

/-- The code of every structured failure. -/
def invalidCode : String := "invalid_param"

/-- The code of a defect. -/
def Defect.code : Defect → String
  | missing => "missing_field"
  | invalid _ => "invalid"

/-- A defect in words. -/
def Defect.message : Defect → String
  | missing => "required"
  | invalid message => message

namespace FieldError

/-- A field without a value. -/
def missing (field : String) : FieldError :=
  ⟨field, .missing, none⟩

/-- A field with an invalid value. -/
def invalid (field message : String) : FieldError :=
  ⟨field, .invalid message, none⟩

/-- The failure at a place. -/
def locate (location : Location) (e : FieldError) : FieldError :=
  { e with location := some location }

/-- A failure as JSON; an unknown place is not written. -/
def toJson (e : FieldError) : Json :=
  Json.Record.present [("field", some (.string e.field)), ("code", some (.string e.defect.code)),
    ("message", some (.string e.defect.message)),
    ("location", e.location.map fun location => .string location.name)]

/-- A failure in one line. -/
def summary (e : FieldError) : String :=
  match e.location with
  | some location => location.name ++ "." ++ e.field ++ " " ++ e.defect.message
  | none => e.field ++ " " ++ e.defect.message

end FieldError

/-- The failures, each at a place. -/
def InvalidParams.locate (invalid : InvalidParams) (location : Location) : List FieldError :=
  invalid.errors.map (FieldError.locate location)

/-- The failures of one bag in words. -/
def InvalidParams.message (invalid : InvalidParams) : String :=
  invalidCode ++ ": " ++ toString invalid.errors.length ++ " field error(s)"

/-- A rejection in words. -/
def Rejection.message (rejection : Rejection) : String :=
  "Validation Failed: " ++ String.intercalate ", " (rejection.errors.map FieldError.summary)

/-- The place of the first failure. -/
def Rejection.location? (rejection : Rejection) : Option Location :=
  rejection.errors.head?.bind FieldError.location

/-- A rejection as JSON. -/
def Rejection.toJson (rejection : Rejection) : Json :=
  .object [("code", .string invalidCode), ("message", .string "Validation Failed"),
    ("errors", .array (rejection.errors.map FieldError.toJson))]

end RequestGate
