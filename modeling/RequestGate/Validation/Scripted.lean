import RequestGate.Gate.Basic

/-!
# Validators with given verdicts

A scripted validator looks at no values: it fails the fields it is told to fail, and it refuses rules
that have the field it is told to refuse.  It shows which calls a gate makes.
-/

namespace RequestGate

/-- A validator whose verdicts are given. -/
structure ScriptedValidator where
  /-- The fields that fail wherever they have a rule. -/
  failing : List String
  /-- The field whose rules are refused. -/
  refused : Option String

namespace ScriptedValidator

/-- Refuses rules for the refused field. -/
def prepare (validator : ScriptedValidator) (rules : FieldRules) :
    ScriptedValidator × Option String :=
  (validator, (validator.refused.filter fun field => rules.contains field).map (· ++ " refused"))

/-- Fails the fields that are to fail, in the order of their rules. -/
def validate (validator : ScriptedValidator) (rules : FieldRules) (_ : Bag) :
    Except InvalidParams Unit :=
  match rules.names.filter fun field => validator.failing.contains field with
  | [] => .ok ()
  | fields => .error ⟨fields.map fun field => .invalid field "rejected"⟩

instance : Validator ScriptedValidator where
  prepare := prepare
  validate := validate

end ScriptedValidator
end RequestGate
