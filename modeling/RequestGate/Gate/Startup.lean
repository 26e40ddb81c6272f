import RequestGate.Description.Source
import RequestGate.Gate.Basic
import RequestGate.Validation.Checker

/-!
# Starting a gate

A gate starts when its description can be loaded and compiled and the checker accepts every rule.
`Gate.prepare` starts the gate of a description and `Gate.prepareFile` that of a file.
-/

namespace RequestGate

/-- What the settings of a gate say about validation. -/
structure ValidationSettings where
  mode : Mode
  /-- The longest body that is read, in bytes. -/
  maxBodyBytes : Nat
  /-- Whether texts count for the numbers and truth values they denote. -/
  convertStrings : Bool
  deriving DecidableEq

/-- The settings of a gate that says nothing else: the first failing place only, bodies of up to two
mebibytes, with conversion. -/
def ValidationSettings.default : ValidationSettings :=
  ⟨.failFast, 2097152, true⟩

/-- Why a gate does not start. -/
inductive StartError where
  | load (e : LoadError)
  | compile (e : CompileError)
  | rule (e : RuleRefusal)

/-- An error in words, where all of them are known. -/
def StartError.message? : StartError → Option String
  | load e => e.message?.map ("failed to load description: " ++ ·)
  | compile e => some ("failed to compile description: " ++ e.message)
  | rule e => some ("rule rejected by validator: " ++ e.message)

instance : Validator Checker where
  prepare := Checker.prepare
  validate := Checker.validate

namespace Gate

/-- The gate of a description. -/
def prepare (description : Description) (settings : ValidationSettings) :
    Except StartError (Gate Checker) :=
  match description.compile with
  | .error e => .error (.compile e)
  | .ok compiled =>
    (start compiled (Checker.fresh settings.convertStrings) settings.mode).mapError .rule

/-- The gate of a description in a file, given what the file holds if it can be read. -/
def prepareFile (path : String) (contents : Option (List UInt8)) (settings : ValidationSettings) :
    Except StartError (Gate Checker) :=
  match Description.load path contents with
  | .error e => .error (.load e)
  | .ok description => prepare description settings

end Gate
end RequestGate
