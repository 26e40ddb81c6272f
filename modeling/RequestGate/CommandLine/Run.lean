import RequestGate.CommandLine.Help
import RequestGate.Config.Validation
import RequestGate.Json.Printer

/-!
# Running a command

The configuration comes from its file, when one is named, and has to be sound by itself; then the
options replace its fields, and it has to be sound again.  The gate is started with it.  `check` prints
what the description compiles to, and `serve` goes on with the gate.

Files are read by an action that the caller provides, so the same program runs on real files and on
given ones.
-/

namespace RequestGate
namespace CommandLine

/-- Why a command fails. -/
inductive Failure where
  /-- The arguments are not understood. -/
  | usage
  | config (e : ConfigError)
  | start (e : StartError)

/-- What running the program leads to. -/
inductive Outcome where
  | printed (text : String)
  | failed (failure : Failure)
  /-- A gate has started and is to be served. -/
  | serving (config : Config) (gate : Gate Checker)

/-- The exit status: 2 for arguments that are not understood, 1 for any other failure. -/
def Outcome.status : Outcome → Nat
  | printed _ | serving _ _ => 0
  | failed .usage => 2
  | failed _ => 1

namespace Options

/-- A configuration with its fields replaced by options. -/
def override (options : Options) (config : Config) : Config where
  listener := ⟨options.bind.getD config.listener.bindAddress⟩
  service := ⟨options.service.getD config.service.address⟩
  description := ⟨options.spec.getD config.description.path⟩
  validation := config.validation
  timeouts := config.timeouts
  observability := config.observability

/-- The configuration that options ask for, given what the configuration file holds if it can be
read. -/
def resolve (options : Options) (contents : Option (List UInt8)) : Except ConfigError Config := do
  let config ← if options.config.isSome then Config.load contents else .ok .default
  (options.override config).validate

end Options

/-- What a command leads to once its gate has started. -/
def outcome (command : Command) (config : Config) : Except StartError (Gate Checker) → Outcome
  | .error e => .failed (.start e)
  | .ok gate =>
    match command with
    | .check => .printed (Json.pretty gate.compiled.toJson ++ "\n")
    | .serve => .serving config gate

variable {m : Type → Type} [Monad m]

/-- Runs a command with options. -/
def runCommand (readFile : String → m (Option (List UInt8))) (options : Options)
    (command : Command) : m Outcome := do
  let contents ← match options.config with
    | some path => readFile path
    | none => pure none
  match options.resolve contents with
  | .error e => return .failed (.config e)
  | .ok config =>
    let path := config.description.path
    return outcome command config (Gate.prepareFile path (← readFile path) config.validation)

/-- Runs the program with arguments. -/
def run (readFile : String → m (Option (List UInt8))) (arguments : List String) : m Outcome :=
  match Invocation.ofArguments? arguments with
  | none => return .failed .usage
  | some (.help topic) => return .printed topic.text
  | some (.run options command) => runCommand readFile options command

end CommandLine
end RequestGate
