import RequestGate.Text.Pieces

/-!
# Arguments of the command line

Options come first, each with a value and at most once, and then a command.  A value is the next
argument, or it stands after the option in the same argument, possibly with an equals sign.  An
argument that starts with a hyphen is never the value of the one before it, and paths are not empty.

`Invocation.ofArguments?` takes the arguments in order.  A call for help is answered where it is met;
the last option before a command is looked at only after the arguments of the command.
-/

namespace RequestGate
namespace CommandLine

/-- An option. -/
inductive Flag where
  | config
  | spec
  | bind
  /-- The address of the service behind the gate. -/
  | service
  deriving DecidableEq

/-- What the program can be told to do. -/
inductive Command where
  | serve
  | check
  deriving DecidableEq

/-- What help can be asked about. -/
inductive Topic where
  | program
  | command (command : Command)
  | help
  deriving DecidableEq

/-- The values of the options. -/
structure Options where
  config : Option String
  spec : Option String
  bind : Option String
  service : Option String
  deriving DecidableEq

/-- What arguments ask for. -/
inductive Invocation where
  | run (options : Options) (command : Command)
  | help (topic : Topic)
  deriving DecidableEq

namespace Flag

/-- All options. -/
def all : List Flag :=
  [config, spec, bind, service]

/-- The long name of an option. -/
def name : Flag → String
  | config => "config"
  | spec => "spec"
  | bind => "bind"
  | service => "upstream"

/-- The letter of an option. -/
def letter : Flag → Char
  | config => 'c'
  | spec => 's'
  | bind => 'b'
  | service => 'u'

/-- Whether the value of an option is a path. -/
def isPath : Flag → Bool
  | config | spec => true
  | bind | service => false

end Flag

namespace Command

/-- All commands. -/
def all : List Command :=
  [serve, check]

/-- The name of a command. -/
def name : Command → String
  | serve => "serve"
  | check => "check"

/-- The command with a name. -/
def ofName? (text : String) : Option Command :=
  all.find? fun command => command.name = text

end Command

namespace Options

/-- No options. -/
def empty : Options :=
  ⟨none, none, none, none⟩

/-- The value of an option. -/
def value? (options : Options) : Flag → Option String
  | .config => options.config
  | .spec => options.spec
  | .bind => options.bind
  | .service => options.service

/-- The options with the value of one of them set. -/
def set (options : Options) (value : String) : Flag → Options
  | .config => { options with config := some value }
  | .spec => { options with spec := some value }
  | .bind => { options with bind := some value }
  | .service => { options with service := some value }

/-- The options with one more, which must not have been given before and must have a proper value. -/
def give (options : Options) (flag : Flag) (value : String) : Option Options :=
  if (options.value? flag).isSome || (flag.isPath && value = "") then none
  else some (options.set value flag)

end Options

/-- Options part way through: those that are settled, and the last one with its value if that has been
met. -/
structure Progress where
  options : Options
  open_ : Option (Flag × Option String)

namespace Progress

/-- The options with the last one settled. -/
def settle (progress : Progress) : Option Options :=
  match progress.open_ with
  | none => some progress.options
  | some (flag, some value) => progress.options.give flag value
  | some (_, none) => none

/-- What follows once an option is met, with its value if that stands in the same argument. -/
def meet (progress : Progress) (flag : Flag) (value : Option String) : Option Progress := do
  let options ← progress.settle
  match value with
  | some value => return ⟨← options.give flag value, none⟩
  | none => return ⟨options, some (flag, none)⟩

end Progress

/-- What the argument of an option or of a call for help says. -/
inductive Mark where
  | option (flag : Flag) (value : Option String)
  | help
  deriving DecidableEq

/-- Reads an argument after two hyphens. -/
def longMark? (text : List Char) : Option Mark :=
  let (name, value) := Pieces.cut '=' text
  let name := String.ofList name
  if name = "help" then if value.isNone then some .help else none
  else (Flag.all.find? fun flag => flag.name = name).map fun flag =>
    .option flag (value.map String.ofList)

/-- The value that stands after the letter of an option. -/
def attachedValue? : List Char → Option String
  | [] => none
  | '=' :: value => some (String.ofList value)
  | value => some (String.ofList value)

/-- Reads an argument after one hyphen. -/
def shortMark? : List Char → Option Mark
  | [] => none
  | 'h' :: _ => some .help
  | letter :: rest => (Flag.all.find? fun flag => flag.letter = letter).map fun flag =>
    .option flag (attachedValue? rest)

/-- Whether an argument is marked by hyphens. -/
def isMarked (argument : String) : Bool :=
  argument.toList.head? = some '-' && argument ≠ "-"

/-- Reads an argument that is marked by hyphens. -/
def mark? (argument : String) : Option Mark :=
  match argument.toList with
  | '-' :: '-' :: text => longMark? text
  | '-' :: text => shortMark? text
  | _ => none

namespace Invocation

/-- What the arguments after a command ask for. -/
def afterCommand (progress : Progress) (command : Command) : List String → Option Invocation
  | [] | ["--"] => progress.settle.map (.run · command)
  | argument :: _ =>
    if mark? argument = some .help then some (.help (.command command)) else none

/-- What the arguments after `help` ask for. -/
def afterHelp : List String → Option Invocation
  | [] => some (.help .program)
  | ["help"] => some (.help .help)
  | [name] => (Command.ofName? name).map fun command => .help (.command command)
  | _ => none

/-- What arguments ask for after the options met so far. -/
def after (progress : Progress) : List String → Option Invocation
  | [] => none
  | argument :: rest =>
    if isMarked argument then
      match mark? argument with
      | some (.option flag value) => (progress.meet flag value).bind fun progress => after progress rest
      | some .help => progress.settle.map fun _ => .help .program
      | none => none
    else
      match progress.open_ with
      | some (flag, none) => after { progress with open_ := some (flag, some argument) } rest
      | _ =>
        match Command.ofName? argument with
        | some command => afterCommand progress command rest
        | none => if argument = "help" then afterHelp rest else none

/-- What arguments ask for; none when they are not understood. -/
def ofArguments? (arguments : List String) : Option Invocation :=
  after ⟨.empty, none⟩ arguments

end Invocation
end CommandLine
end RequestGate
