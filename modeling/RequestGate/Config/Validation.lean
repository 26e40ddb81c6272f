import RequestGate.Config.Address
import RequestGate.Config.Reader
import RequestGate.Text.Blank

/-!
# Sound configurations

A configuration is sound when its addresses are socket addresses, its description has a path, and its
limits are positive.  `issues` lists everything that is not, in a fixed order; the address for metrics
matters only when metrics are enabled.

`load` reads a configuration from TOML text and refuses one that is not sound.
-/

namespace RequestGate

/-- Something that is wrong with a configuration. -/
structure ConfigIssue where
  /-- The path of the field. -/
  field : String
  message : String
  deriving DecidableEq

/-- An issue in words. -/
def ConfigIssue.text (issue : ConfigIssue) : String :=
  issue.field ++ ": " ++ issue.message

/-- Why there is no configuration. -/
inductive ConfigError where
  /-- There is no file, or it is not UTF-8 text. -/
  | unreadable
  /-- The text is not TOML, or a known field has a value of the wrong kind. -/
  | malformed
  | unsound (issues : List ConfigIssue)
  deriving DecidableEq

/-- An error in words, where the words do not come from a reader of a format. -/
def ConfigError.message? : ConfigError → Option String
  | unsound issues =>
    some ("Validation failed: " ++ String.intercalate ", " (issues.map ConfigIssue.text))
  | unreadable | malformed => none

namespace Config

/-- The issue of a field that does not satisfy a condition. -/
def issueUnless (condition : Bool) (field message : String) : List ConfigIssue :=
  if condition then [] else [⟨field, message⟩]

/-- The issue of an address that is no socket address. -/
def addressIssue (field address : String) : List ConfigIssue :=
  issueUnless (SocketAddress.isValid address) field ("invalid socket address '" ++ address ++ "'")

/-- Everything that is wrong with a configuration. -/
def issues (config : Config) : List ConfigIssue :=
  addressIssue "listener.bind_address" config.listener.bindAddress ++
  addressIssue "upstream.address" config.service.address ++
  (if config.observability.metricsEnabled then
    addressIssue "observability.metrics_address" config.observability.metricsAddress else []) ++
  issueUnless (Blank.trim config.description.path ≠ "") "description.path" "must not be empty" ++
  issueUnless (config.validation.maxBodyBytes ≠ 0) "validation.max_body_bytes"
    "must be greater than 0" ++
  issueUnless (config.timeouts.requestSeconds ≠ 0) "timeouts.request_secs"
    "must be greater than 0"

/-- A configuration without issues. -/
def validate (config : Config) : Except ConfigError Config :=
  match config.issues with
  | [] => .ok config
  | issues => .error (.unsound issues)

/-- The sound configuration that a text holds. -/
def parse (text : String) : Except ConfigError Config :=
  match ofToml? text with
  | some config => config.validate
  | none => .error .malformed

/-- The sound configuration in a file, given what the file holds if it can be read. -/
def load (contents : Option (List UInt8)) : Except ConfigError Config :=
  match contents.bind Utf8.decode? with
  | some text => parse text
  | none => .error .unreadable

end Config
end RequestGate
