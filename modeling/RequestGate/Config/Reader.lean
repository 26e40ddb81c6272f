import RequestGate.Config.Basic
import RequestGate.Json.Record
import RequestGate.Toml.Reader

/-!
# Reading configurations

A configuration is a record of records.  A field that is missing takes its default and an unknown one
is ignored, but a known field has to have a value of its kind.  Records may be written as arrays of
their fields.  A mode is a name, or an object whose only member has that name and holds nothing.

JSON and TOML differ in two points, which a `WrittenForm` states: what holds nothing, and whether an
array may be longer than the record it stands for.
-/

namespace RequestGate
namespace Config

/-- How configurations are written. -/
structure WrittenForm where
  /-- Whether a value holds nothing. -/
  isNothing : Json → Bool
  /-- Whether items of an array beyond the fields of its record are ignored. -/
  ignoresSurplus : Bool

/-- In JSON `null` holds nothing, and arrays are no longer than their records. -/
def WrittenForm.json : WrittenForm where
  isNothing
    | .null => true
    | _ => false
  ignoresSurplus := false

/-- In TOML an empty array or table holds nothing, and surplus items are ignored. -/
def WrittenForm.toml : WrittenForm where
  isNothing
    | .array items => items.isEmpty
    | .object members => members.isEmpty
    | _ => false
  ignoresSurplus := true

namespace Reader

open Json.Record

/-- A natural number of 64 bits. -/
def count? : Json → Option Nat
  | .number (.integer i) => if 0 ≤ i then some i.toNat else none
  | _ => none

/-- The mode with a name. -/
def modeNamed? (name : String) : Option Mode :=
  [Mode.failFast, .aggregate].find? fun mode => modeName mode = name

/-- Reads a mode. -/
def mode? (form : WrittenForm) : Json → Option Mode
  | .string name => modeNamed? name
  | .object [(name, value)] => if form.isNothing value then modeNamed? name else none
  | _ => none

/-- A value in the form of a record with these fields; surplus items are dropped where they are
ignored. -/
def record? (form : WrittenForm) (order : List String) (value : Json) : Option Json :=
  let value := match value with
    | .array items => .array (if form.ignoresSurplus then items.take order.length else items)
    | value => value
  if isRecord order value then some value else none

/-- Reads the listener. -/
def listener? (form : WrittenForm) (value : Json) : Option ListenerSettings := do
  let order := ["bind_address"]
  let value ← record? form order value
  return ⟨← defaulted? default.listener.bindAddress Json.asString?
    (field? order "bind_address" value)⟩

/-- Reads the service. -/
def service? (form : WrittenForm) (value : Json) : Option ServiceSettings := do
  let order := ["address"]
  let value ← record? form order value
  return ⟨← defaulted? default.service.address Json.asString? (field? order "address" value)⟩

/-- Reads where the description is. -/
def description? (form : WrittenForm) (value : Json) : Option DescriptionSettings := do
  let order := ["path"]
  let value ← record? form order value
  return ⟨← defaulted? default.description.path Json.asString? (field? order "path" value)⟩

/-- Reads how the gate validates. -/
def validation? (form : WrittenForm) (value : Json) : Option ValidationSettings := do
  let order := ["mode", "max_body_bytes", "convert_strings"]
  let value ← record? form order value
  return {
    mode := ← defaulted? default.validation.mode (mode? form) (field? order "mode" value)
    maxBodyBytes := ← defaulted? default.validation.maxBodyBytes count?
      (field? order "max_body_bytes" value)
    convertStrings := ← defaulted? default.validation.convertStrings Json.asBool?
      (field? order "convert_strings" value) }

/-- Reads how long a request may take. -/
def timeouts? (form : WrittenForm) (value : Json) : Option TimeoutSettings := do
  let order := ["request_secs"]
  let value ← record? form order value
  return ⟨← defaulted? default.timeouts.requestSeconds count? (field? order "request_secs" value)⟩

/-- Reads what the gate reports. -/
def observability? (form : WrittenForm) (value : Json) : Option ObservabilitySettings := do
  let order := ["log_level", "metrics_enabled", "metrics_address"]
  let value ← record? form order value
  return {
    logLevel := ← defaulted? default.observability.logLevel Json.asString?
      (field? order "log_level" value)
    metricsEnabled := ← defaulted? default.observability.metricsEnabled Json.asBool?
      (field? order "metrics_enabled" value)
    metricsAddress := ← defaulted? default.observability.metricsAddress Json.asString?
      (field? order "metrics_address" value) }

end Reader

open Json.Record Reader in
/-- Reads a configuration. -/
def ofJson? (form : WrittenForm) (value : Json) : Option Config := do
  let order :=
    ["listener", "upstream", "description", "validation", "timeouts", "observability"]
  let value ← record? form order value
  return {
    listener := ← defaulted? default.listener (listener? form) (field? order "listener" value)
    service := ← defaulted? default.service (service? form) (field? order "upstream" value)
    description := ← defaulted? default.description (description? form)
      (field? order "description" value)
    validation := ← defaulted? default.validation (validation? form)
      (field? order "validation" value)
    timeouts := ← defaulted? default.timeouts (timeouts? form) (field? order "timeouts" value)
    observability := ← defaulted? default.observability (observability? form)
      (field? order "observability" value) }

/-- Reads a configuration from TOML text. -/
def ofToml? (text : String) : Option Config :=
  (Toml.readJson? text).bind (ofJson? .toml)

end Config
end RequestGate
