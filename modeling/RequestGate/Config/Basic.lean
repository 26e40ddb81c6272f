import RequestGate.Gate.Startup

/-!
# Configurations

What a gate is told before it starts: where it listens, the service it stands in front of, its
description, and how it validates, waits and reports.  Everything has a default.
-/

namespace RequestGate

/-- Where the gate listens. -/
structure ListenerSettings where
  bindAddress : String
  deriving DecidableEq

/-- The service behind the gate. -/
structure ServiceSettings where
  address : String
  deriving DecidableEq

/-- Where the description is. -/
structure DescriptionSettings where
  path : String
  deriving DecidableEq

/-- How long a request may take. -/
structure TimeoutSettings where
  requestSeconds : Nat
  deriving DecidableEq

/-- What the gate reports about itself. -/
structure ObservabilitySettings where
  logLevel : String
  metricsEnabled : Bool
  metricsAddress : String
  deriving DecidableEq

/-- A configuration. -/
structure Config where
  listener : ListenerSettings
  service : ServiceSettings
  description : DescriptionSettings
  validation : ValidationSettings
  timeouts : TimeoutSettings
  observability : ObservabilitySettings
  deriving DecidableEq

namespace Config

/-- The configuration that leaves everything out. -/
def default : Config where
  listener := ⟨"0.0.0.0:8080"⟩
  service := ⟨"127.0.0.1:3000"⟩
  description := ⟨"openapi.yaml"⟩
  validation := .default
  timeouts := ⟨30⟩
  observability := ⟨"info", false, "0.0.0.0:9090"⟩

/-- The name of a mode. -/
def modeName : Mode → String
  | .failFast => "fail_fast"
  | .aggregate => "aggregate"

/-- A configuration as JSON. -/
def toJson (config : Config) : Json :=
  .object [
    ("listener", .object [("bind_address", .string config.listener.bindAddress)]),
    ("upstream", .object [("address", .string config.service.address)]),
    ("description", .object [("path", .string config.description.path)]),
    ("validation", .object [("mode", .string (modeName config.validation.mode)),
      ("max_body_bytes", .ofInt config.validation.maxBodyBytes),
      ("convert_strings", .bool config.validation.convertStrings)]),
    ("timeouts", .object [("request_secs", .ofInt config.timeouts.requestSeconds)]),
    ("observability", .object [("log_level", .string config.observability.logLevel),
      ("metrics_enabled", .bool config.observability.metricsEnabled),
      ("metrics_address", .string config.observability.metricsAddress)])]

end Config
end RequestGate
