import Entitlement.Dictionary
import Entitlement.Log
import Entitlement.Shape.Coercion
import Entitlement.Text.Case

/-!
# Settings

Each setting has a default.  Variables of the environment set it under a prefix, in any letter case;
values given directly come before them.  A map in the environment is JSON text, and maps from both
sources are merged member by member.
-/

namespace Entitlement

/-- The settings of the service. -/
structure Settings where
  env : Text
  logLevel : Text
  serviceName : Text
  host : Text
  port : Int
  postgresDsn : Text
  authorityUrl : Text
  authorityTimeout : Binary64
  authorityMaxAttempts : Int
  authorityKeyHeader : Text
  dotMetrics : Bool
  featureFlags : List (Text × Bool)
  organizationFeatureFlags : List (Text × List (Text × Bool))

namespace Settings

/-! ## Fields -/

/-- The fields that are plain values, and the ones that are maps. -/
def plainFields : List Text := ["env", "log_level", "service_name", "host", "port", "postgres_dsn",
  "authority_url", "authority_timeout_seconds", "authority_max_attempts",
  "authority_api_key_header", "dot_metrics_enabled"]

def mapFields : List Text := ["feature_flags", "organization_feature_flags"]

/-- The settings in a set of values; what is unknown there is passed over. -/
def shape (members : Members) : Checked Settings :=
  Settings.mk <$> Shape.optional members "env" Shape.text "local"
    <*> Shape.optional members "log_level" Shape.text "info"
    <*> Shape.optional members "service_name" Shape.text "licensing"
    <*> Shape.optional members "host" Shape.text "0.0.0.0"
    <*> Shape.optional members "port" Shape.integer 8014
    <*> Shape.optional members "postgres_dsn" Shape.text "postgres://localhost:5432/licensing"
    <*> Shape.optional members "authority_url" Shape.text "http://localhost:8090"
    <*> Shape.optional members "authority_timeout_seconds" Shape.number (.ofInt 10)
    <*> Shape.optional members "authority_max_attempts" Shape.integer 3
    <*> Shape.optional members "authority_api_key_header" Shape.text "X-Signoz-Cloud-Api-Key"
    <*> Shape.optional members "dot_metrics_enabled" Shape.truth false
    <*> Shape.optional members "feature_flags" (Shape.mapOf Shape.truth) []
    <*> Shape.optional members "organization_feature_flags"
      (Shape.mapOf (Shape.mapOf Shape.truth)) []

/-- Flags as a value. -/
def flagsJson (flags : List (Text × Bool)) : Members := flags.map fun (name, b) => (name, .bool b)

def json (s : Settings) : Json :=
  .object [("env", .string s.env), ("log_level", .string s.logLevel),
    ("service_name", .string s.serviceName), ("host", .string s.host), ("port", .int s.port),
    ("postgres_dsn", .string s.postgresDsn), ("authority_url", .string s.authorityUrl),
    ("authority_timeout_seconds", .float s.authorityTimeout),
    ("authority_max_attempts", .int s.authorityMaxAttempts),
    ("authority_api_key_header", .string s.authorityKeyHeader),
    ("dot_metrics_enabled", .bool s.dotMetrics),
    ("feature_flags", .object (flagsJson s.featureFlags)),
    ("organization_feature_flags",
      .object (s.organizationFeatureFlags.map fun (o, flags) => (o, .object (flagsJson flags))))]

/-! ## Sources -/

/-- The prefix of the variables. -/
def variablePrefix : Text := "licensing_"

/-- The value of the variable for a field; of several spellings the last one counts. -/
def valueOf? (environment : List (Text × Text)) (field : Text) : Option Text :=
  (environment.reverse.find? fun v => v.1.lower = variablePrefix ++ field).map (·.2)

/-- The fault of a map that is no JSON text. -/
def mapFault (field : Text) : Fault :=
  .failure Kind.settings
    ("error parsing value for field \"" ++ field ++ "\" from source \"EnvSettingsSource\"")

/-- The map that a variable sets; `null` sets nothing. -/
def mapFrom (environment : List (Text × Text)) (field : Text) : Except Fault Members :=
  match valueOf? environment field with
  | none => .ok []
  | some t =>
    match Json.read Json.Reader.lenient t with
    | .ok .null => .ok []
    | .ok json => .ok [(field, json)]
    | .error fault =>
      if fault.cause.isDeepNesting then .error (.failure Kind.recursion (fault.message t))
      else .error (mapFault field)

/-- The values that the environment sets. -/
def ofEnvironment (environment : List (Text × Text)) : Except Fault Members := do
  let plain := plainFields.filterMap fun field =>
    (valueOf? environment field).map fun t => (field, Json.string t)
  let maps ← mapFields.mapM (mapFrom environment)
  return plain ++ maps.flatten

/-- Values with more values set over them.  Two objects are merged, down to a depth that settings do
not exceed. -/
def merge : (depth : Nat) → (base above : Members) → Members
  | 0, base, above => Members.insertAll base above
  | depth + 1, base, above =>
    above.foldl (fun members (name, json) =>
      match Members.get? members name, json with
      | some (.object inner), .object more =>
        Members.insert members name (.object (merge depth inner more))
      | _, json => Members.insert members name json) base

/-- The depth of maps in settings. -/
def mergeDepth : Nat := 100

/-- The settings from the environment and from values given directly. -/
def load (environment : List (Text × Text)) (given : Members) : Except Fault Settings := do
  let members := merge mergeDepth (← ofEnvironment environment) given
  match shape members with
  | .pass settings => return settings
  | .fail issues => throw (.mismatch issues)

/-- A level that cannot be configured is refused. -/
def checkLevel (s : Settings) : Except Fault Unit :=
  if Log.Level.configurable.contains s.logLevel.upper then .ok ()
  else .error (.silent Kind.attributeError)

/-- Where a server listens and how much it logs. -/
structure Listening where
  host : Text
  port : Int
  logLevel : Text

/-- Where the server of the settings listens; its level is written in lower case. -/
def listening (s : Settings) : Except Fault Listening := do
  s.checkLevel
  return ⟨s.host, s.port, s.logLevel.lower⟩

end Settings

end Entitlement
