import Entitlement.Shape.Coercion

/-!
# Features and the catalog

A feature is a capability with its metadata.  Every known feature is active for every organization,
so the standard catalog is one list, which a service may be given another one for.
-/

namespace Entitlement

/-- The number that stands for no limit, of time or of usage. -/
def openEnded : Int := -1

/-- A product capability and its metadata. -/
structure Feature where
  name : Text
  active : Bool
  usage : Int
  usageLimit : Int
  route : Text
  deriving DecidableEq

namespace Feature

/-- A feature that is not counted. -/
def plain (name : Text) (active : Bool) : Feature := ⟨name, active, 0, openEnded, []⟩

def json (f : Feature) : Json :=
  .object [("name", .string f.name), ("active", .bool f.active), ("usage", .int f.usage),
    ("usage_limit", .int f.usageLimit), ("route", .string f.route)]

/-- The shape of a feature; only the name has no default. -/
def shape : Shape Feature :=
  Shape.record "Feature" fun members =>
    Feature.mk <$> Shape.required members "name" Shape.text
      <*> Shape.optional members "active" Shape.truth true
      <*> Shape.optional members "usage" Shape.integer 0
      <*> Shape.optional members "usage_limit" Shape.integer openEnded
      <*> Shape.optional members "route" Shape.text []

end Feature

/-- The known capabilities. -/
inductive Capability where
  | sso
  | onboarding
  | chatSupport
  | gateway
  | premiumSupport
  | anomalyDetection
  | dotMetrics
  deriving DecidableEq

namespace Capability

def name : Capability → Text
  | .sso => "sso"
  | .onboarding => "onboarding"
  | .chatSupport => "chat_support"
  | .gateway => "gateway"
  | .premiumSupport => "premium_support"
  | .anomalyDetection => "anomaly_detection"
  | .dotMetrics => "dot_metrics_enabled"

def all : List Capability :=
  [sso, onboarding, chatSupport, gateway, premiumSupport, anomalyDetection, dotMetrics]

end Capability

/-- A list of features, in the order in which they are handed out. -/
abbrev Catalog := List Feature

namespace Catalog

/-- Every known capability, active. -/
def standard : Catalog := Capability.all.map fun c => Feature.plain c.name true

/-- The catalog as it stands in the data of a license. -/
def json (catalog : Catalog) : Json := .array (catalog.map Feature.json)

end Catalog

end Entitlement
