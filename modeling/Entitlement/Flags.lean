import Entitlement.Dictionary
import Entitlement.Session
import Entitlement.Text.Case

/-!
# Feature flags

A flag has a default, which an organization may override; a flag without either is off.  The
organizations of the overrides are named by their ids in any letter case.
-/

namespace Entitlement

namespace Flags

/-- Defaults of flags, and overrides by organization. -/
structure Evaluator where
  defaults : Dictionary
  overrides : List (Text × Dictionary)

/-- The flag that the catalog is extended by. -/
def useSpanMetrics : Text := "use_span_metrics"

def logger : Text := "licensing.flags"

/-- Sets the overrides of an organization, in the place of earlier ones. -/
def setOverrides : List (Text × Dictionary) → (organization : Text) → Dictionary →
    List (Text × Dictionary)
  | [], organization, flags => [(organization, flags)]
  | (o, f) :: rest, organization, flags =>
    if o = organization then (organization, flags) :: rest
    else (o, f) :: setOverrides rest organization flags

namespace Evaluator

/-- An evaluator for defaults and overrides; the organizations are put into lower case. -/
def make (defaults : Dictionary) (overrides : List (Text × Dictionary)) : Evaluator where
  defaults := defaults
  overrides := overrides.foldl (fun o entry => setOverrides o entry.1.lower entry.2) []

/-- Defaults and overrides given as values.  What counts as false is empty; otherwise the overrides
have to be an object. -/
def ofJson (defaults overrides : Json) : Except Fault Evaluator := do
  let orEmpty (json : Json) : Json := if json.isTruthy then json else .object []
  let defaults ← Dictionary.ofJson (orEmpty defaults)
  match orEmpty overrides with
  | .object members =>
    let overrides ← members.mapM fun (organization, flags) => do
      return (organization, ← Dictionary.ofJson flags)
    return make defaults overrides
  | _ => throw (.silent Kind.attributeError)

/-- The value of a flag for an organization. -/
def value (e : Evaluator) (flag : Text) (organization : Uuid) : Json :=
  let own := (e.overrides.lookup organization.text).getD []
  match own.get? flag with
  | some v => v
  | none => (e.defaults.get? flag).getD (.bool false)

/-- Whether a flag is on for an organization. -/
def isOn (e : Evaluator) (flag : Text) (organization : Uuid) : Bool :=
  (e.value flag organization).isTruthy

/-- Evaluates a flag and logs its value. -/
def evaluate (e : Evaluator) (flag : Text) (organization : Uuid) : Act Bool := do
  Act.log logger .debug "Flag evaluated"
    [("flag", .string flag), ("organization_id", .string organization.text),
      ("value", e.value flag organization)]
  return e.isOn flag organization

end Evaluator

end Flags

end Entitlement
