import Entitlement.License.Basic

/-!
# The synthetic license

An organization without a license in force gets a stand-in that grants the whole catalog and never
ends.  Its data has the form of a payload; only the empty key tells it apart.
-/

namespace Entitlement

namespace License

def syntheticPlan : Text := "cloud"

def syntheticStatus : Text := "VALID"

def syntheticState : Text := "ACTIVE"

/-- The data of a stand-in made at `now`. -/
def syntheticData (catalog : Catalog) (now : DateTime) : Members :=
  let stamp : Json := .string now.text
  let empty : Json := .string []
  [("status", .string syntheticStatus),
    ("state", .string syntheticState),
    ("platform", .string "CLOUD"),
    ("created_at", stamp),
    ("updated_at", stamp),
    ("plan", .object [("name", .string syntheticPlan), ("is_active", .bool true),
      ("description", empty), ("created_at", stamp), ("updated_at", stamp)]),
    ("plan_id", empty),
    ("free_until", empty),
    ("valid_from", .int 0),
    ("valid_until", .int openEnded),
    ("event_queue", .object [("event", empty), ("status", empty), ("scheduled_at", empty),
      ("created_at", stamp), ("updated_at", stamp)]),
    ("features", catalog.json)]

/-- The stand-in for an organization. -/
def synthetic (organization : Uuid) (catalog : Catalog) (now : DateTime) : License where
  id := Uuid.nil
  key := []
  organization := organization
  terms := {
    planName := syntheticPlan
    status := syntheticStatus
    state := syntheticState
    freeUntil := DateTime.first
    validFrom := 0
    validUntil := openEnded
    features := catalog
    data := .ofMembers (syntheticData catalog now) }
  createdAt := now
  updatedAt := now
  lastValidatedAt := now

end License

end Entitlement
