import Entitlement.Authority.Client
import Entitlement.Authority.Redirect
import Entitlement.Flags
import Entitlement.License.Selection
import Entitlement.License.Synthetic
import Entitlement.Posting
import Entitlement.Store.Basic

/-!
# The licensing service

The service answers which license governs an organization and what the organization may use.

* `Service.activate`: fetches a payload from the authority and stores it as a new license;
* `Service.update`: applies a fresh payload to a stored license;
* `Service.active`: the license in force, or the synthetic one;
* `Service.openSession`: opens a billing session with the key of the license in force;
* `Service.features`: the catalog and the flags.

A refusal on the way to a license is wrapped into an internal error that names it as the cause.
-/

namespace Entitlement

/-- The parts that a service works with. -/
structure Service where
  client : Authority.Client
  flags : Flags.Evaluator
  catalog : Catalog
  dotMetrics : Bool
  counts : Bool

namespace Service

def logger : Text := "licensing.service"

def selectorLogger : Text := "licensing.selector"

def organizationField (organization : Uuid) : Text × Json :=
  ("organization_id", .string organization.text)

/-- Wraps a refusal; other faults pass. -/
def wrapRefusal (message : Text) (fault : Fault) : Fault :=
  match fault with
  | .refusal _ => .refusal (Refusal.wrap fault message)
  | other => other

/-- Goes on with the outcome of a task, a refusal wrapped. -/
def wrapping {α : Type} (message : Text) (act : Act α) : Act α := do
  match ← act.outcome with
  | .ok a => return a
  | .error fault => throw (wrapRefusal message fault)

def start : Act Unit := Act.log logger .debug "Licensing service started" []

def stop : Act Unit := Act.log logger .debug "Licensing service stopped" []

/-- Writes that a license was stored. -/
def announce (event : Text) (organization : Uuid) (license : License) : Act Unit := do
  let stats ← Task.ofExcept license.stats
  Act.log logger .info event (organizationField organization :: stats)

/-! ## Storing licenses -/

/-- Fetches the license of a key and stores it. -/
def activate (service : Service) (organization : Uuid) (key : Text) : Act License := do
  let payload ←
    wrapping "unable to fetch license data with upstream server" (service.client.fetchLicense key)
  let now ← Act.now
  let license ←
    wrapping "failed to create license entity"
      (Task.ofExcept (License.parse (.bytes payload) organization service.catalog now))
  Store.create license.stored
  announce "License activated" organization license
  return license

/-- Applies a payload to a stored license. -/
def update (service : Service) (organization id : Uuid) (payload : Document) : Act License := do
  let stored ← Store.get organization id
  let license ← Task.ofExcept (License.ofStored stored service.catalog)
  let now ← Act.now
  let license ←
    wrapping "failed to update license entity"
      (Task.ofExcept (license.refresh payload service.catalog now))
  Store.update organization license.stored
  announce "License updated" organization license
  return license

/-! ## The license in force -/

/-- The time of the clock in whole seconds. -/
def seconds (clock : Binary64) : Except Fault Int :=
  match clock.truncate? with
  | some i => .ok i
  | none =>
    match clock with
    | .nan => .error (.failure Kind.valueError "cannot convert float NaN to integer")
    | _ => .error (.failure Kind.overflow "cannot convert float infinity to integer")

/-- Writes what a selection came to. -/
def logSelection (organization : Uuid) (candidates : Nat) : Selection → Act Unit
  | .found license =>
    Act.log selectorLogger .debug "Active license selected"
      [organizationField organization, ("license_id", .string license.id.text),
        ("valid_from", .int license.terms.validFrom), ("candidates", .int candidates)]
  | .absent _ =>
    Act.log selectorLogger .debug "No eligible license"
      [organizationField organization, ("candidates", .int candidates)]

/-- Counts how a license in force was found. -/
def countResolution (service : Service) (outcome : Text) : Act Unit :=
  if service.counts then Act.record (·.recordResolution outcome) else pure ()

/-- The license in force, or the synthetic one. -/
def active (service : Service) (organization : Uuid) : Act License := do
  let stored ← Store.getAll organization
  let now ← Task.ofExcept (seconds (← get).environment.clock)
  let selection ← Task.ofExcept (Selection.ofStored stored organization now)
  logSelection organization stored.length selection
  match selection with
  | .found license =>
    service.countResolution "found"
    return license
  | .absent _ =>
    service.countResolution "synthetic"
    Act.log logger .debug "No active license, using synthetic license"
      [organizationField organization]
    return License.synthetic organization service.catalog (← Act.now)

/-- Opens a billing session.  An empty key is sent as it is; the authority decides. -/
def openSession (service : Service) (call : Authority.Call) (organization : Uuid)
    (subscription : Subscription) : Act Redirection := do
  let license ← service.active organization
  let body ← Task.ofExcept subscription.body
  let answer ← service.client.perform call license.key body
  let url ← Task.ofExcept (Redirect.ofDocument (.bytes answer))
  return ⟨url⟩

/-! ## Features -/

/-- The catalog with the feature of metrics with dots switched on. -/
def withDotMetrics (features : List Feature) : List Feature :=
  features.map fun f =>
    if f.name = Capability.dotMetrics.name then { f with active := true } else f

/-- The catalog followed by the flag for span metrics. -/
def features (service : Service) (organization : Uuid) : Act (List Feature) := do
  let on ← service.flags.evaluate Flags.useSpanMetrics organization
  let features := service.catalog ++ [Feature.plain Flags.useSpanMetrics on]
  return if service.dotMetrics then withDotMetrics features else features

/-- Usage reported for telemetry: there is none. -/
def usage : Json := .object []

end Service

end Entitlement
