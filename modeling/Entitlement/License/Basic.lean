import Entitlement.Dictionary
import Entitlement.Feature
import Entitlement.Identifier
import Entitlement.Time.DateTime

/-!
# Licenses

A license belongs to an organization and has an identity, its terms, and the moments at which it was
created, updated and validated.  The `Terms` are all that a payload says: plan, status, state, the
window of validity, the features, and the rest of the payload as `data`.

A `StoredLicense` is what is kept of a license: everything but the terms that `data` repeats.
-/

namespace Entitlement

/-- What a payload says about a license. -/
structure Terms where
  planName : Text
  status : Text
  state : Text
  freeUntil : DateTime
  validFrom : Int
  validUntil : Int
  features : List Feature
  data : Dictionary
  deriving DecidableEq

/-- An entitlement record of an organization.  The data holds neither the id nor the key. -/
structure License where
  id : Uuid
  key : Text
  organization : Uuid
  terms : Terms
  createdAt : DateTime
  updatedAt : DateTime
  lastValidatedAt : DateTime
  deriving DecidableEq

/-- What is stored of a license. -/
structure StoredLicense where
  id : Uuid
  key : Text
  organization : Uuid
  data : Json
  createdAt : DateTime
  updatedAt : DateTime
  lastValidatedAt : DateTime
  deriving DecidableEq

namespace License

/-- An empty key: no entitlement of the authority stands behind the license. -/
def isSynthetic (l : License) : Bool := l.key = []

/-- An open end, or an end after `now`. -/
def isValidAt (l : License) (now : Int) : Bool :=
  l.terms.validUntil = openEnded || now < l.terms.validUntil

/-- The data with the key put back, as it is handed out. -/
def gettable (l : License) : Dictionary := l.terms.data.insert (.text "key") (.string l.key)

/-- The projection that is stored. -/
def stored (l : License) : StoredLicense :=
  ⟨l.id, l.key, l.organization, l.terms.data.json, l.createdAt, l.updatedAt,
    l.lastValidatedAt⟩

/-- A summary for logs.  The end of the free period is told in UTC, where it may not exist. -/
def stats (l : License) : Except Fault Members :=
  match l.terms.freeUntil.toUtc? with
  | some t =>
    .ok [("license.id", .string l.id.text), ("license.plan.name", .string l.terms.planName),
      ("license.state.name", .string l.terms.state), ("license.free_until.time", .string t.text)]
  | none => .error (.failure Kind.overflow "date value out of range")

end License

end Entitlement
