import Entitlement.License.Basic
import Entitlement.Time.Rfc3339

/-!
# Reading payloads

A payload is a JSON object in which the authority describes a license.  Reading is a list of checks,
and the first one that fails is reported: the payload is an object; `id` and `key` are texts; `id`
is a UUID; `status` is a text; `plan` is an object with a text `name`.  Everything else falls back
to a default without an error.

* `License.parse`: a new license from a payload;
* `License.ofStored`: a license again from what was stored of it;
* `License.refresh`: a license with the terms of a new payload and its identity kept.
-/

namespace Entitlement

namespace Payload

/-! ## Required members -/

/-- A required member is missing. -/
def missing (field : Text) : Fault :=
  .invalidInput (field ++ (" key is missing" : Text)) [("field", .string field)]

/-- A required member is of another type. -/
def mistyped (field type : Text) : Fault :=
  .invalidInput (field ++ (" key is not a valid " : Text) ++ type) [("field", .string field)]

/-- A required text; `field` is its full name. -/
def requiredText (members : Members) (name field : Text) : Except Fault Text :=
  match Members.get? members name with
  | some (.string s) => .ok s
  | some _ => .error (mistyped field "string")
  | none => .error (missing field)

/-- A required object. -/
def requiredObject (members : Members) (name : Text) : Except Fault Members :=
  match Members.get? members name with
  | some (.object inner) => .ok inner
  | some _ => .error (mistyped name "object")
  | none => .error (missing name)

/-! ## Members with a default -/

/-- The text, or the empty text. -/
def textOrEmpty (members : Members) (name : Text) : Text :=
  match Members.get? members name with
  | some (.string s) => s
  | _ => []

/-- The number cut to an integer, or zero.  Zero doubles as absent. -/
def epochOrZero (members : Members) (name : Text) : Int :=
  match Members.get? members name with
  | some (.int i) => i
  | some (.float x) => x.truncate?.getD 0
  | _ => 0

/-- The date-time, or the first moment. -/
def timeOrFirst (members : Members) (name : Text) : DateTime :=
  match Members.get? members name with
  | some (.string s) => (Rfc3339.read? s).getD DateTime.first
  | _ => DateTime.first

/-! ## Decoding -/

/-- A payload that cannot be read. -/
def unreadable (reason : Text) : Fault :=
  .internal "failed to unmarshal license data" [("error", .string reason)]

/-- The members of a payload.  Nesting that is too deep is no fault of the payload. -/
def decode (payload : Document) : Except Fault Members :=
  match payload.read Json.Reader.strict with
  | .ok (.object members) => .ok members
  | .ok _ => .error (unreadable "payload is not an object")
  | .error fault =>
    if fault.isDeepNesting then .error (.failure Kind.recursion fault.message)
    else .error (unreadable fault.message)

end Payload

open Payload in
/-- The terms in data without id and key.  The catalog is attached whatever the data says about
features. -/
def Terms.ofData (data : Dictionary) (catalog : Catalog) : Except Fault Terms := do
  let members := data.members
  let status ← requiredText members "status" "status"
  let plan ← requiredObject members "plan"
  let planName ← requiredText plan "name" "plan.name"
  return {
    planName, status
    state := textOrEmpty members "state"
    freeUntil := timeOrFirst members "free_until"
    validFrom := epochOrZero members "valid_from"
    validUntil := epochOrZero members "valid_until"
    features := catalog
    data := data.insert (.text "features") catalog.json }

namespace License

open Payload

/-- Drops the id and the key. -/
def residue (data : Dictionary) : Dictionary := (data.erase "id").erase "key"

/-- A new license of an organization from the members of a payload. -/
def ofMembers (members : Members) (organization : Uuid) (catalog : Catalog) (now : DateTime) :
    Except Fault License := do
  let idText ← requiredText members "id" "id"
  let key ← requiredText members "key" "key"
  match Uuid.read? idText with
  | none => throw (mistyped "id" "uuid")
  | some id =>
    let terms ← Terms.ofData (residue (.ofMembers members)) catalog
    return ⟨id, key, organization, terms, now, now, now⟩

/-- Reads a payload as a new license of an organization. -/
def parse (payload : Document) (organization : Uuid) (catalog : Catalog) (now : DateTime) :
    Except Fault License := do
  ofMembers (← decode payload) organization catalog now

/-- The license again from what was stored. -/
def ofStored (stored : StoredLicense) (catalog : Catalog) : Except Fault License := do
  let data ← Dictionary.ofJson stored.data
  let terms ← Terms.ofData (residue data) catalog
  return ⟨stored.id, stored.key, stored.organization, terms, stored.createdAt, stored.updatedAt,
    stored.lastValidatedAt⟩

/-- The license with the terms of another one, updated and validated at `now`. -/
def withTerms (l fresh : License) (now : DateTime) : License :=
  { l with terms := fresh.terms, updatedAt := now, lastValidatedAt := now }

/-- Refreshes a license from a payload.  The payload is checked like a new one, its id and key are
then left aside. -/
def refresh (l : License) (payload : Document) (catalog : Catalog) (now : DateTime) :
    Except Fault License := do
  let fresh ← parse payload l.organization catalog now
  return l.withTerms fresh now

end License

end Entitlement
