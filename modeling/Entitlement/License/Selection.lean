import Entitlement.License.Payload

/-!
# The license in force

Of the licenses of an organization the one in force is the one that started last among those still
valid.  A start of zero means that the license never started.  Starts are not compared with the
present, so a renewal wins as soon as it is stored; of equal starts the first license wins.
-/

namespace Entitlement

/-- The outcome of a selection. -/
inductive Selection where
  | found (license : License)
  | absent (organization : Uuid)
  deriving DecidableEq

/-- Started at all, and still valid. -/
def License.isEligible (l : License) (now : Int) : Bool :=
  l.terms.validFrom ≠ 0 && l.isValidAt now

namespace Selection

/-- The better of the best so far and the next license. -/
def better (now : Int) (best : Option License) (next : License) : Option License :=
  if next.isEligible now then
    match best with
    | none => some next
    | some b => if b.terms.validFrom < next.terms.validFrom then some next else some b
  else best

/-- The license in force at `now`. -/
def ofLicenses (licenses : List License) (organization : Uuid) (now : Int) : Selection :=
  match licenses.foldl (better now) none with
  | some l => .found l
  | none => .absent organization

/-- The fault of asking for a license where none is in force. -/
def absence (organization : Uuid) : Fault :=
  .notFound ("no active license found for the organization " ++ organization.text)
    [("organization_id", .string organization.text)]

/-- The licenses of stored rows; the first row that cannot be read decides. -/
def licenses (stored : List StoredLicense) : Except Fault (List License) :=
  stored.mapM fun s => License.ofStored s Catalog.standard

/-- The license in force among stored rows. -/
def ofStored (stored : List StoredLicense) (organization : Uuid) (now : Int) :
    Except Fault Selection := do
  return ofLicenses (← licenses stored) organization now

end Selection

end Entitlement
