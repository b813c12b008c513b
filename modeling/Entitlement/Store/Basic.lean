import Entitlement.Json.Decoded
import Entitlement.Session

/-!
# The license store

Licenses are kept in the table through single statements.  The store tells a taken id or key and a
missing row apart from other failures of the database, which pass through unchanged; data that is no
JSON text is a failure of its own.

* `Store.create`, `Store.get`, `Store.getAll`, `Store.update`: the licenses;
* `Store.start`, `Store.stop`, `Store.isHealthy`: the pool of connections.
-/

namespace Entitlement

namespace Store

def logger : Text := "licensing.persistence.postgres"

/-- The families of failure that a start and a health check answer for. -/
def outageFamilies : List Text := ["OSError", Kind.databaseFamily]

/-! ## Rows -/

/-- The stored license of a row. -/
def ofRow (row : Row) : Except Fault StoredLicense :=
  (Json.decode row.data).map fun data =>
    ⟨row.id, row.key, row.organization, data, row.createdAt, row.updatedAt, row.lastValidatedAt⟩

/-- The rows of a reply. -/
def rowsOf : Reply → List Row
  | .rows rows => rows
  | _ => []

/-! ## Faults -/

def idDetail (id : Uuid) : Text × Json := ("license_id", .string id.text)

def organizationDetail (organization : Uuid) : Text × Json :=
  ("organization_id", .string organization.text)

/-- The id or the key is in the table. -/
def taken (id : Uuid) : Fault :=
  .alreadyExists "license with the given id or key already exists" [idDetail id]

/-- The organization has no such license. -/
def missing (organization id : Uuid) : Fault :=
  .notFound ("license " ++ id.text ++ " not found for the organization " ++ organization.text)
    [idDetail id, organizationDetail organization]

/-! ## Licenses -/

/-- Takes a connection and sends a statement that writes the data. -/
def write (data : Json) (statement : Statement) : Act Reply := do
  Act.onDatabase fun db => (db.acquire, db)
  Task.ofExcept data.checkWritable
  Act.onDatabase (·.send statement)

/-- Stores a new license. -/
def create (stored : StoredLicense) : Act Unit := do
  let details := [idDetail stored.id, organizationDetail stored.organization]
  match ← (write stored.data (.insert stored.row)).outcome with
  | .ok _ => Act.log logger .info "License created" details
  | .error fault =>
    if fault.isOneOf [Kind.uniqueViolation.name] then
      Act.log logger .warning "License already exists" details
      throw (taken stored.id)
    else throw fault

/-- The license of an organization by its id. -/
def get (organization id : Uuid) : Act StoredLicense := do
  match rowsOf (← Act.ask (.find organization id)) with
  | row :: _ => Task.ofExcept (ofRow row)
  | [] => throw (missing organization id)

/-- All licenses of an organization. -/
def getAll (organization : Uuid) : Act (List StoredLicense) := do
  let rows := rowsOf (← Act.ask (.findAll organization))
  Task.ofExcept (rows.mapM ofRow)

/-- The stored license with a new time of update. -/
def touched (stored : StoredLicense) (now : DateTime) : StoredLicense :=
  { stored with updatedAt := now }

/-- The statement that writes data and times. -/
def revising (organization : Uuid) (stored : StoredLicense) : Statement :=
  .update organization stored.id stored.data.storedText stored.updatedAt stored.lastValidatedAt

/-- Writes data and times of a license that is stored, updated now; its identity stays. -/
def update (organization : Uuid) (stored : StoredLicense) : Act Unit := do
  match ← write stored.data (revising organization (touched stored (← Act.now))) with
  | .changed 1 =>
    Act.log logger .info "License updated" [idDetail stored.id, organizationDetail organization]
  | _ => throw (missing organization stored.id)

/-! ## The pool -/

/-- The fault of a start that failed. -/
def startFault (fault : Fault) : Fault :=
  .internal "failed to start license store" [("error", .string fault.text)]

/-- Opens a pool and sees to it that table and index exist, over one connection. -/
def openAndPrepare (dsn : Text) : Act Unit := do
  Act.onDatabase (·.openPool dsn)
  Act.onDatabase fun db => (db.acquire, db)
  let _ ← Act.onDatabase (·.send .createTable)
  let _ ← Act.onDatabase (·.send .createIndex)

def start (dsn : Text) : Act Unit := do
  match ← (openAndPrepare dsn).outcome with
  | .ok () => Act.log logger .info "PostgreSQL persistence started" []
  | .error fault =>
    if fault.isOneOf outageFamilies then
      Act.log logger .error "Failed to start PostgreSQL persistence" [("error", .string fault.text)]
      throw (startFault fault)
    else throw fault

def stop : Act Unit := do
  if (← MonadState.get).database.hasPool then
    Act.onDatabase fun db => (.ok (), db.closePool)
    Act.log logger .info "PostgreSQL persistence stopped" []

/-- Whether the database answers. -/
def isHealthy : Act Bool := do
  if (← MonadState.get).database.hasPool then
    match ← (Act.ask .probe).outcome with
    | .ok _ => return true
    | .error fault =>
      if fault.isOneOf outageFamilies then
        Act.log logger .warning "License store health check failed" [("error", .string fault.text)]
        return false
      else throw fault
  else return false

end Store

end Entitlement
