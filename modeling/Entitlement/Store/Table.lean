import Entitlement.License.Basic

/-!
# The table of licenses

A table is a list of rows in the order of their insertion.  A `Statement` is carried out as a whole:
`Statement.run` gives its reply and the table afterwards.  An id or a key that is already in the
table refuses an insertion, and nothing else changes a table than an insertion and an update.
-/

namespace Entitlement

/-- A row; the data is JSON text. -/
structure Row where
  id : Uuid
  key : Text
  data : Text
  createdAt : DateTime
  updatedAt : DateTime
  lastValidatedAt : DateTime
  organization : Uuid
  deriving DecidableEq

/-- The rows, in the order of their insertion. -/
abbrev Table := List Row

/-- The row of a stored license. -/
def StoredLicense.row (s : StoredLicense) : Row :=
  ⟨s.id, s.key, s.data.storedText, s.createdAt, s.updatedAt, s.lastValidatedAt, s.organization⟩

/-- What the database is asked. -/
inductive Statement where
  | createTable
  | createIndex
  | probe
  | insert (row : Row)
  | find (organization id : Uuid)
  | findAll (organization : Uuid)
  | update (organization id : Uuid) (data : Text) (updatedAt lastValidatedAt : DateTime)

/-- What the database answers. -/
inductive Reply where
  | done
  | rows (rows : List Row)
  | changed (count : Nat)

namespace Row

/-- The row belongs to the organization and has the id. -/
def isAt (row : Row) (organization id : Uuid) : Bool :=
  row.organization = organization && row.id = id

/-- The row has the id or the key of another one. -/
def collides (row other : Row) : Bool := row.id = other.id || row.key = other.key

/-- The row with new data and times. -/
def revised (row : Row) (data : Text) (updatedAt lastValidatedAt : DateTime) : Row :=
  { row with data, updatedAt, lastValidatedAt }

end Row

namespace Statement

/-- The fault of an insertion whose id or key is taken. -/
def duplicate : Fault :=
  .failure Kind.uniqueViolation "duplicate key value violates unique constraint"

/-- Carries out a statement. -/
def run (statement : Statement) (table : Table) : Except Fault Reply × Table :=
  match statement with
  | .createTable | .createIndex | .probe => (.ok .done, table)
  | .insert row =>
    if table.any (·.collides row) then (.error duplicate, table)
    else (.ok (.changed 1), table ++ [row])
  | .find organization id => (.ok (.rows ((table.find? (·.isAt organization id)).toList)), table)
  | .findAll organization => (.ok (.rows (table.filter (·.organization = organization))), table)
  | .update organization id data updatedAt lastValidatedAt =>
    (.ok (.changed (table.countP (·.isAt organization id))),
      table.map fun row =>
        if row.isAt organization id then row.revised data updatedAt lastValidatedAt else row)

end Statement

end Entitlement
