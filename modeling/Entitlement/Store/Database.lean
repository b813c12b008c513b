import Entitlement.Store.Table

/-!
# The database and its connections

A database is reached through a pool of connections.  `Database.openPool` opens one, `Database.ask`
takes a connection and carries out a statement.  An `Outage` makes one stage of this fail with a
fault; a statement that fails is counted all the same.  That a pool is closed is counted but decides
nothing here: where a closed pool gives no connection, this is an outage that strikes acquiring.
-/

namespace Entitlement

/-- The stage that an outage strikes. -/
inductive OutageStage where
  | opening
  | acquiring
  /-- Every statement. -/
  | querying
  /-- The statement that makes the index, and no other one. -/
  | indexing
  deriving DecidableEq

/-- Whether a statement is carried out at the stage. -/
def OutageStage.covers : OutageStage → Statement → Bool
  | querying, _ => true
  | indexing, .createIndex => true
  | _, _ => false

/-- A stage fails with a fault. -/
structure Outage where
  stage : OutageStage
  fault : Fault

/-- How a pool is opened. -/
structure PoolSettings where
  dsn : Text
  minSize : Nat
  maxSize : Nat
  commandTimeout : Nat
  deriving DecidableEq

/-- The settings of a pool for an address. -/
def PoolSettings.standard (dsn : Text) : PoolSettings := ⟨dsn, 2, 10, 30⟩

/-- The state of the database as its client sees it. -/
structure Database where
  table : Table
  /-- Every attempt to open a pool. -/
  pools : List PoolSettings
  /-- Whether there is a pool to take connections from. -/
  hasPool : Bool
  /-- How often a pool was closed. -/
  closed : Nat
  /-- How many statements were sent. -/
  statements : Nat
  outage : Option Outage

namespace Database

/-- The fault of a stage, if an outage strikes it. -/
def faultAt (db : Database) (stage : OutageStage) : Option Fault :=
  match db.outage with
  | some outage => if outage.stage = stage then some outage.fault else none
  | none => none

/-- The fault that a statement meets, if an outage strikes it. -/
def faultOf (db : Database) (statement : Statement) : Option Fault :=
  match db.outage with
  | some outage => if outage.stage.covers statement then some outage.fault else none
  | none => none

/-- The fault of asking for a connection where there is no pool. -/
def noPool : Fault :=
  .failure Kind.attributeError "'NoneType' object has no attribute 'acquire'"

/-- Opens a pool. -/
def openPool (db : Database) (dsn : Text) : Except Fault Unit × Database :=
  let db := { db with pools := db.pools ++ [PoolSettings.standard dsn] }
  match db.faultAt .opening with
  | some fault => (.error fault, db)
  | none => (.ok (), { db with hasPool := true })

/-- Takes a connection. A closed pool gives one too, unless an outage is given for it. -/
def acquire (db : Database) : Except Fault Unit :=
  if db.hasPool then
    match db.faultAt .acquiring with
    | some fault => .error fault
    | none => .ok ()
  else .error noPool

/-- Sends a statement over a connection. -/
def send (db : Database) (statement : Statement) : Except Fault Reply × Database :=
  let db := { db with statements := db.statements + 1 }
  match db.faultOf statement with
  | some fault => (.error fault, db)
  | none =>
    let (reply, table) := statement.run db.table
    (reply, { db with table })

/-- Takes a connection and sends a statement. -/
def ask (db : Database) (statement : Statement) : Except Fault Reply × Database :=
  match db.acquire with
  | .ok () => db.send statement
  | .error fault => (.error fault, db)

/-- Closes the pool, which stays at hand. That it gives no connection from then on is for the outage
to say. -/
def closePool (db : Database) : Database := { db with closed := db.closed + 1 }

end Database

end Entitlement
