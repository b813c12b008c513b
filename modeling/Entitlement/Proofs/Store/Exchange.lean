import Entitlement.Proofs.Session.Run
import Entitlement.Proofs.Store.Table
import Entitlement.Store.Basic

/-! # The operations of the store, one statement each

An operation of the store takes a connection and sends at most one statement. `Database.write` is
what happens to the database when data is written, and `create_exec`, `get_exec`, `getAll_exec`,
`update_exec` give the outcome of each operation as a function of the reply alone (`afterCreate`,
`afterGet`, `afterGetAll`, `afterUpdate`); the log aside, nothing but the database is touched. -/

namespace Entitlement

namespace Database

/-- Takes a connection and sends a statement that writes the data. -/
def write (db : Database) (data : Json) (statement : Statement) : Except Fault Reply × Database :=
  match db.acquire with
  | .error fault => (.error fault, db)
  | .ok () =>
    match data.checkWritable with
    | .error fault => (.error fault, db)
    | .ok () => db.send statement

/-- The database takes a connection and carries out what it is sent. -/
structure Answers (db : Database) : Prop where
  pool : db.hasPool = true
  outage : db.outage = none

theorem Answers.acquire {db : Database} (h : Answers db) : db.acquire = .ok () := by
  simp [Database.acquire, faultAt, h.pool, h.outage]

theorem Answers.send {db : Database} (h : Answers db) (statement : Statement) :
    db.send statement = ((statement.run db.table).1,
      { db with table := (statement.run db.table).2, statements := db.statements + 1 }) := by
  simp [Database.send, faultOf, h.outage]

theorem Answers.ask {db : Database} (h : Answers db) (statement : Statement) :
    db.ask statement = db.send statement := by
  simp [Database.ask, h.acquire]

/-- A statement that fails changes nothing in the table, and one that is sent is carried out. -/
theorem send_cases (db : Database) (statement : Statement) :
    ((db.send statement).1 = (statement.run db.table).1 ∧
      (db.send statement).2.table = (statement.run db.table).2) ∨
    ∃ fault, (db.send statement).1 = .error fault ∧ (db.send statement).2.table = db.table := by
  unfold send
  dsimp only
  split
  · next fault _ => exact .inr ⟨fault, rfl, rfl⟩
  · exact .inl ⟨rfl, rfl⟩

theorem ask_cases (db : Database) (statement : Statement) :
    ((db.ask statement).1 = (statement.run db.table).1 ∧
      (db.ask statement).2.table = (statement.run db.table).2) ∨
    ∃ fault, (db.ask statement).1 = .error fault ∧ (db.ask statement).2.table = db.table := by
  unfold ask
  split
  · exact send_cases db statement
  · next fault _ => exact .inr ⟨fault, rfl, rfl⟩

theorem write_cases (db : Database) (data : Json) (statement : Statement) :
    (data.checkWritable = .ok () ∧ (db.write data statement).1 = (statement.run db.table).1 ∧
      (db.write data statement).2.table = (statement.run db.table).2) ∨
    ∃ fault, (db.write data statement).1 = .error fault ∧
      (db.write data statement).2.table = db.table := by
  unfold write
  split
  · next fault _ => exact .inr ⟨fault, rfl, rfl⟩
  · split
    · next fault _ => exact .inr ⟨fault, rfl, rfl⟩
    · next h => exact (send_cases db statement).imp_left fun hs => ⟨h, hs⟩

theorem Answers.write {db : Database} (h : Answers db) (data : Json) (statement : Statement) :
    db.write data statement =
      match data.checkWritable with
      | .error fault => (.error fault, db)
      | .ok () => db.send statement := by
  rw [Database.write, h.acquire]

end Database

namespace Store

open Entitlement.Task

theorem write_exec (data : Json) (statement : Statement) (s : Session) :
    (write data statement).exec s =
      ((s.database.write data statement).1,
        { s with database := (s.database.write data statement).2 }) := by
  unfold write Database.write
  rw [exec_bind, Act.exec_onDatabase]
  cases s.database.acquire with
  | error fault => rfl
  | ok u =>
    dsimp only
    rw [exec_ofExcept_bind]
    cases data.checkWritable <;> rfl

theorem ask_exec (statement : Statement) (s : Session) :
    (Act.ask statement).exec s =
      ((s.database.ask statement).1, { s with database := (s.database.ask statement).2 }) := rfl

/-! ### What an operation makes of a reply -/

/-- The outcome of storing a new license. -/
def afterCreate (stored : StoredLicense) : Except Fault Reply → Except Fault Unit
  | .ok _ => .ok ()
  | .error fault =>
    .error (if fault.isOneOf [Kind.uniqueViolation.name] then taken stored.id else fault)

/-- The outcome of looking for a license. -/
def afterGet (organization id : Uuid) : Except Fault Reply → Except Fault StoredLicense
  | .error fault => .error fault
  | .ok reply =>
    match rowsOf reply with
    | row :: _ => ofRow row
    | [] => .error (missing organization id)

/-- The outcome of looking for all licenses. -/
def afterGetAll : Except Fault Reply → Except Fault (List StoredLicense)
  | .error fault => .error fault
  | .ok reply => (rowsOf reply).mapM ofRow

/-- The outcome of writing a stored license. -/
def afterUpdate (organization id : Uuid) : Except Fault Reply → Except Fault Unit
  | .error fault => .error fault
  | .ok (.changed 1) => .ok ()
  | .ok _ => .error (missing organization id)

theorem create_exec (stored : StoredLicense) (s : Session) :
    ((create stored).exec s).1 =
        afterCreate stored (s.database.write stored.data (.insert stored.row)).1 ∧
      ((create stored).exec s).2.database =
        (s.database.write stored.data (.insert stored.row)).2 ∧
      ((create stored).exec s).2.environment = s.environment := by
  unfold create
  dsimp only
  rw [exec_outcome_bind, write_exec]
  dsimp only
  cases h : (s.database.write stored.data (.insert stored.row)).1 with
  | ok reply => exact ⟨rfl, rfl, rfl⟩
  | error fault =>
    dsimp only [afterCreate]
    split <;> exact ⟨rfl, rfl, rfl⟩

theorem get_exec (organization id : Uuid) (s : Session) :
    (get organization id).exec s =
      (afterGet organization id (s.database.ask (.find organization id)).1,
        { s with database := (s.database.ask (.find organization id)).2 }) := by
  unfold get
  rw [exec_bind, ask_exec]
  cases h : (s.database.ask (.find organization id)).1 with
  | error fault => rfl
  | ok reply =>
    dsimp only [afterGet]
    cases rowsOf reply <;> rfl

theorem getAll_exec (organization : Uuid) (s : Session) :
    (getAll organization).exec s =
      (afterGetAll (s.database.ask (.findAll organization)).1,
        { s with database := (s.database.ask (.findAll organization)).2 }) := by
  unfold getAll
  rw [exec_bind, ask_exec]
  cases h : (s.database.ask (.findAll organization)).1 <;> rfl

/-- The statement that writes a stored license at a moment. -/
def revisingAt (organization : Uuid) (stored : StoredLicense) (now : DateTime) : Statement :=
  revising organization (touched stored now)

theorem update_exec (organization : Uuid) (stored : StoredLicense) (s : Session) :
    ((update organization stored).exec s).1 = afterUpdate organization stored.id
        (s.database.write stored.data (revisingAt organization stored s.environment.utc)).1 ∧
      ((update organization stored).exec s).2.database =
        (s.database.write stored.data (revisingAt organization stored s.environment.utc)).2 ∧
      ((update organization stored).exec s).2.environment = s.environment := by
  unfold update revisingAt
  rw [Act.exec_now_bind, exec_bind, write_exec]
  rcases (s.database.write stored.data
    (revising organization (touched stored s.environment.utc))).1 with fault | _ | rows | n
  · exact ⟨rfl, rfl, rfl⟩
  · exact ⟨rfl, rfl, rfl⟩
  · exact ⟨rfl, rfl, rfl⟩
  · by_cases hn : n = 1
    · subst hn
      exact ⟨rfl, rfl, rfl⟩
    · dsimp only [afterUpdate]
      split <;> split <;> simp_all

end Store

end Entitlement
