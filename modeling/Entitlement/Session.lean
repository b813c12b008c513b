import Entitlement.Authority.Exchange
import Entitlement.Log
import Entitlement.Metrics.Basic
import Entitlement.Store.Database

/-!
# Sessions

A session is what an operation reads and what it leaves behind: the time and the dice, the database,
the line to the authority, the telemetry, and the identifier that is drawn next.  A `Task` on a
state either gives a value or fails, and the state it leaves is kept in both cases; an `Act` is a
task on a session.
-/

namespace Entitlement

/-- The time, and the outcome of the next throw between zero and one. -/
structure Environment where
  utc : DateTime
  clock : Binary64
  random : Binary64

/-- The log and the metrics. -/
structure Telemetry where
  context : Log.Context
  span : Option Log.Span
  records : List Members
  metrics : Metrics

/-- What an operation reads and leaves behind. -/
structure Session where
  environment : Environment
  database : Database
  line : Line
  telemetry : Telemetry
  /-- The identifier that is drawn next. -/
  fresh : Uuid := .first

/-- A computation on a state that may fail; the state is kept when it does. -/
abbrev Task (σ : Type) := ExceptT Fault (StateM σ)

namespace Task

/-- The outcome as a value. -/
def outcome {σ α : Type} (task : Task σ α) : Task σ (Except Fault α) :=
  ExceptT.mk fun s => ((.ok (task.run s).1, (task.run s).2) : Except Fault (Except Fault α) × σ)

/-- Goes on with an outcome. -/
def ofExcept {σ α : Type} (e : Except Fault α) : Task σ α := ExceptT.mk (pure e)

/-- A change of the state that gives a value or fails. -/
def step {σ α : Type} (f : σ → Except Fault α × σ) : Task σ α := ExceptT.mk f

end Task

/-- A task on a session. -/
abbrev Act := Task Session

namespace Session

/-- Adds the record of an entry to the log. -/
def log (entry : Log.Entry) (s : Session) : Session :=
  let t := s.telemetry
  { s with telemetry := { t with records := t.records ++ [Log.record t.context t.span entry] } }

def mapContext (f : Log.Context → Log.Context) (s : Session) : Session :=
  { s with telemetry := { s.telemetry with context := f s.telemetry.context } }

def mapMetrics (f : Metrics → Metrics) (s : Session) : Session :=
  { s with telemetry := { s.telemetry with metrics := f s.telemetry.metrics } }

/-- Waits, which takes no time here but is kept. -/
def sleep (delay : Binary64) (s : Session) : Session :=
  { s with line := { s.line with slept := s.line.slept ++ [delay] } }

end Session

namespace Act

/-- Writes to the log. -/
def log (logger : Text) (level : Log.Level) (event : Text) (fields : Members) : Act Unit :=
  modify (Session.log ⟨logger, level, event, fields⟩)

/-- The present. -/
def now : Act DateTime := do return (← get).environment.utc

/-- Changes the metrics. -/
def record (f : Metrics → Metrics) : Act Unit := modify (Session.mapMetrics f)

/-- An operation of the database. -/
def onDatabase {α : Type} (f : Database → Except Fault α × Database) : Act α :=
  Task.step fun s =>
    let (result, database) := f s.database
    (result, { s with database })

/-- Takes a connection and sends a statement. -/
def ask (statement : Statement) : Act Reply := onDatabase (·.ask statement)

end Act

end Entitlement
