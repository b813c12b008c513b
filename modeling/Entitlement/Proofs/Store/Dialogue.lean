import Entitlement.Proofs.Session.Offline
import Entitlement.Proofs.Store.Exchange

/-! # Dialogues with the store

A *dialogue* is what an act asks of the table, one statement after another, up to its outcome
(`Dialogue`). An act *follows* a dialogue in a session if it sends just these statements and goes on
with their replies alone, whatever the table is by the time a statement is carried out
(`Act.Follows`); between two of its statements other acts may have theirs carried out. An act that
meets one table from start to end has the outcome and leaves the table that the dialogue has with
that table (`Follows.exec`). -/

namespace Entitlement

open Entitlement.Task

/-- What is asked of the table, one statement after another, up to an outcome. -/
inductive Dialogue (α : Type) where
  | done (outcome : Except Fault α)
  | ask (statement : Statement) (next : Except Fault Reply → Dialogue α)

namespace Dialogue

variable {α : Type}

/-- The dialogue with a table that nothing else changes: the outcome, and the table afterwards. -/
def on : Dialogue α → Table → Except Fault α × Table
  | done outcome, table => (outcome, table)
  | ask statement next, table => (next (statement.run table).1).on (statement.run table).2

theorem on_ask (statement : Statement) (next : Except Fault Reply → Dialogue α) (table : Table) :
    (ask statement next).on table =
      (next (statement.run table).1).on (statement.run table).2 := rfl

/-- What can be left of a dialogue after some replies. -/
inductive Rest : Dialogue α → Dialogue α → Prop where
  | refl (d : Dialogue α) : Rest d d
  | reply {statement : Statement} {next : Except Fault Reply → Dialogue α} {e : Dialogue α}
    (reply : Except Fault Reply) (h : Rest (next reply) e) : Rest (.ask statement next) e

theorem Rest.of_done {outcome : Except Fault α} {e : Dialogue α} (h : Rest (.done outcome) e) :
    e = .done outcome := by
  cases h
  rfl

end Dialogue

/-- The session with another database. -/
def Session.over (s : Session) (db : Database) : Session := { s with database := db }

theorem Database.Answers.of_send {db : Database} (h : db.Answers) (statement : Statement) :
    (db.send statement).2.Answers := by
  rw [h.send]
  exact ⟨h.pool, h.outage⟩

namespace Act

variable {α β : Type}

/-- **The act asks what the dialogue asks.** It goes on with the reply alone: neither what is left
of the act nor its session depends on the table behind the reply. -/
inductive Follows : Act α → Session → Dialogue α → Prop where
  | done {act : Act α} {s : Session} {outcome : Except Fault α}
    (ends : ∀ db, db.Answers → (act.exec (s.over db)).1 = outcome ∧
      (act.exec (s.over db)).2.database = db) :
    Follows act s (.done outcome)
  | ask {act : Act α} {s : Session} {statement : Statement}
    {next : Except Fault Reply → Dialogue α} (rest : Except Fault Reply → Act α)
    (after : Except Fault Reply → Session)
    (sends : ∀ db, db.Answers →
      (act.exec (s.over db)).1 = ((rest (db.send statement).1).exec
        ((after (db.send statement).1).over (db.send statement).2)).1 ∧
      (act.exec (s.over db)).2.database = ((rest (db.send statement).1).exec
        ((after (db.send statement).1).over (db.send statement).2)).2.database)
    (goes : ∀ reply, Follows (rest reply) (after reply) (next reply)) :
    Follows act s (.ask statement next)

/-- **On one table an act does what its dialogue does.** -/
theorem Follows.exec {act : Act α} {s : Session} {d : Dialogue α} (h : Follows act s d)
    {db : Database} (answers : db.Answers) :
    (act.exec (s.over db)).1 = (d.on db.table).1 ∧
      (act.exec (s.over db)).2.database.table = (d.on db.table).2 := by
  induction h generalizing db with
  | done ends =>
    obtain ⟨h1, h2⟩ := ends db answers
    exact ⟨h1, by rw [h2]; rfl⟩
  | @ask act s statement next rest after sends goes ih =>
    obtain ⟨h1, h2⟩ := sends db answers
    have hrun : (db.send statement).1 = (statement.run db.table).1 ∧
        (db.send statement).2.table = (statement.run db.table).2 := by
      rw [answers.send]
      exact ⟨rfl, rfl⟩
    obtain ⟨h3, h4⟩ := ih (db.send statement).1 (answers.of_send statement)
    rw [h1, h2, h3, h4, Dialogue.on_ask, hrun.1, hrun.2]
    exact ⟨rfl, rfl⟩

/-- What comes offline first takes no part in the dialogue. -/
theorem Follows.of_offline {act : Act β} {next : β → Act α} {s s' : Session} {b : β}
    {d : Dialogue α} (offline : Offline act) (he : act.exec s = (.ok b, s'))
    (h : Follows (next b) s' d) : Follows (act >>= next) s d := by
  have hexec : ∀ db, (act >>= next).exec (s.over db) = (next b).exec (s'.over db) := by
    intro db
    have hs := offline s db
    rw [he] at hs
    exact exec_bind_ok hs next
  cases h with
  | done ends =>
    refine .done fun db answers => ?_
    rw [hexec]
    exact ends db answers
  | ask rest after sends goes =>
    refine .ask rest after (fun db answers => ?_) goes
    rw [hexec]
    exact sends db answers

theorem Follows.of_offline_error {act : Act β} {next : β → Act α} {s s' : Session} {fault : Fault}
    (offline : Offline act) (he : act.exec s = (.error fault, s')) :
    Follows (act >>= next) s (.done (.error fault)) := by
  refine .done fun db _ => ?_
  have hs := offline s db
  rw [he] at hs
  rw [show (act >>= next).exec (s.over db) = (.error fault, { s' with database := db }) from
    exec_bind_error hs next]
  exact ⟨rfl, rfl⟩

end Act

end Entitlement
