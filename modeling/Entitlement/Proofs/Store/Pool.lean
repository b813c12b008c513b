import Entitlement.Proofs.Authority.Perform
import Entitlement.Store.Basic

/-! # The pool of a store

A start opens a pool before it prepares the schema over it, so an outage behind the opening ends the
start with the pool at hand (`Store.start_exec`); nothing but an opening ever changes whether there
is one, and a stop closes the pool without giving it up. So through whatever life of starts, stops
and probes, a store has a pool just if some start got it opened (`Store.hasPool_lived`). A probe
answers for a store without a pool and for the failures that it expects, and lets any other failure
through (`Store.isHealthy_probed`). That a closed pool gives no connection is an outage like any
other. -/

namespace Entitlement

open Entitlement.Task

/-! ### What an outage does -/

/-- How many statements are sent to prepare the schema before an outage at the stage ends this. -/
def OutageStage.preparing : OutageStage → Nat
  | opening | acquiring => 0
  | querying => 1
  | indexing => 2

namespace Database

/-- The probe fails with the fault: no connection is given, or the statement fails. -/
def FailsWith (db : Database) (fault : Fault) : Prop :=
  db.outage = some ⟨.acquiring, fault⟩ ∨ db.outage = some ⟨.querying, fault⟩

theorem FailsWith.unique {db : Database} {fault fault' : Fault} (h : db.FailsWith fault)
    (h' : db.FailsWith fault') : fault = fault' := by
  rcases h with h | h <;> rcases h' with h' | h' <;> cases h.symm.trans h' <;> rfl

theorem FailsWith.foreign {db : Database} {fault : Fault} (h : db.FailsWith fault)
    (foreign : ∀ o ∈ db.outage, o.fault.Foreign) : fault.Foreign := by
  rcases h with h | h
  · exact foreign _ h
  · exact foreign _ h

/-- The probe is answered: there is a pool, and nothing fails over it. -/
def Responds (db : Database) : Prop := db.hasPool = true ∧ ∀ fault, ¬ db.FailsWith fault

/-- A start opens a pool for the address. -/
def isOpenable (db : Database) : Bool := !db.outage.any (·.stage = .opening)

/-- The database after a start. -/
def started (db : Database) (dsn : Text) : Database :=
  { db with
    pools := db.pools ++ [PoolSettings.standard dsn]
    hasPool := db.isOpenable || db.hasPool
    statements := db.statements + db.outage.elim 2 (·.stage.preparing) }

/-- **The probe over a pool** is answered, or it fails with the fault of the outage. -/
theorem ask_probe {db : Database} (pool : db.hasPool = true) :
    (db.Responds ∧ (db.ask .probe).1 = .ok .done) ∨
      ∃ fault, db.FailsWith fault ∧ (db.ask .probe).1 = .error fault := by
  obtain ⟨table, pools, hasPool, closed, statements, outage⟩ := db
  obtain rfl : hasPool = true := pool
  rcases outage with _ | ⟨stage, fault⟩
  · exact .inl ⟨⟨rfl, fun _ h => by rcases h with h | h <;> cases h⟩, rfl⟩
  · cases stage with
    | opening => exact .inl ⟨⟨rfl, fun _ h => by rcases h with h | h <;> cases h⟩, rfl⟩
    | acquiring => exact .inr ⟨fault, .inl rfl, rfl⟩
    | querying => exact .inr ⟨fault, .inr rfl, rfl⟩
    | indexing => exact .inl ⟨⟨rfl, fun _ h => by rcases h with h | h <;> cases h⟩, rfl⟩

theorem hasPool_ask (db : Database) (statement : Statement) :
    (db.ask statement).2.hasPool = db.hasPool := by
  unfold ask
  split
  · unfold send
    dsimp only
    split <;> rfl
  · rfl

theorem hasPool_started (db : Database) (dsn : Text) : (db.started dsn).hasPool = true ↔
    db.hasPool = true ∨ ∀ fault, db.outage ≠ some ⟨.opening, fault⟩ := by
  have hopen : db.isOpenable = true ↔ ∀ fault, db.outage ≠ some ⟨.opening, fault⟩ := by
    unfold isOpenable
    rcases db.outage with _ | ⟨stage, fault⟩
    · exact iff_of_true rfl nofun
    · cases stage with
      | opening => exact iff_of_false Bool.noConfusion fun h => h fault rfl
      | acquiring => exact iff_of_true rfl nofun
      | querying => exact iff_of_true rfl nofun
      | indexing => exact iff_of_true rfl nofun
  rw [← hopen, or_comm]
  exact Bool.or_eq_true_iff

/-- A start that an outage strikes leaves no pool just if the opening of the first one failed. -/
theorem hasPool_started_of_struck {db : Database} {outage : Outage}
    (struck : db.outage = some outage) (dsn : Text) :
    (db.started dsn).hasPool = false ↔ db.hasPool = false ∧ outage.stage = .opening := by
  have hopening : (∀ fault, db.outage ≠ some ⟨.opening, fault⟩) ↔ outage.stage ≠ .opening := by
    rw [struck]
    refine ⟨fun h hstage => h outage.fault (hstage ▸ rfl), fun h fault hsome => h ?_⟩
    rw [Option.some.inj hsome]
  rw [← Bool.not_eq_true, hasPool_started, hopening, not_or, not_not, Bool.not_eq_true]

end Database

/-- The session with this outage of the database, or with none. -/
def Session.facing (s : Session) (outage : Option Outage) : Session :=
  { s with database := { s.database with outage } }

namespace Store

/-! ### Starting and stopping -/

/-- The fault that a start fails with where an outage strikes. -/
def startError (fault : Fault) : Fault :=
  if fault.isOneOf outageFamilies then startFault fault else fault

theorem openAndPrepare_exec (dsn : Text) (s : Session) : (openAndPrepare dsn).exec s =
    (s.database.outage.elim (.ok ()) fun outage => .error outage.fault,
      { s with database := s.database.started dsn }) := by
  obtain ⟨environment, ⟨table, pools, hasPool, closed, statements, outage⟩, line, telemetry, fresh⟩ :=
    s
  rcases outage with _ | ⟨stage, fault⟩
  · rfl
  · cases stage <;> rfl

/-- **A start** fails just where an outage strikes, whatever its stage. It leaves a pool unless the
opening of one failed. -/
theorem start_exec (dsn : Text) (s : Session) :
    ((start dsn).exec s).1 =
        (s.database.outage.elim (.ok ()) fun outage => .error (startError outage.fault)) ∧
      ((start dsn).exec s).2.database = s.database.started dsn := by
  unfold start
  rw [exec_outcome_bind, openAndPrepare_exec]
  cases s.database.outage with
  | none => exact ⟨rfl, rfl⟩
  | some outage =>
    dsimp only [Option.elim, startError]
    split <;> exact ⟨rfl, rfl⟩

theorem stop_exec (s : Session) : (stop.exec s).1 = .ok () ∧
    (stop.exec s).2.database =
      if s.database.hasPool then s.database.closePool else s.database := by
  unfold stop
  rw [exec_get_bind]
  split <;> exact ⟨rfl, rfl⟩

/-! ### Probing -/

/-- What a probe comes to. -/
inductive Probed (db : Database) : Except Fault Bool → Prop where
  /-- There is no pool to take a connection from. -/
  | absent (none : db.hasPool = false) : Probed db (.ok false)
  | answered (responds : db.Responds) : Probed db (.ok true)
  /-- The failure is one that a probe answers for. -/
  | reported {fault : Fault} (pool : db.hasPool = true) (fails : db.FailsWith fault)
    (expected : fault.isOneOf outageFamilies = true) : Probed db (.ok false)
  /-- The failure is none that a probe answers for. -/
  | escaped {fault : Fault} (pool : db.hasPool = true) (fails : db.FailsWith fault)
    (unexpected : fault.isOneOf outageFamilies = false) : Probed db (.error fault)

theorem isHealthy_exec (s : Session) :
    (isHealthy.exec s).1 =
        (if s.database.hasPool then
          match (s.database.ask .probe).1 with
          | .ok _ => .ok true
          | .error fault => if fault.isOneOf outageFamilies then .ok false else .error fault
        else .ok false) ∧
      (isHealthy.exec s).2.database =
        (if s.database.hasPool then (s.database.ask .probe).2 else s.database) ∧
      (isHealthy.exec s).2.environment = s.environment := by
  unfold isHealthy
  rw [exec_get_bind]
  split
  · have hask : (Act.ask .probe).exec s = ((s.database.ask .probe).1,
        { s with database := (s.database.ask .probe).2 }) := rfl
    rw [exec_outcome_bind, hask]
    cases (s.database.ask .probe).1 with
    | ok reply => exact ⟨rfl, rfl, rfl⟩
    | error fault =>
      dsimp only
      split <;> exact ⟨rfl, rfl, rfl⟩
  · exact ⟨rfl, rfl, rfl⟩

/-- **A probe** comes to one of these four ends. -/
theorem isHealthy_probed (s : Session) : Probed s.database (isHealthy.exec s).1 := by
  rw [(isHealthy_exec s).1]
  cases pool : s.database.hasPool with
  | false => exact .absent pool
  | true =>
    rw [if_pos rfl]
    rcases Database.ask_probe pool with ⟨responds, hask⟩ | ⟨fault, fails, hask⟩
    · rw [hask]
      exact .answered responds
    · rw [hask]
      dsimp only
      split
      · next expected => exact .reported pool fails expected
      · next unexpected => exact .escaped pool fails (Bool.eq_false_iff.mpr unexpected)

theorem Probed.unique {db : Database} {e e' : Except Fault Bool} (h : Probed db e)
    (h' : Probed db e') : e = e' := by
  -- The pool tells the first end from the others, the fault tells those apart.
  cases h <;> cases h' <;> grind [Database.Responds, Database.FailsWith.unique]

theorem isHealthy_eq_iff {s : Session} {e : Except Fault Bool} :
    (isHealthy.exec s).1 = e ↔ Probed s.database e :=
  ⟨fun h => h ▸ isHealthy_probed s, fun h => (isHealthy_probed s).unique h⟩

theorem isHealthy_eq_true_iff {s : Session} :
    (isHealthy.exec s).1 = .ok true ↔ s.database.Responds := by
  rw [isHealthy_eq_iff]
  refine ⟨fun probed => ?_, .answered⟩
  cases probed with
  | answered responds => exact responds

theorem isHealthy_eq_false_iff {s : Session} : (isHealthy.exec s).1 = .ok false ↔
    s.database.hasPool = false ∨
      ∃ fault, s.database.FailsWith fault ∧ fault.isOneOf outageFamilies = true := by
  rw [isHealthy_eq_iff]
  constructor
  · intro probed
    cases probed with
    | absent none => exact .inl none
    | reported pool fails expected => exact .inr ⟨_, fails, expected⟩
  · intro h
    cases pool : s.database.hasPool with
    | false => exact .absent pool
    | true =>
      rcases h with none | ⟨fault, fails, expected⟩
      · exact absurd (none.symm.trans pool) Bool.noConfusion
      · exact .reported pool fails expected

theorem isHealthy_eq_error_iff {s : Session} {fault : Fault} :
    (isHealthy.exec s).1 = .error fault ↔ s.database.hasPool = true ∧
      s.database.FailsWith fault ∧ fault.isOneOf outageFamilies = false := by
  rw [isHealthy_eq_iff]
  constructor
  · intro probed
    cases probed with
    | escaped pool fails unexpected => exact ⟨pool, fails, unexpected⟩
  · rintro ⟨pool, fails, unexpected⟩
    exact .escaped pool fails unexpected

/-! ### The life of a store -/

/-- What is done with the pool of a store. -/
inductive Upkeep where
  | start (dsn : Text)
  | stop
  | probe

def Upkeep.act : Upkeep → Act Unit
  | start dsn => Store.start dsn
  | stop => Store.stop
  | probe => isHealthy >>= fun _ => pure ()

/-- A turn in the life of a store: what is done, and the outage meanwhile. -/
structure Turn where
  upkeep : Upkeep
  outage : Option Outage

namespace Turn

/-- The turn is a start that gets a pool opened. -/
def Opens (turn : Turn) : Prop :=
  ∃ dsn, turn.upkeep = .start dsn ∧ ∀ fault, turn.outage ≠ some ⟨.opening, fault⟩

/-- The session after the turn, however it ended. -/
def after (turn : Turn) (s : Session) : Session := (turn.upkeep.act.exec (s.facing turn.outage)).2

theorem hasPool_after (turn : Turn) (s : Session) :
    (turn.after s).database.hasPool = true ↔ s.database.hasPool = true ∨ turn.Opens := by
  obtain ⟨upkeep, outage⟩ := turn
  have hno : (∀ dsn, upkeep ≠ .start dsn) → ¬ Opens ⟨upkeep, outage⟩ := fun h hopens => by
    obtain ⟨dsn, hstart, -⟩ := hopens
    exact h dsn hstart
  unfold after
  cases upkeep with
  | start dsn =>
    have hopens : Opens ⟨.start dsn, outage⟩ ↔ ∀ fault, outage ≠ some ⟨.opening, fault⟩ :=
      ⟨fun ⟨_, _, h⟩ => h, fun h => ⟨dsn, rfl, h⟩⟩
    rw [hopens]
    dsimp only [Upkeep.act]
    rw [(start_exec dsn _).2]
    exact Database.hasPool_started ..
  | stop =>
    rw [or_iff_left (hno nofun)]
    dsimp only [Upkeep.act]
    rw [(stop_exec _).2]
    split <;> rfl
  | probe =>
    rw [or_iff_left (hno nofun)]
    dsimp only [Upkeep.act]
    rw [exec_discard, (isHealthy_exec _).2.1]
    split
    · rw [Database.hasPool_ask]
      rfl
    · rfl

end Turn

/-- The session after some turns, one after another. -/
def lived (life : List Turn) (s : Session) : Session := life.foldl (fun s turn => turn.after s) s

/-- **The pool outlives everything.** After any life, a store has a pool just if it had one before
or some start got one opened, whatever failed and was stopped since. -/
theorem hasPool_lived (life : List Turn) (s : Session) :
    (lived life s).database.hasPool = true ↔
      s.database.hasPool = true ∨ ∃ turn ∈ life, turn.Opens := by
  induction life generalizing s with
  | nil => simp [lived]
  | cons turn life ih =>
    have hcons : lived (turn :: life) s = lived life (turn.after s) := rfl
    rw [hcons, ih, turn.hasPool_after, or_assoc]
    simp only [List.mem_cons, exists_eq_or_imp]

end Store

end Entitlement
