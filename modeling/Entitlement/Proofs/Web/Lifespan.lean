import Entitlement.Proofs.Store.Pool
import Entitlement.Proofs.Web.Health

/-! # The life of the application

The application starts its store, serves, and stops the store whatever came of serving
(`App.lifespan_exec`). Where the start fails, nothing is stopped: what the start left behind stays.
That is nothing just if the opening of the pool failed; an outage behind it leaves a pool that
nothing closes (`App.failed_start_leaves_nothing_iff`). -/

namespace Entitlement

open Entitlement.Task

namespace Store

theorem startError_isInternal_iff {fault : Fault} (foreign : fault.Foreign) :
    (∃ message details, startError fault = .internal message details) ↔
      fault.isOneOf outageFamilies = true := by
  unfold startError
  split
  · next expected => exact iff_of_true ⟨_, _, rfl⟩ expected
  · next unexpected =>
    refine iff_of_false ?_ unexpected
    rintro ⟨message, details, rfl⟩
    exact foreign.elim

theorem isHealthy_facing_none (s : Session) :
    (isHealthy.exec (s.facing none)).1 = .ok s.database.hasPool := by
  cases pool : s.database.hasPool with
  | false => exact isHealthy_eq_false_iff.mpr (.inl pool)
  | true =>
    have responds : (s.facing none).database.Responds :=
      ⟨pool, fun _ fails => by rcases fails with h | h <;> cases h⟩
    exact isHealthy_eq_true_iff.mpr responds

theorem isHealthy_eq_false_forever_iff {s : Session} :
    (∀ outage, (isHealthy.exec (s.facing outage)).1 = .ok false) ↔ s.database.hasPool = false := by
  refine ⟨fun always => ?_, fun none _ => isHealthy_eq_false_iff.mpr (.inl none)⟩
  exact Except.ok.inj ((isHealthy_facing_none s).symm.trans (always none))

end Store

namespace Web.App

variable (app : App)

/-! ### Starting, serving, stopping -/

theorem start_of_error {service : Service} (managed : app.licensing = some ⟨service, .managed⟩)
    {s failed : Session} {fault : Fault}
    (h : (Store.start app.settings.postgresDsn).exec s = (.error fault, failed)) :
    app.start.exec s = (.error fault, failed) := by
  have hparts : app.start = (do
      Store.start app.settings.postgresDsn
      Service.start
      Act.log app.logger .info "Licensing service started" []) := by
    unfold start
    rw [managed]
    rfl
  rw [hparts]
  exact exec_bind_error h _

theorem stop_succeeds {service : Service} (managed : app.licensing = some ⟨service, .managed⟩)
    (s : Session) : (app.stop.exec s).1 = .ok () := by
  have hparts : app.stop = (do
      Service.stop
      Store.stop
      Act.log app.logger .info "Licensing service stopped" []) := by
    unfold stop
    rw [managed]
    rfl
  obtain ⟨s', hservice⟩ : ∃ s', Service.stop.exec s = (.ok (), s') := ⟨_, rfl⟩
  rw [hparts, exec_bind_ok hservice, exec_bind_ok (Prod.ext (Store.stop_exec s').1 rfl)]
  rfl

/-- **The life of the application.** After a start that fails nothing is served or stopped. After
any other, the application is stopped, and what came of serving is passed on. -/
theorem lifespan_exec {service : Service} (managed : app.licensing = some ⟨service, .managed⟩)
    {α : Type} (serving : Act α) (s : Session) :
    (app.lifespan serving).exec s =
      match app.start.exec s with
      | (.error fault, failed) => (.error fault, failed)
      | (.ok (), started) =>
        ((serving.exec started).1, (app.stop.exec (serving.exec started).2).2) := by
  unfold lifespan
  rcases hstart : app.start.exec s with ⟨fault | ⟨⟩, s'⟩
  · exact exec_bind_error hstart _
  · rw [exec_bind_ok hstart, exec_outcome_bind,
      exec_bind_ok (Prod.ext (app.stop_succeeds managed _) rfl)]
    rfl

theorem lifespan_of_error {service : Service} (managed : app.licensing = some ⟨service, .managed⟩)
    {α : Type} (serving : Act α) {s failed : Session} {fault : Fault}
    (h : (Store.start app.settings.postgresDsn).exec s = (.error fault, failed)) :
    (app.lifespan serving).exec s = (.error fault, failed) := by
  rw [app.lifespan_exec managed, app.start_of_error managed h]

/-! ### A start that fails -/

/-- **What a failed start leaves.** Whatever the store has been through, an outage of any stage ends
a start of it, and the application with it: nothing is served, nothing is stopped, and no pool is
closed. The start is refused with an internal error just if the database or the system reports the
failure. It leaves no pool just if there was none and the opening failed; else there is one, and the
probe over it says yes once there is no outage. That a pool closed before gives no connection counts
as an outage here. -/
theorem failed_start_leaves_nothing_iff {service : Service}
    (managed : app.licensing = some ⟨service, .managed⟩) {α : Type} (serving : Act α) (s : Session)
    {outage : Outage} (struck : s.database.outage = some outage) (foreign : outage.fault.Foreign) :
    let start := (Store.start app.settings.postgresDsn).exec s
    let left := start.2.database
    start.1 = .error (Store.startError outage.fault) ∧
      (app.lifespan serving).exec s = (.error (Store.startError outage.fault), start.2) ∧
      left.closed = s.database.closed ∧
      (left.hasPool = false ↔ s.database.hasPool = false ∧ outage.stage = .opening) ∧
      (Store.isHealthy.exec (start.2.facing none)).1 = .ok left.hasPool ∧
      ((∃ message details, start.1 = .error (.internal message details)) ↔
        outage.fault.isOneOf Store.outageFamilies = true) ∧
      ((∃ message details, start.1 = .error (.internal message details)) ∧
          (left.hasPool = false ∨ s.database.closed < left.closed) ∧
          (∀ later, (Store.isHealthy.exec (start.2.facing later)).1 = .ok false) ↔
        outage.fault.isOneOf Store.outageFamilies = true ∧ s.database.hasPool = false ∧
          outage.stage = .opening) := by
  intro start left
  have hstart : start.1 = .error (Store.startError outage.fault) := by
    rw [(Store.start_exec _ s).1, struck]
    rfl
  have hdatabase : left = s.database.started app.settings.postgresDsn := (Store.start_exec _ s).2
  have hclosed : left.closed = s.database.closed := by
    rw [hdatabase]
    rfl
  have hpool : left.hasPool = false ↔ s.database.hasPool = false ∧ outage.stage = .opening := by
    rw [hdatabase]
    exact Database.hasPool_started_of_struck struck _
  have hinternal : (∃ message details, start.1 = .error (.internal message details)) ↔
      outage.fault.isOneOf Store.outageFamilies = true := by
    rw [hstart, ← Store.startError_isInternal_iff foreign]
    simp only [Except.error.injEq]
  refine ⟨hstart, app.lifespan_of_error managed serving (Prod.ext hstart rfl), hclosed, hpool,
    Store.isHealthy_facing_none _, hinternal, ?_⟩
  -- As no pool was closed, nothing is left open only where there is no pool.
  rw [hinternal, Store.isHealthy_eq_false_forever_iff, hclosed, hpool]
  constructor
  · rintro ⟨expected, -, none, opening⟩
    exact ⟨expected, none, opening⟩
  · rintro ⟨expected, none, opening⟩
    exact ⟨expected, .inl ⟨none, opening⟩, none, opening⟩

/-! ### A start that leaves a pool -/

/-- The database goes down once a pool is open. -/
def downOutage : Outage := ⟨.querying, .failure (Kind.within [] "PostgresError") "pg down"⟩

/-- The session of a new store with that outage. -/
def downSession : Session := unstarted.facing downOutage

/-- The start is refused there. The pool that it leaves was never closed, and the probe over it says
yes once the database is up again. -/
theorem downSession_keeps_pool :
    let start := (Store.start managedApp.settings.postgresDsn).exec downSession
    managedApp.licensing = some ⟨Write.plainService, .managed⟩ ∧
      downSession.database.outage = some downOutage ∧ downOutage.fault.Foreign ∧
      (∃ message details, start.1 = .error (.internal message details)) ∧
      start.2.database.hasPool = true ∧
      start.2.database.closed = downSession.database.closed ∧
      (Store.isHealthy.exec (start.2.facing none)).1 = .ok true := by
  intro start
  have foreign : downOutage.fault.Foreign := trivial
  obtain ⟨-, -, closed, left, healthy, internal, -⟩ :=
    failed_start_leaves_nothing_iff managedApp rfl (pure ()) downSession rfl foreign
  have later : downOutage.stage ≠ .opening := by decide
  have pool : start.2.database.hasPool = true :=
    Bool.eq_true_of_not_eq_false fun none => later (left.mp none).2
  exact ⟨rfl, rfl, foreign, internal.mpr (by decide), pool, closed,
    healthy.trans (congrArg Except.ok pool)⟩

/-- While the schema cannot be prepared, a start fails and keeps the pool that it opened, and the
probe says yes once the database is up again. -/
theorem not_every_failed_start_leaves_nothing :
    ¬ ∀ (dsn : Text) (s : Session) (outage : Outage), s.database.outage = some outage →
        outage.fault.Foreign → s.database.hasPool = false →
        let start := (Store.start dsn).exec s
        (∃ message details, start.1 = .error (.internal message details)) ∧
          (start.2.database.hasPool = false ∨ s.database.closed < start.2.database.closed) ∧
          (Store.isHealthy.exec (start.2.facing none)).1 = .ok false := by
  intro always
  obtain ⟨-, -, healthy⟩ := always "" downSession _ rfl trivial rfl
  have hpool := Store.isHealthy_facing_none ((Store.start "").exec downSession).2
  rw [healthy] at hpool
  cases hpool

end Web.App

end Entitlement
