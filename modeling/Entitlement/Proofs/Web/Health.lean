import Entitlement.Proofs.Authority.Perform
import Entitlement.Proofs.Json.Joined
import Entitlement.Proofs.Store.Pool
import Entitlement.Proofs.Web.Malformed

/-! # What the health route tells

The health route probes the store and tells the verdict in a report (`App.health_exec`). The report
is written if what it says of the application itself can be (`App.Reports`); a failure that goes
through the probe goes through the route as well, and the response is an internal error. So the
route tells the health of the database exactly as far as the probe answers for its failures, in
whatever state earlier starts and stops have left the store (`App.health_is_told_iff`). -/

namespace Entitlement

namespace Web

open Entitlement.Task

namespace App

variable (app : App)

/-! ### The route -/

theorem route_health {request : HttpRequest} (method : request.method = ("GET" : Text))
    (path : request.path = ("/health" : Text)) : app.route request = app.health := by
  have hall : ∀ pages ∈ [[], Route.pages], ∀ more ∈ [[], Route.licensing],
      Route.destination (Route.description ++ pages ++ Route.common ++ more) "GET" "/health" =
        .endpoint .health := by
    decide +kernel
  have hroutes : Route.destination app.routes "GET" "/health" = .endpoint .health := by
    unfold routes
    refine hall _ ?_ _ ?_
    · cases app.isLocal <;> simp
    · cases app.licensing.isSome <;> simp
  unfold route
  rw [method, path, hroutes]
  rfl

theorem closing_foreign {fault : Fault} (h : fault.Foreign) :
    closing (.error fault) = .internalError := by
  cases fault with
  | refusal _ => exact h.elim
  | exhausted _ _ _ => exact h.elim
  | mismatch _ => rfl
  | failure _ _ => rfl

theorem status_inj : ∀ healthy b : Bool,
    (if healthy then 200 else 503 : Int) = (if b then 200 else 503) ↔ healthy = b := by
  decide

/-! ### The report -/

/-- What is reported on a verdict at a time of the clock. -/
def report (healthy : Bool) (clock : Binary64) : Json :=
  .object [("service", .string app.settings.serviceName),
    ("status", .string (if healthy then "ok" else "degraded")),
    ("uptime_seconds", .float (clock - app.startedAt)),
    ("dependencies", .object [("postgres", .string (if healthy then "ok" else "error"))]),
    ("version", .string version), ("commit", .string app.commit)]

/-- What is reported of the application itself can be written: its name, its commit, and the time
since its start. -/
def Reports (clock : Binary64) : Prop :=
  app.settings.serviceName.isScalar = true ∧ app.commit.isScalar = true ∧
    (clock - app.startedAt).isFinite = true

theorem report_isStrict (healthy : Bool) (clock : Binary64) :
    (app.report healthy clock).isStrict = true ↔ app.Reports clock := by
  have hword (b : Bool) (s t : String) :
      Text.isScalar (if b then (s : Text) else (t : Text)) = true := by
    cases b <;> exact Text.isScalar_ofString _
  unfold report Reports
  simp only [Json.isStrict, Json.membersStrict, Text.isScalar_ofString, hword, version,
    Bool.and_true, Bool.true_and, Bool.and_eq_true]
  tauto

theorem report_fits (healthy : Bool) (clock : Binary64) :
    (app.report healthy clock).Fits Json.Reader.depthLimit := by
  have hnames : List.Nodup (["service", "status", "uptime_seconds", "dependencies", "version",
      "commit"] : List Text) := by
    decide
  refine .object hnames fun m hm => ?_
  simp only [List.mem_cons, List.not_mem_nil, or_false] at hm
  rcases hm with rfl | rfl | rfl | rfl | rfl | rfl
  case inr.inr.inr.inl =>
    refine .object (List.nodup_singleton _) fun m hm => ?_
    rw [List.mem_singleton.mp hm]
    exact .scalar rfl
  all_goals exact .scalar rfl

/-- **A report** on a verdict leaves as it is, if what it says of the application can be written,
and as an internal error otherwise. -/
theorem closing_report (healthy : Bool) (clock : Binary64) :
    (app.Reports clock ∧ ∃ body,
      closing (HttpResponse.json (if healthy then 200 else 503) (app.report healthy clock)) =
        ⟨if healthy then 200 else 503, some HttpResponse.jsonType, body⟩ ∧
      Json.decode body = .ok (app.report healthy clock)) ∨
    (¬ app.Reports clock ∧
      closing (HttpResponse.json (if healthy then 200 else 503) (app.report healthy clock)) =
        .internalError) := by
  rcases HttpResponse.json_cases (if healthy then 200 else 503) (app.report healthy clock) with
    ⟨strict, hjson⟩ | ⟨strict, kind, message, hjson⟩
  · rw [hjson, closing_ok]
    exact .inl ⟨(app.report_isStrict healthy clock).mp strict, _, rfl,
      Json.decode_response (app.report_fits healthy clock) rfl⟩
  · rw [hjson, closing_failure]
    refine .inr ⟨fun reports => ?_, rfl⟩
    rw [(app.report_isStrict healthy clock).mpr reports] at strict
    cases strict

/-- What the health route answers on a verdict of the probe. -/
def healthOf (verdict : Except Fault Bool) (clock : Binary64) : Except Fault HttpResponse :=
  verdict >>= fun healthy =>
    HttpResponse.json (if healthy then 200 else 503) (app.report healthy clock)

/-- A response tells the verdict of a probe, if it reports one. -/
structure Tells (verdict : Except Fault Bool) (clock : Binary64) (response : HttpResponse) :
    Prop where
  status : ∀ healthy : Bool, response.status = (if healthy then 200 else 503) ↔
    verdict = .ok healthy ∧ app.Reports clock
  body : ∀ healthy : Bool, response.status = (if healthy then 200 else 503) →
    response.contentType = some HttpResponse.jsonType ∧
      Json.decode response.body = .ok (app.report healthy clock)
  otherwise : response.status ≠ 200 → response.status ≠ 503 → response = .internalError

theorem internalError_tells {verdict : Except Fault Bool} {clock : Binary64}
    (h : ∀ healthy, ¬ (verdict = .ok healthy ∧ app.Reports clock)) :
    app.Tells verdict clock .internalError := by
  have hstatus (b : Bool) : HttpResponse.internalError.status ≠ if b then 200 else 503 := by
    cases b <;> decide
  exact ⟨fun b => iff_of_false (hstatus b) (h b), fun b hb => absurd hb (hstatus b),
    fun _ _ => rfl⟩

theorem closing_healthOf {verdict : Except Fault Bool} (clock : Binary64)
    (escapes : ∀ fault, verdict = .error fault → fault.Foreign) :
    app.Tells verdict clock (closing (app.healthOf verdict clock)) := by
  rcases verdict with fault | healthy
  · rw [show app.healthOf (.error fault) clock = .error fault from rfl,
      closing_foreign (escapes fault rfl)]
    exact app.internalError_tells fun _ h => nomatch h.1
  · rw [show app.healthOf (.ok healthy) clock = HttpResponse.json (if healthy then 200 else 503)
      (app.report healthy clock) from rfl]
    rcases app.closing_report healthy clock with
      ⟨reports, body, hclosing, hdecode⟩ | ⟨unreportable, hclosing⟩
    · rw [hclosing]
      have hverdict (b : Bool) : (if healthy then 200 else 503 : Int) = (if b then 200 else 503) ↔
          (Except.ok healthy : Except Fault Bool) = .ok b := by
        rw [status_inj, Except.ok.injEq]
      refine ⟨fun b => (hverdict b).trans (and_iff_left reports).symm, fun b h => ?_,
        fun h h' => ?_⟩
      · obtain rfl : healthy = b := (status_inj healthy b).mp h
        exact ⟨rfl, hdecode⟩
      · cases healthy
        · exact absurd rfl h'
        · exact absurd rfl h
    · rw [hclosing]
      exact app.internalError_tells fun _ h => unreportable h.2

/-- **The health route** tells the verdict of the probe, and fails as the probe does. -/
theorem health_exec {service : Service} (managed : app.licensing = some ⟨service, .managed⟩)
    (s : Session) : (app.health.exec s).1 =
      app.healthOf (Store.isHealthy.exec s).1 s.environment.clock := by
  have henvironment := (Store.isHealthy_exec s).2.2
  unfold health dependencies
  rw [managed]
  dsimp only
  rcases hprobe : Store.isHealthy.exec s with ⟨fault | healthy, s'⟩
  · rw [exec_bind_error (exec_bind_error hprobe _)]
    rfl
  · rw [hprobe] at henvironment
    dsimp only at henvironment
    rw [exec_bind_ok (exec_bind_ok hprobe _), exec_get_bind, exec_ofExcept, henvironment]
    cases healthy <;> rfl

/-- **How far the health is told.** Whatever starts, stops and probes a store has been through, with
whatever outages, and whatever outage there is now: the probe says yes just if it is answered, and
no if there is no pool or the database or the system reports the failure; any other failure goes
through it. A request for the health is answered with success for a yes and as unavailable for a no,
with that verdict in its report, if the report can be written; else the response is an internal
error. -/
theorem health_is_told_iff {service : Service} (managed : app.licensing = some ⟨service, .managed⟩)
    {request : HttpRequest} (method : request.method = ("GET" : Text))
    (path : request.path = ("/health" : Text)) (life : List Store.Turn) (s : Session)
    {outage : Option Outage} (foreign : ∀ o ∈ outage, o.fault.Foreign) :
    let now := (Store.lived life s).facing outage
    let verdict := (Store.isHealthy.exec now).1
    (now.database.hasPool = true ↔ s.database.hasPool = true ∨ ∃ turn ∈ life, turn.Opens) ∧
      (verdict = .ok true ↔ now.database.Responds) ∧
      (verdict = .ok false ↔ now.database.hasPool = false ∨
        ∃ fault, now.database.FailsWith fault ∧ fault.isOneOf Store.outageFamilies = true) ∧
      (∀ fault, verdict = .error fault ↔ now.database.hasPool = true ∧
        now.database.FailsWith fault ∧ fault.isOneOf Store.outageFamilies = false) ∧
      ∃ response, ((app.handle request).exec now).1 = .ok response ∧
        app.Tells verdict now.environment.clock response := by
  intro now verdict
  have hhead : request.method ≠ ("HEAD" : Text) := by
    rw [method]
    decide
  -- The request has entered before the probe, which sees the same database for all that.
  have hentered : (Store.isHealthy.exec (entered request now)).1 = verdict :=
    (Store.isHealthy_probed _).unique (Store.isHealthy_probed now)
  have escapes (fault : Fault) (h : verdict = .error fault) : fault.Foreign :=
    (Store.isHealthy_eq_error_iff.mp h).2.1.foreign foreign
  obtain ⟨hresult, -, -⟩ := app.handle_exec request now
  rw [cutBody_eq hhead, app.route_health method path, app.health_exec managed, hentered] at hresult
  exact ⟨Store.hasPool_lived life s, Store.isHealthy_eq_true_iff, Store.isHealthy_eq_false_iff,
    fun fault => Store.isHealthy_eq_error_iff, _, hresult, app.closing_healthOf _ escapes⟩

/-! ### A probe of a store that was stopped -/

/-- What the client of the database fails with once its pool is closed. -/
def closedPool : Fault := .failure (Kind.within [] "InterfaceError") "pool is closed"

theorem closedPool_unexpected : closedPool.isOneOf Store.outageFamilies = false := by
  decide

/-- The application with a store that it starts, stops and probes. -/
def managedApp : App := { plainApp with licensing := some ⟨Write.plainService, .managed⟩ }

def healthRequest : HttpRequest := plainRequest "GET" "/health" []

/-- A session on a store that was never started. -/
def unstarted : Session :=
  { Session.resting with database := { Session.resting.database with hasPool := false } }

/-- A start and a stop. -/
def oneRun : List Store.Turn := [⟨.start "", none⟩, ⟨.stop, none⟩]

/-- The pool gives no connection any more. -/
def closedOutage : Outage := ⟨.acquiring, closedPool⟩

theorem closedOutage_foreign : ∀ o ∈ some closedOutage, o.fault.Foreign := by
  rintro o ⟨⟩
  trivial

/-- The session after that run, with that outage. -/
def afterRun : Session := (Store.lived oneRun unstarted).facing closedOutage

/-- Of a store that was stopped, the probe fails, and the health is an internal error. -/
theorem health_after_stop :
    managedApp.licensing = some ⟨Write.plainService, .managed⟩ ∧
      healthRequest.method = ("GET" : Text) ∧ healthRequest.path = ("/health" : Text) ∧
      (∀ o ∈ some closedOutage, o.fault.Foreign) ∧
      (Store.isHealthy.exec afterRun).1 = .error closedPool ∧
      ((managedApp.handle healthRequest).exec afterRun).1 = .ok .internalError := by
  have path : healthRequest.path = ("/health" : Text) := by decide +kernel
  obtain ⟨pool, -, -, escapes, response, hresult, tells⟩ :=
    health_is_told_iff managedApp rfl rfl path oneRun unstarted closedOutage_foreign
  have opens : ∃ turn ∈ oneRun, turn.Opens := ⟨_, List.mem_cons_self, "", rfl, nofun⟩
  have hverdict : (Store.isHealthy.exec afterRun).1 = .error closedPool :=
    (escapes closedPool).mpr ⟨pool.mpr (.inr opens), .inl rfl, closedPool_unexpected⟩
  have hno (b : Bool) : response.status ≠ if b then 200 else 503 := fun h =>
    nomatch hverdict.symm.trans ((tells.status b).mp h).1
  rw [tells.otherwise (hno true) (hno false)] at hresult
  exact ⟨rfl, rfl, path, closedOutage_foreign, hverdict, hresult⟩

/-- After that run the probe fails with the fault of the closed pool and answers nothing. -/
theorem not_every_probe_answers :
    ¬ ∀ (app : App) (service : Service) (request : HttpRequest) (life : List Store.Turn)
        (s : Session) (outage : Option Outage),
        app.licensing = some ⟨service, .managed⟩ → request.method = ("GET" : Text) →
        request.path = ("/health" : Text) → (∀ o ∈ outage, o.fault.Foreign) →
        let now := (Store.lived life s).facing outage
        ∃ verdict response, (Store.isHealthy.exec now).1 = .ok verdict ∧
          (verdict = true ↔ now.database.Responds) ∧
          ((app.handle request).exec now).1 = .ok response ∧
          response.status = if verdict then 200 else 503 := by
  intro always
  obtain ⟨verdict, -, hverdict, -⟩ := always managedApp Write.plainService healthRequest oneRun
    unstarted closedOutage rfl rfl (by decide +kernel) closedOutage_foreign
  have hfails : (Store.isHealthy.exec afterRun).1 = .error closedPool :=
    Store.isHealthy_eq_error_iff.mpr ⟨rfl, .inl rfl, closedPool_unexpected⟩
  rw [afterRun, hverdict] at hfails
  cases hfails

end App

end Web

end Entitlement
