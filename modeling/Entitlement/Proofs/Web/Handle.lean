import Entitlement.Proofs.Session.Run
import Entitlement.Web.App

/-! # From a request to its response

A request is answered at its route, and what comes of that is concluded (`App.handle_eq`): a
response, the one of the route or the record of a refusal, is counted and logged as it leaves
(`App.conclude_ok`); a fault that nothing answers for is logged once nothing is at work any more,
and a plain internal error leaves (`App.conclude_error`). So every request gets a response, and the
database and the line to the authority are left as the route leaves them (`App.handle_exec`). The
routes of licensing lead to their own endpoints whatever other routes the application has
(`App.route_eq`). -/

namespace Entitlement

namespace Web

open Entitlement.Task

namespace App

variable (app : App) (request : HttpRequest)

/-! ### Handling -/

/-- The session in which a request is answered: the request has an id. -/
def entered (request : HttpRequest) (s : Session) : Session :=
  s.mapContext fun c =>
    { c with request := some ((request.header? "X-Request-Id").getD s.fresh.text) }

/-- What becomes of the outcome of a route: a refusal is told in a response. -/
def answered : Except Fault HttpResponse → Except Fault HttpResponse
  | .error (.refusal refusal) => HttpResponse.json refusal.status (refusal.record none)
  | outcome => outcome

/-- The response that leaves for the outcome of a route. A fault that nothing answers for is told as
an internal error. -/
def closing (outcome : Except Fault HttpResponse) : HttpResponse :=
  match answered outcome with
  | .ok response => response
  | .error _ => .internalError

theorem closing_ok (response : HttpResponse) : closing (.ok response) = response := rfl

theorem closing_failure (kind : Kind) (message : Text) :
    closing (.error (.failure kind message)) = .internalError := rfl

theorem respond_exec (s : Session) : ∃ telemetry, (app.respond request).exec s =
    (answered ((app.route request).exec s).1,
      { ((app.route request).exec s).2 with telemetry }) := by
  unfold respond
  rw [exec_outcome_bind]
  rcases (app.route request).exec s with ⟨fault | response, s₁⟩
  · cases fault with
    | refusal refusal => exact ⟨_, rfl⟩
    | mismatch issues => exact ⟨_, rfl⟩
    | exhausted task attempts last => exact ⟨_, rfl⟩
    | failure kind message => exact ⟨_, rfl⟩
  · exact ⟨_, rfl⟩

/-- What a request concludes with: a response, or a fault that nothing answers for. -/
def conclusion (request : HttpRequest) (s : Session) : Except Fault HttpResponse :=
  answered ((app.route request).exec (entered request s)).1

/-- The session that answering a request leaves, in the context that the request was given. -/
def served (request : HttpRequest) (s : Session) : Session :=
  ((app.respond request).exec (entered request s)).2.mapContext
    fun _ => (entered request s).telemetry.context

/-- What is left to do for a conclusion. -/
def conclude (request : HttpRequest) : Except Fault HttpResponse → Act HttpResponse
  | .ok response => do
    app.leave request response
    clearContext
    return cutBody request response
  | .error fault => do
    clearContext
    Act.log app.logger .error "Unhandled exception" [("error", .string fault.text)]
    return cutBody request .internalError

theorem handle_eq (s : Session) : (app.handle request).exec s =
    (app.conclude request (app.conclusion request s)).exec (app.served request s) := by
  obtain ⟨telemetry, hrespond⟩ := app.respond_exec request (entered request s)
  have hhandle : (app.handle request).exec s = (do
      let outcome ← (app.respond request).outcome
      modify (Session.mapContext fun _ => (entered request s).telemetry.context)
      app.conclude request outcome : Act HttpResponse).exec (entered request s) := by
    unfold handle conclude
    rw [exec_get_bind, exec_modify_bind, exec_get_bind, exec_outcome_bind, exec_modify_bind,
      exec_outcome_bind, exec_modify_bind]
    rfl
  rw [hhandle, exec_outcome_bind, exec_modify_bind, conclusion, served, hrespond]

/-- The entry about a response that leaves. -/
def departure (request : HttpRequest) (response : HttpResponse) : Log.Entry :=
  ⟨app.logger, .info, "HTTP request", [("method", .string request.method),
    ("path", .string request.shownPath), ("status_code", .int response.status),
    ("duration_ms", .float .zero)]⟩

/-- The entry about a fault that nothing answers for. -/
def mishap (fault : Fault) : Log.Entry :=
  ⟨app.logger, .error, "Unhandled exception", [("error", .string fault.text)]⟩

/-- **A response that leaves** is counted and logged, and then nothing is at work any more. -/
theorem conclude_ok (response : HttpResponse) (s : Session) :
    (app.conclude request (.ok response)).exec s = (.ok (cutBody request response),
      ((s.mapMetrics (·.recordHttpRequest request.method request.shownPath
        (Text.ofInt response.status) .zero)).log (app.departure request response)).mapContext
          fun _ => Log.Context.empty) := rfl

/-- **A fault that nothing answers for** is logged once nothing is at work any more, and an internal
error leaves. -/
theorem conclude_error (fault : Fault) (s : Session) :
    (app.conclude request (.error fault)).exec s = (.ok (cutBody request .internalError),
      (s.mapContext fun _ => Log.Context.empty).log (app.mishap fault)) := rfl

/-- **Every request gets a response**, the one that leaves for the outcome of its route. -/
theorem handle_exec (s : Session) :
    ((app.handle request).exec s).1 =
        .ok (cutBody request (closing ((app.route request).exec (entered request s)).1)) ∧
      ((app.handle request).exec s).2.database =
        ((app.route request).exec (entered request s)).2.database ∧
      ((app.handle request).exec s).2.line =
        ((app.route request).exec (entered request s)).2.line := by
  obtain ⟨telemetry, hrespond⟩ := app.respond_exec request (entered request s)
  have hserved : app.served request s = Session.mapContext
      (fun _ => (entered request s).telemetry.context)
      { ((app.route request).exec (entered request s)).2 with telemetry } := by
    rw [served, hrespond]
  rw [handle_eq, hserved, conclusion, closing]
  -- Left in place, the run of the route would be unfolded to compare the sessions.
  generalize (app.route request).exec (entered request s) = routed
  cases answered routed.1 with
  | ok response =>
    rw [conclude_ok]
    exact ⟨rfl, rfl, rfl⟩
  | error fault =>
    rw [conclude_error]
    exact ⟨rfl, rfl, rfl⟩

theorem cutBody_eq {request : HttpRequest} (h : request.method ≠ ("HEAD" : Text))
    (response : HttpResponse) : cutBody request response = response := if_neg h

/-! ### The routes of licensing -/

theorem destination_licensing {route : Route} (h : route ∈ Route.licensing) {method : Text}
    (hm : method ∈ route.methods) {pages : List Route} (hp : pages = [] ∨ pages = Route.pages) :
    Route.destination (Route.description ++ pages ++ Route.common ++ Route.licensing) method
      route.path = .endpoint route.endpoint := by
  have hall : ∀ pages ∈ [[], Route.pages], ∀ route ∈ Route.licensing, ∀ method ∈ route.methods,
      Route.destination (Route.description ++ pages ++ Route.common ++ Route.licensing) method
        route.path = .endpoint route.endpoint := by
    decide +kernel
  exact hall pages (by simpa using hp) route h method hm

theorem route_eq {licensing : Licensing} (hl : app.licensing = some licensing) {route : Route}
    (h : route ∈ Route.licensing) (hm : request.method ∈ route.methods)
    (hp : request.path = route.path) :
    app.route request = licensingEndpoint licensing.service route.endpoint request := by
  have hroutes : app.routes = Route.description ++ (if app.isLocal then Route.pages else [])
      ++ Route.common ++ Route.licensing := by
    rw [routes, hl]
    rfl
  have hpages : (if app.isLocal then Route.pages else []) = [] ∨
      (if app.isLocal then Route.pages else []) = Route.pages := by
    cases app.isLocal
    · exact .inl rfl
    · exact .inr rfl
  unfold App.route
  rw [hroutes, hp, destination_licensing h hm hpages]
  dsimp only
  have hendpoint : ∀ endpoint ∈ Route.licensing.map Route.endpoint,
      app.answer request endpoint = licensingEndpoint licensing.service endpoint request := by
    intro endpoint he
    unfold answer
    simp only [Route.licensing, List.map_cons, List.map_nil, List.mem_cons, List.not_mem_nil,
      or_false] at he
    rcases he with rfl | rfl | rfl | rfl | rfl | rfl <;> simp only [hl]
  exact hendpoint route.endpoint (List.mem_map_of_mem h)

end App

end Web

end Entitlement
