import Entitlement.Proofs.Service.Resolution
import Entitlement.Proofs.Web.Handle
import Entitlement.Proofs.Web.Served
import Entitlement.Proofs.Web.Traced

/-! # Requests one after another, and how they are counted

Requests are handled one after another, each in a session of its own: the time, the database, the
line to the authority and the id that is drawn are whatever they are at its arrival, and only the
telemetry is carried on (`App.visits`). A request is *answered* if its route gives a response, or a
refusal whose record can be written; any other fault goes past the handlers of refusals
(`Visit.isAnswered`). An answered request is counted under the status of its response, and no other
one is counted at all (`App.visit_requests`): a request is counted once, with the status that its
client sees, just when it is answered (`App.visit_counted_iff`). -/

namespace Entitlement

namespace Web

open Entitlement.Task

/-! ### Visits -/

/-- A request, and the session that it finds apart from the telemetry. -/
structure Arrival where
  request : HttpRequest
  environment : Environment
  database : Database
  line : Line
  span : Option Log.Span
  fresh : Uuid

/-- The session of an arrival, with the telemetry as the requests before have left it. -/
def Arrival.session (a : Arrival) (t : Telemetry) : Session :=
  ⟨a.environment, a.database, a.line, { t with span := a.span }, a.fresh⟩

/-- A request that was handled: the session that it found, the response, the session it left. -/
structure Visit where
  request : HttpRequest
  before : Session
  response : Except Fault HttpResponse
  after : Session

namespace App

variable (app : App)

/-- Handles a request in a session. -/
def visit (request : HttpRequest) (s : Session) : Visit :=
  ⟨request, s, ((app.handle request).exec s).1, ((app.handle request).exec s).2⟩

/-- Handles requests one after another. -/
def visits : Telemetry → List Arrival → List Visit
  | _, [] => []
  | t, a :: rest =>
    app.visit a.request (a.session t) ::
      visits (app.visit a.request (a.session t)).after.telemetry rest

/-- The telemetry that requests leave one after another. -/
def telemetryAfter (t : Telemetry) (arrivals : List Arrival) : Telemetry :=
  arrivals.foldl (fun t a => (app.visit a.request (a.session t)).after.telemetry) t

/-- What holds of any request that finds a context of some kind, and leaves one of that kind, holds
of each. -/
theorem forall_visits {I : Log.Context → Prop} {P : Visit → Prop}
    (h : ∀ request s, I s.telemetry.context →
      P (app.visit request s) ∧ I (app.visit request s).after.telemetry.context)
    (t : Telemetry) (ht : I t.context) (arrivals : List Arrival) :
    ∀ v ∈ app.visits t arrivals, P v := by
  induction arrivals generalizing t with
  | nil => exact fun v hv => absurd hv List.not_mem_nil
  | cons a rest ih =>
    obtain ⟨hfirst, hleft⟩ := h a.request (a.session t) ht
    intro v hv
    rcases List.mem_cons.mp hv with rfl | hv
    · exact hfirst
    · exact ih _ hleft v hv

end App

/-! ### Counting -/

/-- The labels that a request is counted under, once a response has left. -/
def HttpRequest.labels (request : HttpRequest) (response : HttpResponse) : List Text :=
  [request.method, request.shownPath, Text.ofInt response.status]

namespace Visit

/-- Whether a response answers the request: the one of its route, or the record of a refusal that
strict JSON has a form for. -/
def isAnswered (app : App) (v : Visit) : Bool :=
  match ((app.route v.request).exec (App.entered v.request v.before)).1 with
  | .ok _ => true
  | .error (.refusal refusal) => (refusal.record none).isStrict
  | .error _ => false

/-- The requests that were counted when this one arrived. -/
def countsBefore (v : Visit) : Counter := v.before.telemetry.metrics.httpRequests

/-- The requests that were counted when the response had left. -/
def countsAfter (v : Visit) : Counter := v.after.telemetry.metrics.httpRequests

/-- The request is counted once: one more in all, namely for its method, its path and the status of
the response that its client sees. -/
def Counted (v : Visit) : Prop :=
  ∃ response, v.response = .ok response ∧ v.countsAfter.total = v.countsBefore.total + 1 ∧
    ∀ labels, v.countsAfter.get labels =
      v.countsBefore.get labels + if labels = v.request.labels response then 1 else 0

end Visit

namespace App

variable (app : App) (request : HttpRequest) (s : Session)

theorem visit_after : (app.visit request s).after =
    ((app.conclude request (app.conclusion request s)).exec (app.served request s)).2 := by
  unfold visit
  rw [handle_eq]

theorem cutBody_status (response : HttpResponse) :
    (cutBody request response).status = response.status := by
  unfold cutBody
  split <;> rfl

theorem conclusion_isOk :
    (app.conclusion request s).isOk = (app.visit request s).isAnswered app := by
  unfold conclusion Visit.isAnswered visit
  dsimp only
  rcases ((app.route request).exec (entered request s)).1 with fault | response
  · cases fault with
    | refusal refusal =>
      dsimp only [answered]
      have hrecord := HttpResponse.json_cases refusal.status (refusal.record none)
      rcases hrecord with ⟨hstrict, h⟩ | ⟨hstrict, _, _, h⟩ <;> rw [h, hstrict] <;> rfl
    | mismatch issues => rfl
    | exhausted task attempts last => rfl
    | failure kind message => rfl
  · rfl

theorem served_requests :
    (app.served request s).telemetry.metrics.httpRequests = s.telemetry.metrics.httpRequests := by
  have traced : Act.Keeps (Session.Traced [] request.organization?) (app.respond request) :=
    app.respond_traced request
  exact (traced (entered request s)).requests

/-- **Handling a request** counts it under the status of its response where there is one, and not at
all where nothing answers for its fault. -/
theorem visit_requests : (app.visit request s).countsAfter =
    match app.conclusion request s with
    | .ok response => s.telemetry.metrics.httpRequests.count (request.labels response)
    | .error _ => s.telemetry.metrics.httpRequests := by
  unfold Visit.countsAfter
  rw [visit_after]
  cases app.conclusion request s with
  | ok response =>
    rw [conclude_ok, ← app.served_requests request s]
    rfl
  | error fault =>
    rw [conclude_error, ← app.served_requests request s]
    rfl

/-- **The response of a request** is the one that it is concluded with, or an internal error. -/
theorem visit_response : (app.visit request s).response =
    .ok (cutBody request ((app.conclusion request s).toOption.getD .internalError)) := by
  unfold visit
  dsimp only
  rw [handle_eq]
  cases app.conclusion request s with
  | ok response => rw [conclude_ok]; rfl
  | error fault => rw [conclude_error]; rfl

/-- **A request is counted once**, with the status that its client sees, if it is answered, and only
then. -/
theorem visit_counted_iff :
    (app.visit request s).Counted ↔ (app.visit request s).isAnswered app = true := by
  have hbefore : (app.visit request s).countsBefore = s.telemetry.metrics.httpRequests := rfl
  have hafter := app.visit_requests request s
  have hresponse := app.visit_response request s
  unfold Visit.Counted
  rw [hbefore, hafter, hresponse, ← conclusion_isOk]
  cases app.conclusion request s with
  | ok response =>
    refine iff_of_true ⟨_, rfl, Counter.total_count _ _, fun labels => ?_⟩ rfl
    have hlabels : (app.visit request s).request.labels (cutBody request response) =
        request.labels response := by
      rw [HttpRequest.labels, cutBody_status]
      rfl
    rw [Counter.get_count]
    exact hlabels ▸ rfl
  | error fault =>
    refine iff_of_false ?_ Bool.false_ne_true
    rintro ⟨-, -, htotal, -⟩
    dsimp only at htotal
    omega

theorem visit_total : (app.visit request s).countsAfter.total =
    s.telemetry.metrics.httpRequests.total +
      if (app.visit request s).isAnswered app then 1 else 0 := by
  rw [visit_requests, ← conclusion_isOk]
  cases app.conclusion request s with
  | ok response => exact Counter.total_count _ _
  | error fault => rfl

/-- **Requests one after another** are counted as often as they are answered. -/
theorem telemetryAfter_total (t : Telemetry) (arrivals : List Arrival) :
    (app.telemetryAfter t arrivals).metrics.httpRequests.total =
      t.metrics.httpRequests.total + (app.visits t arrivals).countP (Visit.isAnswered app) := by
  induction arrivals generalizing t with
  | nil => rfl
  | cons a rest ih =>
    have hrest := ih (app.visit a.request (a.session t)).after.telemetry
    have hfirst := app.visit_total a.request (a.session t)
    have hsession : (a.session t).telemetry.metrics = t.metrics := rfl
    have hafter : (app.telemetryAfter t (a :: rest)).metrics.httpRequests.total =
      (app.telemetryAfter (app.visit a.request (a.session t)).after.telemetry
        rest).metrics.httpRequests.total := rfl
    rw [hsession] at hfirst
    unfold Visit.countsAfter at hfirst
    rw [hafter, hrest, hfirst, visits, List.countP_cons]
    omega

/-- **Requests are counted just as far as they are answered.** However many are handled, in whatever
sessions: each is counted once, for its method, its path and the status of the response that leaves,
exactly if its route gave a response or a refusal that can be told; else an internal error leaves,
and no count changes. In all, as many are counted as were answered. -/
theorem requests_are_counted_iff (t : Telemetry) (arrivals : List Arrival) :
    (∀ v ∈ app.visits t arrivals, v.Counted ↔ v.isAnswered app = true) ∧
      (∀ v ∈ app.visits t arrivals, v.isAnswered app = false →
        v.response = .ok (cutBody v.request .internalError) ∧ v.countsAfter = v.countsBefore) ∧
      (app.telemetryAfter t arrivals).metrics.httpRequests.total =
        t.metrics.httpRequests.total + (app.visits t arrivals).countP (Visit.isAnswered app) := by
  have hunanswered : ∀ v ∈ app.visits t arrivals, v.isAnswered app = false →
      v.response = .ok (cutBody v.request .internalError) ∧ v.countsAfter = v.countsBefore := by
    refine app.forall_visits (I := fun _ => True)
      (fun request s _ => ⟨fun hanswered => ?_, trivial⟩) t trivial arrivals
    have hrequests := app.visit_requests request s
    have hresponse := app.visit_response request s
    rw [← conclusion_isOk] at hanswered
    cases hc : app.conclusion request s with
    | ok response =>
      rw [hc] at hanswered
      cases hanswered
    | error fault =>
      rw [hc] at hrequests hresponse
      exact ⟨hresponse, hrequests⟩
  have heach : ∀ v ∈ app.visits t arrivals, v.Counted ↔ v.isAnswered app = true :=
    app.forall_visits (I := fun _ => True)
      (fun request s _ => ⟨app.visit_counted_iff request s, trivial⟩) t trivial arrivals
  exact ⟨heach, hunanswered, app.telemetryAfter_total t arrivals⟩

/-! ### A request that is not counted -/

/-- What the driver of the database reports while its pool goes down. -/
def closingPool : Fault := .failure (Kind.ofDatabaseName "InterfaceError") "pool is closing"

/-- A request for the license in force, while the pool of the database goes down. -/
def shutdownArrival : Arrival where
  request := activeRequest
  environment := Write.lateSession.environment
  database := { Write.lateSession.database with outage := some ⟨.acquiring, closingPool⟩ }
  line := Line.empty
  span := none
  fresh := .first

theorem shutdownArrival_unanswered :
    (plainApp.visit shutdownArrival.request
      (shutdownArrival.session Write.lateSession.telemetry)).isAnswered plainApp = false := by
  decide +kernel

/-- The fault of that pool is answered outside of the counting, so the request adds to no count. -/
theorem not_every_request_is_counted :
    ¬ ∀ (app : App) (t : Telemetry) (arrivals : List Arrival),
      ∀ v ∈ app.visits t arrivals, v.Counted := by
  intro counted
  have h := counted plainApp Write.lateSession.telemetry [shutdownArrival] _ List.mem_cons_self
  rw [visit_counted_iff, shutdownArrival_unanswered] at h
  exact Bool.false_ne_true h

end App

end Web

end Entitlement
