import Entitlement.Proofs.Service.Traced
import Entitlement.Web.App

/-! # A request is answered on its own behalf

Entering the organization of a request sets the organization that its header names
(`enterOrganization_traced`), and every endpoint that goes on works for that one. So whatever route
a request takes, all that is logged until there is a response or a fault bears the request and names
its own organization, if any (`App.route_traced`); the same holds of the record of a refusal
(`App.respond_traced`). -/

namespace Entitlement

namespace Web

open Act Session

/-- The organization that a request names, where its header is valid. -/
def HttpRequest.organization? (request : HttpRequest) : Option Uuid :=
  (organizationOf (request.header? organizationHeader)).toOption

namespace App

variable {id : Text} (app : App) (request : HttpRequest)

theorem enterOrganization_traced : Keeps (Traced id request.organization?)
    (enterOrganization (request.header? organizationHeader)) := by
  unfold enterOrganization
  refine (Keeps.of_ofExcept _).bind_of_value fun o ⟨_, h⟩ => ?_
  have howned : request.organization? = some o := by
    rw [HttpRequest.organization?, show organizationOf _ = .ok o from h]
    rfl
  have hset : Keeps (Traced id request.organization?) (modify (Session.mapContext fun c =>
      { c with organization := some o.text }) : Act Unit) := by
    refine fun s => ⟨rfl, fun hs => .of_records ⟨hs.request, .inr ?_⟩ rfl⟩
    rw [howned]
    rfl
  exact hset.bind fun _ => .of_pure o

theorem organization?_of_entered {o : Uuid} {s : Session}
    (h : ((enterOrganization (request.header? organizationHeader)).exec s).1 = .ok o) :
    request.organization? = some o := by
  unfold enterOrganization at h
  rw [Task.exec_ofExcept_bind] at h
  cases hown : organizationOf (request.header? organizationHeader) with
  | error fault =>
    rw [hown] at h
    cases h
  | ok own =>
    rw [hown] at h
    obtain rfl : own = o := Except.ok.inj h
    rw [HttpRequest.organization?, hown]
    rfl

/-! ### Endpoints -/

theorem withOrganization_traced {endpoint : Uuid → Act HttpResponse}
    (h : ∀ o, Keeps (Traced id (some o)) (endpoint o)) :
    Keeps (Traced id request.organization?) (withOrganization request endpoint) := by
  refine (enterOrganization_traced request).bind_of_value fun o ⟨_, ho⟩ => ?_
  rw [organization?_of_entered request ho]
  exact h o

theorem withBody_traced {α : Type} (shape : Shape α) {endpoint : Uuid → α → Act HttpResponse}
    (h : ∀ o a, Keeps (Traced id (some o)) (endpoint o a)) :
    Keeps (Traced id request.organization?) (withBody request shape endpoint) := by
  unfold withBody
  cases Content.read request with
  | error rejection => exact .of_ofExcept _
  | ok content =>
    refine (enterOrganization_traced request).bind_of_value fun o ⟨_, ho⟩ => ?_
    refine (Keeps.of_ofExcept _).bind fun fitted => ?_
    rw [organization?_of_entered request ho]
    rcases fitted with rejection | a
    · exact .of_ofExcept _
    · exact h o a

theorem recordResponse_traced {o : Option Uuid} (status : Int) (record : Json) :
    Keeps (Traced id o) (recordResponse status record) :=
  (Keeps.of_ofExcept _).bind fun _ => .of_ofExcept _

theorem session_traced (service : Service) (call : Authority.Call) :
    Keeps (Traced id request.organization?) (session service call request) :=
  withBody_traced request _ fun o subscription =>
    (service.openSession_traced o call subscription).bind fun _ => recordResponse_traced _ _

theorem licensingEndpoint_traced (service : Service) (endpoint : Endpoint) :
    Keeps (Traced id request.organization?) (licensingEndpoint service endpoint request) := by
  have hfeatures : Keeps (Traced id request.organization?) (withOrganization request fun o => do
      let features ← service.features o
      Task.ofExcept (HttpResponse.json 200 (Catalog.json features))) :=
    withOrganization_traced request fun o =>
      (service.features_traced o).bind fun _ => .of_ofExcept _
  cases endpoint with
  | activate =>
    exact withBody_traced request _ fun o activation =>
      (service.activate_traced o activation.key).bind fun _ => .of_ofExcept _
  | active =>
    exact withOrganization_traced request fun o =>
      (service.active_traced o).bind fun _ => .of_ofExcept _
  | refresh => exact withOrganization_traced request fun _ => .of_pure _
  | checkout => exact session_traced request service .checkout
  | portal => exact session_traced request service .portal
  | health => exact hfeatures
  | metrics => exact hfeatures
  | features => exact hfeatures
  | description => exact hfeatures
  | page => exact hfeatures

theorem dependencies_traced {o : Option Uuid} : Keeps (Traced id o) app.dependencies := by
  unfold dependencies
  split
  · exact Store.isHealthy_traced.bind fun _ => .of_pure _
  · exact .of_pure _

theorem health_traced {o : Option Uuid} : Keeps (Traced id o) app.health :=
  app.dependencies_traced.bind fun _ => .get_bind fun _ => .of_ofExcept _

theorem metrics_traced {o : Option Uuid} : Keeps (Traced id o) metrics :=
  .get_bind fun _ => (Keeps.of_ofExcept _).bind fun _ => .of_pure _

theorem answer_traced (endpoint : Endpoint) :
    Keeps (Traced id request.organization?) (app.answer request endpoint) := by
  unfold answer
  split
  · exact app.health_traced
  · exact metrics_traced
  · exact .of_pure _
  · exact .of_pure _
  · split
    · exact licensingEndpoint_traced request _ endpoint
    · exact .of_pure _

/-- **Whatever route a request takes**, it is answered on its own behalf. -/
theorem route_traced : Keeps (Traced id request.organization?) (app.route request) := by
  unfold route
  split
  · exact app.answer_traced request _
  · exact .of_pure _
  · exact .of_pure _
  · exact .of_pure _

theorem respond_traced : Keeps (Traced id request.organization?) (app.respond request) := by
  unfold respond
  refine (app.route_traced request).outcome.bind fun outcome => ?_
  split
  · exact .of_pure _
  · exact (log_traced ⟨rfl, .inl rfl⟩).bind fun _ => .of_ofExcept _
  · exact .of_throw _

end App

end Web

end Entitlement
