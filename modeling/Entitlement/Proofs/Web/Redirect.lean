import Entitlement.Proofs.Service.Redirection
import Entitlement.Proofs.Web.Malformed

/-! # The redirections that are served

Two routes open a billing session (`Billing`). Where the authority answers with success, a request
for one of them is served the address that the answer leads to, whatever bytes the answer is made
of, but for two cases: an answer that is nested too deeply ends in a failure of the reader, and an
address with a lone surrogate has no form in strict UTF-8. In both the response is an internal error
(`redirection_is_served_iff`). -/

namespace Entitlement

namespace Web

open Entitlement.Json Entitlement.Task

/-! ### Accepted bodies -/

theorem withBody_accepts {α : Type} {shape : Shape α} {request : HttpRequest}
    (json : (request.header? "Content-Type").any Content.isJsonType = true) {organization : Uuid}
    (valid : organizationOf (request.header? organizationHeader) = .ok organization)
    {members : Members} {a : α}
    (read : Document.read Reader.lenient (.bytes request.body) = .ok (.object members))
    (fits : shape (.object members) = .pass a) (endpoint : Uuid → α → Act HttpResponse)
    (s : Session) : (App.withBody request shape endpoint).exec s = (endpoint organization a).exec
      (s.mapContext fun c => { c with organization := some organization.text }) := by
  have hsome : request.body ≠ [] := fun hempty => by
    rw [hempty] at read
    cases read
  have hread : Content.read request = .ok (.value (.object members)) := by
    rw [Content.read, if_neg hsome, if_pos json, read]
  have hfit : (Content.value (.object members)).fit shape = .ok (.ok a) := by
    unfold Content.fit
    dsimp only
    rw [fits]
    rfl
  unfold App.withBody
  rw [hread]
  dsimp only
  rw [exec_bind_ok (enterOrganization_exec valid s), exec_ofExcept_bind, hfit]

/-! ### The response -/

/-- The routes that open a billing session. -/
inductive Billing where
  | checkout
  | portal

namespace Billing

def call : Billing → Authority.Call
  | checkout => .checkout
  | portal => .portal

def route : Billing → Route
  | checkout => Form.checkout.route
  | portal => Form.portal.route

theorem route_mem (billing : Billing) : billing.route ∈ Route.licensing := by
  cases billing with
  | checkout => exact Form.route_mem .checkout
  | portal => exact Form.route_mem .portal

theorem methods_eq (billing : Billing) : billing.route.methods = [("POST" : Text)] := by
  cases billing <;> rfl

theorem endpoint_eq (billing : Billing) (service : Service) (request : HttpRequest) :
    App.licensingEndpoint service billing.route.endpoint request =
      App.session service billing.call request := by
  cases billing <;> rfl

end Billing

/-- What a redirection is put into a response as. -/
def redirectionResponse (url : Text) : Except Fault HttpResponse := do
  Record.check (Redirection.mk url).publicJson
  HttpResponse.json 201 (Redirection.mk url).publicJson

theorem recordResponse_exec (url : Text) (s : Session) :
    ((App.recordResponse 201 (Redirection.mk url).publicJson).exec s).1 =
      redirectionResponse url := by
  unfold App.recordResponse redirectionResponse
  rw [exec_ofExcept_bind]
  cases Record.check (Redirection.mk url).publicJson with
  | error fault => rfl
  | ok u => rfl

theorem publicJson_isStrict (url : Text) :
    (Redirection.mk url).publicJson.isStrict = url.isScalar := by
  have hname : ("redirectURL" : Text).isScalar = true := Text.isScalar_ofString _
  have hstrict : (Redirection.mk url).publicJson.isStrict =
      (("redirectURL" : Text).isScalar && url.isScalar && true) := rfl
  rw [hstrict, hname, Bool.true_and, Bool.and_true]

/-- An address of scalar values is served as it is, and any other one is an internal error. -/
theorem closing_redirection (url : Text) :
    (url.isScalar = true ∧ ∃ body,
      App.closing (redirectionResponse url) = ⟨201, some HttpResponse.jsonType, body⟩ ∧
      Json.decode body = .ok (.object [("redirectURL", .string url)])) ∨
    (url.isScalar = false ∧ App.closing (redirectionResponse url) = .internalError) := by
  have hobstacle : Record.obstacle? (Record.depthBound + 1) (Redirection.mk url).publicJson =
      (Record.textObstacle? url).or none := rfl
  cases hscalar : url.isScalar with
  | true =>
    have hcheck : Record.check (Redirection.mk url).publicJson = .ok () := by
      rw [Record.check, hobstacle, Record.textObstacle?,
        Text.utf8Obstacle?_eq_none_iff.mpr hscalar]
      rfl
    have hresponse : redirectionResponse url =
        HttpResponse.json 201 (Redirection.mk url).publicJson := by
      unfold redirectionResponse
      rw [hcheck]
      rfl
    have hfits : (Redirection.mk url).publicJson.Fits Reader.depthLimit := by
      refine .object (List.nodup_singleton _) fun m hm => ?_
      rw [List.mem_singleton.mp hm]
      exact .scalar rfl
    rw [hresponse]
    rcases HttpResponse.json_cases 201 (Redirection.mk url).publicJson with
      ⟨-, hjson⟩ | ⟨hstrict, -⟩
    · rw [hjson, App.closing_ok]
      exact .inl ⟨rfl, _, rfl, decode_response hfits rfl⟩
    · rw [publicJson_isStrict, hscalar] at hstrict
      cases hstrict
  | false =>
    have hsome : ∃ message, url.utf8Obstacle? = some message := by
      rw [← Option.ne_none_iff_exists']
      intro hnone
      rw [Text.utf8Obstacle?_eq_none_iff, hscalar] at hnone
      cases hnone
    obtain ⟨message, hmessage⟩ := hsome
    refine .inr ⟨rfl, ?_⟩
    unfold redirectionResponse
    rw [Record.check, hobstacle, Record.textObstacle?, hmessage]
    rfl

/-- **Opening a session** that the authority answers comes to the address in the answer. -/
theorem session_response {service : Service} (billing : Billing) {request : HttpRequest}
    (json : (request.header? "Content-Type").any Content.isJsonType = true) {organization : Uuid}
    (valid : organizationOf (request.header? organizationHeader) = .ok organization)
    {members : Members} {subscription : Subscription}
    (read : Document.read Reader.lenient (.bytes request.body) = .ok (.object members))
    (fits : Subscription.shape (.object members) = .pass subscription) {s : Session}
    {response : Response}
    (answers : service.Answers billing.call organization subscription s response)
    (success : response.isSuccess = true) (f : Log.Context → Log.Context) :
    ((App.session service billing.call request).exec (s.mapContext f)).1 =
      Redirect.ofDocument (.bytes response.body) >>= redirectionResponse := by
  let entered := (s.mapContext f).mapContext fun c =>
    { c with organization := some organization.text }
  have same : Session.SameWorld s entered := ⟨rfl, rfl⟩
  have hopened := Service.openSession_of_answers answers success same rfl
  unfold App.session
  rw [withBody_accepts json valid read fits, exec_bind]
  rcases hrun : (service.openSession billing.call organization subscription).exec entered with
    ⟨fault | redirection, s'⟩
  · rw [hrun] at hopened
    cases hof : Redirect.ofDocument (.bytes response.body) with
    | error fault' =>
      rw [hof] at hopened
      exact congrArg Except.error (Except.error.inj hopened)
    | ok url =>
      rw [hof] at hopened
      cases hopened
  · rw [hrun] at hopened
    cases hof : Redirect.ofDocument (.bytes response.body) with
    | error fault' =>
      rw [hof] at hopened
      cases hopened
    | ok url =>
      rw [hof] at hopened
      obtain rfl : redirection = ⟨url⟩ := Except.ok.inj hopened
      exact recordResponse_exec url s'

/-- **Which redirections are served.** Where the authority answers the opening of a billing session
with success, the request for it gets a response, whatever the bytes of the answer are. It is the
redirection to where the answer leads, written as JSON, unless the answer is nested too deeply or
leads to a text with a lone surrogate; then it is an internal error. Nothing but a text that was
read as the address can hold one. -/
theorem redirection_is_served_iff (app : App) {licensing : Licensing}
    (hl : app.licensing = some licensing) (billing : Billing) (request : HttpRequest)
    (method : request.method = ("POST" : Text)) (path : request.path = billing.route.path)
    (json : (request.header? "Content-Type").any Content.isJsonType = true) {organization : Uuid}
    (valid : organizationOf (request.header? organizationHeader) = .ok organization)
    {members : Members} {subscription : Subscription}
    (read : Document.read Reader.lenient (.bytes request.body) = .ok (.object members))
    (fits : Subscription.shape (.object members) = .pass subscription) (s : Session)
    {response : Response}
    (answers : licensing.service.Answers billing.call organization subscription s response)
    (success : response.isSuccess = true) :
    ∃ url served, Redirect.Leads response.body url ∧
      ((app.handle request).exec s).1 = .ok served ∧
      (served.status = 201 ↔ ¬ Redirect.TooDeep response.body ∧ url.isScalar = true) ∧
      (served.status = 201 → served.contentType = some HttpResponse.jsonType ∧
        Json.decode served.body = .ok (.object [("redirectURL", .string url)])) ∧
      (served.status ≠ 201 → served = .internalError) ∧
      (Redirect.ofDocument (.bytes response.body) = .ok url ↔ ¬ Redirect.TooDeep response.body) ∧
      (url.isScalar = true ∨ ∃ members, Redirect.reading response.body = .ok (.object members) ∧
        Members.get? members "url" = some (.string url)) := by
  obtain ⟨url, leads⟩ := Redirect.exists_leads response.body
  have hpost : request.method ∈ billing.route.methods := by
    rw [method, billing.methods_eq]
    exact List.mem_singleton_self _
  have hhead : request.method ≠ ("HEAD" : Text) := by
    rw [method]
    decide
  have hstatus : HttpResponse.internalError.status ≠ 201 := by decide
  obtain ⟨hresult, -, -⟩ := app.handle_exec request s
  rw [App.cutBody_eq hhead, app.route_eq request hl billing.route_mem hpost path,
    billing.endpoint_eq, App.entered,
    session_response billing json valid read fits answers success] at hresult
  refine ⟨url, _, leads, hresult, ?_⟩
  rcases Redirect.ofDocument_cases leads with ⟨hflat, hof⟩ | ⟨hdeep, message, hof⟩
  · have hbind : (Except.ok url : Except Fault Text) >>= redirectionResponse =
      redirectionResponse url := rfl
    rw [hof, hbind]
    rcases closing_redirection url with ⟨hscalar, body, hclosing, hdecode⟩ | ⟨hscalar, hclosing⟩
    · rw [hclosing]
      exact ⟨iff_of_true rfl ⟨hflat, hscalar⟩, fun _ => ⟨rfl, hdecode⟩, fun h => absurd rfl h,
        iff_of_true rfl hflat, leads.isScalar_or_text⟩
    · rw [hclosing]
      refine ⟨iff_of_false hstatus fun h => ?_, fun h => absurd h hstatus, fun _ => rfl,
        iff_of_true rfl hflat, leads.isScalar_or_text⟩
      rw [hscalar] at h
      exact Bool.false_ne_true h.2
  · have hbind : (Except.error (.failure Kind.recursion message) : Except Fault Text) >>=
      redirectionResponse = .error (.failure Kind.recursion message) := rfl
    rw [hof, hbind, App.closing_failure]
    exact ⟨iff_of_false hstatus fun h => h.1 hdeep, fun h => absurd h hstatus, fun _ => rfl,
      iff_of_false nofun fun h => h hdeep, leads.isScalar_or_text⟩

/-! ### Answers that are not served -/

/-- A request for a checkout, without an address to come back to. -/
def checkoutRequest : HttpRequest := plainRequest "POST" "/api/v1/checkout" "\x7b\x7d"

theorem checkoutRequest_path : checkoutRequest.path = Billing.checkout.route.path := by
  decide +kernel

theorem checkoutRequest_read :
    Document.read Reader.lenient (.bytes checkoutRequest.body) = .ok (.object []) := by
  decide +kernel

/-- A session on an empty table whose authority answers with these bytes. -/
def answering (answer : Bytes) : Session :=
  { Write.lateSession with line := { Line.empty with script := [.ok ⟨200, answer⟩] } }

/-- The organization without licenses has the stand-in, and the authority answers the call with its
empty key. -/
theorem answering_answers (answer : Bytes) : Service.Answers Write.plainService
    Billing.checkout.call .nil ⟨[]⟩ (answering answer) ⟨200, answer⟩ := by
  have hselected : Service.selected .nil (answering answer) = .ok (.absent .nil) := rfl
  have hbody : Subscription.body ⟨[]⟩ = .ok (Utf8.encode "\x7b\"url\":\"\"\x7d") :=
    Outcome.eq_ok_of_toOption (by decide +kernel)
  have hsendable : Write.plainService.client.isSendable Billing.checkout.call []
      (Utf8.encode "\x7b\"url\":\"\"\x7d") = true := by
    decide +kernel
  refine ⟨License.synthetic .nil Write.plainService.catalog (answering answer).environment.utc, _,
    ?_, hbody, Service.send_of_script hsendable rfl⟩
  rw [Service.active_of_selected, hselected]
  rfl

/-- An answer that leads to a lone surrogate. -/
def surrogateAnswer : Bytes := Utf8.encode "\x7b\"url\":\"\\ud800\"\x7d"

/-- The checkout with that answer is an internal error. -/
theorem surrogateAnswer_is_not_served :
    plainApp.licensing = some ⟨Write.plainService, .plain⟩ ∧
      checkoutRequest.method = ("POST" : Text) ∧
      checkoutRequest.path = Billing.checkout.route.path ∧
      (checkoutRequest.header? "Content-Type").any Content.isJsonType = true ∧
      organizationOf (checkoutRequest.header? organizationHeader) = .ok Uuid.nil ∧
      Document.read Reader.lenient (.bytes checkoutRequest.body) = .ok (.object []) ∧
      Subscription.shape (.object []) = .pass ⟨[]⟩ ∧
      Response.isSuccess ⟨200, surrogateAnswer⟩ = true ∧
      ¬ Redirect.TooDeep surrogateAnswer ∧
      ((plainApp.handle checkoutRequest).exec (answering surrogateAnswer)).1 =
        .ok .internalError := by
  have json : (checkoutRequest.header? "Content-Type").any Content.isJsonType = true :=
    plainRequest_json _ _ _
  have valid : organizationOf (checkoutRequest.header? organizationHeader) = .ok Uuid.nil :=
    plainRequest_valid _ _ _
  have hreading : Redirect.reading surrogateAnswer = .ok (.object [("url", .string [0xD800])]) := by
    decide +kernel
  have hflat : ¬ Redirect.TooDeep surrogateAnswer := fun ⟨fault, h, _⟩ => by
    rw [hreading] at h
    cases h
  obtain ⟨url, served, leads, hresult, hserved, -, hfailed, -, -⟩ :=
    redirection_is_served_iff plainApp plainApp_licensing .checkout checkoutRequest rfl
      checkoutRequest_path json valid checkoutRequest_read rfl (answering surrogateAnswer)
      (answering_answers surrogateAnswer) rfl
  have hurl : url = [0xD800] := Redirect.leads_unique leads (.text hreading rfl)
  have hno : served.status ≠ 201 := fun h => by
    have hscalar := (hserved.mp h).2
    rw [hurl] at hscalar
    cases hscalar
  refine ⟨rfl, rfl, checkoutRequest_path, json, valid, checkoutRequest_read, rfl, rfl, hflat, ?_⟩
  rw [hresult, hfailed hno]

/-- A thousand arrays, none of which is closed. -/
def deepAnswer : Bytes := List.replicate 1000 0x5B

theorem statusOf_deepAnswer :
    statusOf ((plainApp.handle checkoutRequest).exec (answering deepAnswer)).1 = some 500 := by
  decide +kernel

/-- That answer is nested too deeply to be read, and the response is an internal error. -/
theorem not_every_redirection_is_served :
    ¬ ∀ (app : App) (licensing : Licensing) (billing : Billing) (request : HttpRequest)
      (organization : Uuid) (members : Members) (subscription : Subscription) (s : Session)
      (response : Response), app.licensing = some licensing →
        request.method = ("POST" : Text) → request.path = billing.route.path →
        (request.header? "Content-Type").any Content.isJsonType = true →
        organizationOf (request.header? organizationHeader) = .ok organization →
        Document.read Reader.lenient (.bytes request.body) = .ok (.object members) →
        Subscription.shape (.object members) = .pass subscription →
        licensing.service.Answers billing.call organization subscription s response →
        response.isSuccess = true →
          ∃ url served, Redirect.Leads response.body url ∧
            ((app.handle request).exec s).1 = .ok served ∧ served.status = 201 ∧
            Json.decode served.body = .ok (.object [("redirectURL", .string url)]) := by
  intro always
  obtain ⟨url, served, -, hresult, hstatus, -⟩ := always plainApp ⟨Write.plainService, .plain⟩
    .checkout checkoutRequest .nil [] ⟨[]⟩ (answering deepAnswer) ⟨200, deepAnswer⟩
    plainApp_licensing rfl checkoutRequest_path (plainRequest_json _ _ _)
    (plainRequest_valid _ _ _) checkoutRequest_read rfl (answering_answers deepAnswer) rfl
  have hfailed := statusOf_deepAnswer
  rw [hresult] at hfailed
  rw [Option.some.inj hfailed] at hstatus
  cases hstatus

end Web

end Entitlement
