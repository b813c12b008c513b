import Entitlement.Proofs.Service.FailedWrite
import Entitlement.Proofs.Web.Handle
import Entitlement.Proofs.Web.Organization
import Entitlement.Proofs.Web.Response

/-! # Malformed bodies

Three endpoints read a body (`Form`), and `Form.Rejects` says why a body is turned away that is no
object of the right shape. Such a body never has an effect: the database and the authority are left
alone. The answer tells the refusal if every input that it echoes can be written in strict JSON; if
one cannot, the answer is an internal error, and bytes that cannot be read at all are answered in
one sentence without a code (`malformed_body_is_told_iff`). -/

namespace Entitlement

open Entitlement.Json

/-! ### Issues in a response -/

/-- All that an issue says beside its input can be written. -/
structure Issue.Plain (issue : Issue) : Prop where
  kind : issue.kind.isScalar = true
  place : ∀ step ∈ issue.place, step.json.isStrict = true
  message : issue.message.isScalar = true
  context : ∀ context ∈ issue.context, (Web.encodable context).isStrict = true

namespace Issue

theorem Plain.under {issue : Issue} (h : issue.Plain) {step : PlaceStep}
    (hs : step.json.isStrict = true) : (issue.under step).Plain where
  kind := h.kind
  place := by
    intro s hmem
    rcases List.mem_cons.mp hmem with rfl | hmem
    · exact hs
    · exact h.place s hmem
  message := h.message
  context := h.context

/-- **A plain issue can be reported** just where its input can be written. -/
theorem Plain.report_iff {issue : Issue} (h : issue.Plain) :
    (Web.encodable issue.report).isStrict = true ↔ (Web.encodable issue.input).isStrict = true := by
  obtain ⟨kind, place, message, input, context⟩ := issue
  obtain ⟨hkind, hplace, hmessage, hcontext⟩ := h
  dsimp only at hkind hplace hmessage hcontext
  have hsteps : (Web.encodable (.array (place.map PlaceStep.json))).isStrict = true := by
    rw [Web.encodable, Web.encodableItems_eq, isStrict, itemsStrict_iff]
    intro y hy
    rw [List.map_map] at hy
    obtain ⟨step, hstep, rfl⟩ := List.mem_map.mp hy
    have hsame : Web.encodable step.json = step.json := by cases step <;> rfl
    rw [Function.comp_apply, hsame]
    exact hplace step hstep
  have hreport : Web.encodable (Issue.report ⟨kind, place, message, input, context⟩) =
      .object (([("type", .string kind), ("loc", Web.encodable (.array (place.map PlaceStep.json))),
        ("msg", .string message), ("input", Web.encodable input)] : Members) ++
          context.toList.map fun c => (("ctx" : Text), Web.encodable c)) := by
    cases context <;> rfl
  rw [hreport, isStrict, membersStrict_iff]
  constructor
  · intro hall
    exact (hall (("input" : Text), Web.encodable input) (by simp)).2
  · intro hinput m hm
    rcases List.mem_append.mp hm with hm | hm
    · simp only [List.mem_cons, List.not_mem_nil, or_false] at hm
      rcases hm with rfl | rfl | rfl | rfl
      · exact ⟨Text.isScalar_ofString _, hkind⟩
      · exact ⟨Text.isScalar_ofString _, hsteps⟩
      · exact ⟨Text.isScalar_ofString _, hmessage⟩
      · exact ⟨Text.isScalar_ofString _, hinput⟩
    · obtain ⟨c, hc, rfl⟩ := List.mem_map.mp hm
      exact ⟨Text.isScalar_ofString _, hcontext c (by simpa using hc)⟩

end Issue

/-! ### Issues of shapes -/

namespace Checked

/-- Whatever issues there are, they are plain. -/
def Plain {α : Type} (checked : Checked α) : Prop :=
  ∀ issues, checked = .fail issues → ∀ issue ∈ issues, issue.Plain

variable {α β : Type}

theorem plain_pass (a : α) : Plain (.pass a) := nofun

theorem plain_fail {issue : Issue} (h : issue.Plain) : Plain (.fail [issue] : Checked α) := by
  rintro issues ⟨⟩ other hmem
  rw [List.mem_singleton.mp hmem]
  exact h

theorem plain_reject (kind message : String) (input : Json) :
    Plain (reject kind message input : Checked α) :=
  plain_fail ⟨Text.isScalar_ofString _, nofun, Text.isScalar_ofString _, nofun⟩

theorem Plain.under {checked : Checked α} (h : checked.Plain) {step : PlaceStep}
    (hs : step.json.isStrict = true) : (checked.under step).Plain := by
  cases checked with
  | pass a => exact plain_pass a
  | fail issues =>
    rintro issues' ⟨⟩ issue hmem
    obtain ⟨inner, hinner, rfl⟩ := List.mem_map.mp hmem
    exact (h issues rfl inner hinner).under hs

theorem Plain.map {checked : Checked α} (h : checked.Plain) (f : α → β) :
    (f <$> checked).Plain := by
  cases checked with
  | pass a => exact plain_pass (f a)
  | fail issues =>
    rintro issues' ⟨⟩
    exact h issues rfl

end Checked

theorem Shape.text_plain (v : Json) : (Shape.text v).Plain := by
  cases v with
  | string s => exact Checked.plain_pass s
  | _ => exact Checked.plain_reject _ _ _

theorem Activation.shape_plain (members : Members) :
    (Activation.shape (.object members)).Plain := by
  refine Checked.Plain.map ?_ Activation.mk
  unfold Shape.required
  split
  · next json _ =>
    refine Checked.Plain.under ?_ (Text.isScalar_ofString _)
    unfold Activation.keyShape
    split
    · refine Checked.plain_fail ⟨Text.isScalar_ofString _, nofun, Text.isScalar_ofString _, ?_⟩
      rintro context ⟨⟩
      decide
    · next other _ => exact Shape.text_plain json
  · refine Checked.plain_fail ⟨Text.isScalar_ofString _, ?_, Text.isScalar_ofString _, nofun⟩
    intro step hstep
    rw [List.mem_singleton.mp hstep]
    exact Text.isScalar_ofString _

theorem Subscription.shape_plain (members : Members) :
    (Subscription.shape (.object members)).Plain := by
  refine Checked.Plain.map ?_ Subscription.mk
  unfold Shape.optional
  split
  · exact (Shape.text_plain _).under (Text.isScalar_ofString _)
  · exact Checked.plain_pass _

namespace Web

open Entitlement.Task

/-! ### Forms -/

/-- What an endpoint reads in a body. -/
inductive Form where
  | activation
  | checkout
  | portal

namespace Form

/-- The values of the form. -/
def Value : Form → Type
  | activation => Activation
  | checkout | portal => Subscription

def shape : (form : Form) → Shape form.Value
  | activation => Activation.shape
  | checkout | portal => Subscription.shape

/-- The route whose bodies are of the form. -/
def route : Form → Route
  | activation => ⟨"/api/v3/licenses", ["POST"], .activate⟩
  | checkout => ⟨"/api/v1/checkout", ["POST"], .checkout⟩
  | portal => ⟨"/api/v1/portal", ["POST"], .portal⟩

/-- The body is read as an object that has the shape of the form. -/
def Accepts (form : Form) (body : Bytes) : Prop :=
  ∃ members a, Document.read Reader.lenient (.bytes body) = .ok (.object members) ∧
    form.shape (.object members) = .pass a

/-- **Why a body is turned away**: it is missing; its bytes are no text; the text is no JSON, with
or without a place to tell; the value is no object; the object has another shape. -/
inductive Rejects (form : Form) : (body : Bytes) → Rejection → Prop where
  | missing : Rejects form [] (.malformed [Content.missing])
  | noText {body : Bytes} {fault : DecodingFault}
    (h : Document.read Reader.lenient (.bytes body) = .error (.bytes fault)) :
    Rejects form body .unparsable
  | overlong {body : Bytes} {whole : Text} {fault : Reader.Fault}
    (h : Document.read Reader.lenient (.bytes body) = .error (.text whole fault))
    (place : fault.cause.hasPlace = false) : Rejects form body .unparsable
  | noJson {body : Bytes} {whole : Text} {fault : Reader.Fault} (some : body ≠ [])
    (h : Document.read Reader.lenient (.bytes body) = .error (.text whole fault))
    (place : fault.cause.hasPlace = true) :
    Rejects form body (.malformed [Content.undecodable whole fault])
  | noObject {body : Bytes} {v : Json}
    (h : Document.read Reader.lenient (.bytes body) = .ok v) (hv : ∀ members, v ≠ .object members) :
    Rejects form body (.malformed [Content.noObject v])
  | misfit {body : Bytes} {members : Members} {issues : List Issue}
    (h : Document.read Reader.lenient (.bytes body) = .ok (.object members))
    (hs : form.shape (.object members) = .fail issues) :
    Rejects form body (.malformed (issues.map (·.under (.member "body"))))

theorem route_mem (form : Form) : form.route ∈ Route.licensing := by
  cases form with
  | activation => exact .head _
  | checkout => exact .tail _ (.tail _ (.tail _ (.head _)))
  | portal => exact .tail _ (.tail _ (.tail _ (.tail _ (.head _))))

theorem shape_plain (form : Form) (members : Members) : (form.shape (.object members)).Plain := by
  cases form with
  | activation => exact Activation.shape_plain members
  | checkout => exact Subscription.shape_plain members
  | portal => exact Subscription.shape_plain members

theorem Rejects.plain {form : Form} {body : Bytes} {issues : List Issue}
    (h : form.Rejects body (.malformed issues)) : ∀ issue ∈ issues, issue.Plain := by
  have hbody : (PlaceStep.member "body").json.isStrict = true := Text.isScalar_ofString _
  have hplace : ∀ step ∈ [PlaceStep.member "body"], step.json.isStrict = true := by
    intro step hstep
    rw [List.mem_singleton.mp hstep]
    exact hbody
  intro issue hissue
  cases h with
  | missing =>
    rw [List.mem_singleton.mp hissue]
    exact ⟨Text.isScalar_ofString _, hplace, Text.isScalar_ofString _, nofun⟩
  | @noJson _ whole fault _ hread place =>
    rw [List.mem_singleton.mp hissue]
    refine ⟨Text.isScalar_ofString _, ?_, Text.isScalar_ofString _, ?_⟩
    · intro step hstep
      rcases List.mem_cons.mp hstep with rfl | hstep
      · exact hbody
      · rw [List.mem_singleton.mp hstep]
        rfl
    · rintro context ⟨⟩
      have hwording : fault.cause.wording.isScalar = true := by
        cases hc : fault.cause with
        | refusedConstant name => rw [hc] at place; cases place
        | longInteger digits => rw [hc] at place; cases place
        | deepNesting inObject => rw [hc] at place; cases place
        | _ => exact Text.isScalar_ofString _
      change membersStrict [(("error" : Text), .string fault.cause.wording)] = true
      rw [membersStrict_iff]
      intro m hm
      rw [List.mem_singleton.mp hm]
      exact ⟨Text.isScalar_ofString _, hwording⟩
  | noObject hread hv =>
    rw [List.mem_singleton.mp hissue]
    exact ⟨Text.isScalar_ofString _, hplace, Text.isScalar_ofString _, nofun⟩
  | @misfit _ members inner hread hs =>
    obtain ⟨issue', hissue', rfl⟩ := List.mem_map.mp hissue
    exact (form.shape_plain members inner hs issue' hissue').under hbody

end Form

/-! ### Turning a body away -/

/-- **A body that is not accepted is turned away** before anything is done for it: the outcome is
the answer to the rejection, and no more than the context of the session is changed. -/
theorem withBody_rejects (form : Form) {request : HttpRequest}
    (json : (request.header? "Content-Type").any Content.isJsonType = true) {organization : Uuid}
    (valid : organizationOf (request.header? organizationHeader) = .ok organization)
    (hno : ¬ form.Accepts request.body) (endpoint : Uuid → form.Value → Act HttpResponse)
    (s : Session) : ∃ rejection f, form.Rejects request.body rejection ∧
      (App.withBody request form.shape endpoint).exec s = (rejection.response, s.mapContext f) := by
  -- Once the body is read, the organization is entered, and then the shape decides.
  have hfit : ∀ {content : Content} {rejection : Rejection}, Content.read request = .ok content →
      content.fit form.shape = .ok (.error rejection) →
      ∃ f, (App.withBody request form.shape endpoint).exec s =
        (rejection.response, s.mapContext f) := by
    intro content rejection hread hcontent
    unfold App.withBody
    rw [hread]
    dsimp only
    rw [exec_bind_ok (enterOrganization_exec valid s), exec_ofExcept_bind, hcontent]
    exact ⟨_, rfl⟩
  by_cases hempty : request.body = []
  · have hread : Content.read request = .ok .absent := by
      rw [Content.read, if_pos hempty]
    obtain ⟨f, hf⟩ := hfit hread rfl
    rw [hempty]
    exact ⟨_, f, .missing, hf⟩
  have hunread : ∀ {rejection : Rejection}, Content.read request = .error rejection →
      (App.withBody request form.shape endpoint).exec s =
        (rejection.response, s.mapContext id) := by
    intro rejection hread
    unfold App.withBody
    rw [hread]
    rfl
  cases hdocument : Document.read Reader.lenient (.bytes request.body) with
  | error fault =>
    cases fault with
    | bytes fault =>
      have hread : Content.read request = .error .unparsable := by
        rw [Content.read, if_neg hempty, if_pos json, hdocument]
      exact ⟨_, id, .noText hdocument, hunread hread⟩
    | text whole fault =>
      cases hplace : fault.cause.hasPlace with
      | false =>
        have hread : Content.read request = .error .unparsable := by
          rw [Content.read, if_neg hempty, if_pos json, hdocument]
          exact if_neg (by rw [hplace]; exact Bool.false_ne_true)
        exact ⟨_, id, .overlong hdocument hplace, hunread hread⟩
      | true =>
        have hread : Content.read request =
            .error (.malformed [Content.undecodable whole fault]) := by
          rw [Content.read, if_neg hempty, if_pos json, hdocument]
          exact if_pos hplace
        exact ⟨_, id, .noJson hempty hdocument hplace, hunread hread⟩
  | ok v =>
    have hread : Content.read request = .ok (.value v) := by
      rw [Content.read, if_neg hempty, if_pos json, hdocument]
    cases v with
    | object members =>
      cases hshape : form.shape (.object members) with
      | pass a => exact absurd ⟨members, a, hdocument, hshape⟩ hno
      | fail issues =>
        have hcontent : (Content.value (.object members)).fit form.shape =
            .ok (.error (.malformed (issues.map (·.under (.member "body"))))) := by
          unfold Content.fit
          dsimp only
          rw [hshape]
          rfl
        obtain ⟨f, hf⟩ := hfit hread hcontent
        exact ⟨_, f, .misfit hdocument hshape, hf⟩
    | null | bool b | int i | float x | string t | array items =>
      obtain ⟨f, hf⟩ := hfit hread rfl
      exact ⟨_, f, .noObject hdocument nofun, hf⟩

/-! ### The answer -/

/-- The response that tells a refusal. -/
def HttpResponse.telling (refusal : Refusal) : HttpResponse :=
  ⟨refusal.status, some jsonType, (refusal.record none).write .response⟩

/-- The response tells a refusal of the category: it has the status of the category, and its body is
an object with the code. -/
def HttpResponse.Tells (response : HttpResponse) (category : Category) : Prop :=
  response.status = category.status ∧ response.contentType = some jsonType ∧
    ∃ members, response.body = (Json.object members).write .response ∧
      Members.get? members "code" = some (.string category.code)

theorem HttpResponse.tells_telling (refusal : Refusal) :
    (telling refusal).Tells refusal.category := ⟨rfl, rfl, _, rfl, rfl⟩

/-- The answer to bytes that cannot be read. -/
def unreadableAnswer : HttpResponse := .detail 400 "There was an error parsing the body"

/-- Every input that the rejection echoes can be written in strict JSON. -/
def Rejection.Told : Rejection → Prop
  | .unparsable => False
  | .malformed issues => ∀ issue ∈ issues, (encodable issue.input).isStrict = true

theorem not_tells_internalError : ¬ HttpResponse.internalError.Tells .invalidInput :=
  fun h => absurd h.1 (by decide)

theorem not_tells_unreadableAnswer : ¬ unreadableAnswer.Tells .invalidInput := by
  rintro ⟨-, -, members, hbody, hcode⟩
  have hname : Style.response.string "code" <:+: unreadableAnswer.body := by
    rw [hbody, write]
    exact (name_infix_writeMembers .response (Members.mem_of_get? hcode) []).trans
      (List.suffix_cons _ _).isInfix
  exact absurd hname (by decide +kernel)

theorem record_isStrict_iff (issues : List Issue) :
    ((Rejection.refusal issues).record none).isStrict = true ↔
      ∀ issue ∈ issues, (encodable issue.report).isStrict = true := by
  have hrecord : (Rejection.refusal issues).record none = .object [("trace_id", .null),
      ("code", .string "INVALID_INPUT"), ("message", .string "malformed request body"),
      ("details", .object [("errors", .array (issues.map fun issue => encodable issue.report))])] :=
    rfl
  rw [hrecord]
  simp only [isStrict, membersStrict, Text.isScalar_ofString, Bool.true_and, Bool.and_true,
    itemsStrict_iff, List.forall_mem_map]

/-- **The response that leaves for a rejection**: the refusal, if every input that it echoes can be
written; an internal error, if one cannot; and one sentence for bytes that cannot be read. -/
theorem closing_rejection {form : Form} {body : Bytes} {rejection : Rejection}
    (h : form.Rejects body rejection) :
    (rejection = .unparsable ∧ App.closing rejection.response = unreadableAnswer) ∨
    ∃ issues, rejection = .malformed issues ∧
      ((rejection.Told ∧
        App.closing rejection.response = .telling (Rejection.refusal issues)) ∨
      (¬ rejection.Told ∧ App.closing rejection.response = .internalError)) := by
  cases rejection with
  | unparsable => exact .inl ⟨rfl, rfl⟩
  | malformed issues =>
    have hplain := h.plain
    have htold : (Rejection.malformed issues).Told ↔
        ((Rejection.refusal issues).record none).isStrict = true := by
      rw [record_isStrict_iff]
      exact forall₂_congr fun issue hissue => (hplain issue hissue).report_iff.symm
    refine .inr ⟨issues, rfl, ?_⟩
    have hresponse : (Rejection.malformed issues).response =
        HttpResponse.json 400 ((Rejection.refusal issues).record none) := rfl
    rw [hresponse, htold]
    rcases HttpResponse.json_cases 400 ((Rejection.refusal issues).record none) with
      ⟨hstrict, hjson⟩ | ⟨hstrict, kind, message, hjson⟩
    · rw [hjson]
      exact .inl ⟨hstrict, rfl⟩
    · rw [hjson]
      exact .inr ⟨by rw [hstrict]; exact Bool.false_ne_true, rfl⟩

/-- **A malformed body has no effect**, and its answer tells the refusal just where every input that
it echoes can be written in strict JSON. Otherwise the answer is an internal error, and for bytes
that cannot be read at all it is one sentence with the status of a refusal. -/
theorem malformed_body_is_told_iff (app : App) {licensing : Licensing}
    (hl : app.licensing = some licensing) (form : Form) (request : HttpRequest)
    (method : request.method = ("POST" : Text)) (path : request.path = form.route.path)
    (json : (request.header? "Content-Type").any Content.isJsonType = true) {organization : Uuid}
    (valid : organizationOf (request.header? organizationHeader) = .ok organization)
    (hno : ¬ form.Accepts request.body) (s : Session) :
    ((app.handle request).exec s).2.database = s.database ∧
    ((app.handle request).exec s).2.line = s.line ∧
    ∃ rejection response, form.Rejects request.body rejection ∧
      ((app.handle request).exec s).1 = .ok response ∧
      (response.Tells .invalidInput ↔ rejection.Told) ∧
      (∀ issues, rejection = .malformed issues → rejection.Told →
        response = .telling (Rejection.refusal issues)) ∧
      (∀ issues, rejection = .malformed issues → ¬ rejection.Told → response = .internalError) ∧
      (rejection = .unparsable → response = unreadableAnswer) := by
  obtain ⟨endpoint, hroute⟩ : ∃ endpoint, app.route request =
      App.withBody request form.shape endpoint := by
    have hmethod : request.method ∈ form.route.methods := by
      rw [method]
      cases form <;> exact .head _
    rw [app.route_eq request hl form.route_mem hmethod path]
    cases form <;> exact ⟨_, rfl⟩
  obtain ⟨rejection, f, hrejects, hexec⟩ :=
    withBody_rejects form json valid hno endpoint (App.entered request s)
  obtain ⟨hresult, hdatabase, hline⟩ := app.handle_exec request s
  rw [hroute, hexec] at hresult hdatabase hline
  have hhead : request.method ≠ ("HEAD" : Text) := by
    rw [method]
    decide
  rw [App.cutBody_eq hhead] at hresult
  refine ⟨hdatabase, hline, rejection, _, hrejects, hresult, ?_⟩
  rcases closing_rejection hrejects with ⟨rfl, hclosing⟩ |
    ⟨issues, rfl, ⟨htold, hclosing⟩ | ⟨htold, hclosing⟩⟩
  · rw [hclosing]
    exact ⟨⟨fun h => absurd h not_tells_unreadableAnswer, False.elim⟩, nofun, nofun, fun _ => rfl⟩
  · rw [hclosing]
    refine ⟨⟨fun _ => htold, fun _ => HttpResponse.tells_telling _⟩, ?_,
      fun _ _ hno => absurd htold hno, nofun⟩
    rintro issues' ⟨⟩ -
    rfl
  · rw [hclosing]
    exact ⟨⟨fun h => absurd h not_tells_internalError, fun h => absurd h htold⟩,
      fun _ _ h => absurd h htold, fun _ _ _ => rfl, nofun⟩

/-! ### A body that cannot be echoed -/

/-- A local application with the licensing part of a service that reaches its authority at a plain
address. -/
def plainApp : App where
  settings := ⟨"local", "info", "licensing", "0.0.0.0", 8014, "", "http://a", .ofInt 10, 3, "K",
    false, [], []⟩
  licensing := some ⟨Write.plainService, .plain⟩
  commit := "unknown"
  startedAt := .zero

theorem plainApp_licensing : plainApp.licensing = some ⟨Write.plainService, .plain⟩ := rfl

/-- A request of the organization of value zero. -/
def plainRequest (method target : Text) (body : Text) : HttpRequest where
  method := method
  target := target
  headers := [("Content-Type", "application/json"), (organizationHeader, Uuid.nil.text)]
  body := Utf8.encode body

theorem plainRequest_json (method target body : Text) :
    ((plainRequest method target body).header? "Content-Type").any Content.isJsonType = true := by
  have hheader : (plainRequest method target body).header? "Content-Type" =
      some ("application/json" : Text) := rfl
  rw [hheader]
  decide +kernel

theorem plainRequest_valid (method target body : Text) :
    organizationOf ((plainRequest method target body).header? organizationHeader) =
      .ok Uuid.nil :=
  have hread : Uuid.read? Uuid.nil.text = some Uuid.nil := by decide +kernel
  organizationOf_eq_ok_iff.mpr ⟨Uuid.nil.text, rfl, Uuid.read?_eq_some_iff.mp hread⟩

/-- An activation whose key is what is not a number. -/
def nanRequest : HttpRequest := plainRequest "POST" "/api/v3/licenses" "\x7b\"key\":NaN\x7d"

/-- The status of a response, if there is one. -/
def statusOf (outcome : Except Fault HttpResponse) : Option Int :=
  match outcome with
  | .ok response => some response.status
  | .error _ => none

theorem nanRequest_read : Document.read Reader.lenient (.bytes nanRequest.body) =
    .ok (.object [("key", .float .nan)]) := by
  decide +kernel

theorem nanRequest_not_accepted : ¬ Form.activation.Accepts nanRequest.body := by
  rintro ⟨members, a, hread, hshape⟩
  rw [nanRequest_read] at hread
  cases hread
  cases hshape

theorem statusOf_nanRequest :
    statusOf ((plainApp.handle nanRequest).exec Write.lateSession).1 = some 500 := by
  decide +kernel

/-- That activation has no effect, and is not told to be malformed. -/
theorem nanRequest_is_not_told :
    nanRequest.method = ("POST" : Text) ∧ nanRequest.path = Form.activation.route.path ∧
      (nanRequest.header? "Content-Type").any Content.isJsonType = true ∧
      organizationOf (nanRequest.header? organizationHeader) = .ok Uuid.nil ∧
      ¬ Form.activation.Accepts nanRequest.body ∧
      ((plainApp.handle nanRequest).exec Write.lateSession).2.database =
        Write.lateSession.database ∧
      ((plainApp.handle nanRequest).exec Write.lateSession).2.line = Write.lateSession.line ∧
      ∃ rejection response, Form.activation.Rejects nanRequest.body rejection ∧
        ((plainApp.handle nanRequest).exec Write.lateSession).1 = .ok response ∧
        response.status = 500 ∧ ¬ rejection.Told := by
  have method : nanRequest.method = ("POST" : Text) := rfl
  have path : nanRequest.path = Form.activation.route.path := by decide +kernel
  have json : (nanRequest.header? "Content-Type").any Content.isJsonType = true :=
    plainRequest_json _ _ _
  have valid : organizationOf (nanRequest.header? organizationHeader) = .ok Uuid.nil :=
    plainRequest_valid _ _ _
  obtain ⟨hdatabase, hline, rejection, response, hrejects, hresult, -, htold, -, -⟩ :=
    malformed_body_is_told_iff plainApp plainApp_licensing .activation nanRequest method path json
      valid nanRequest_not_accepted Write.lateSession
  have hstatus := statusOf_nanRequest
  rw [hresult] at hstatus
  have hstatus : response.status = 500 := Option.some.inj hstatus
  refine ⟨method, path, json, valid, nanRequest_not_accepted, hdatabase, hline, rejection, response,
    hrejects, hresult, hstatus, fun h => ?_⟩
  cases rejection with
  | unparsable => exact h
  | malformed issues =>
    rw [htold issues rfl h] at hstatus
    cases hstatus

/-- The refusal echoes the NaN that was read, so it cannot be written, and the response is an
internal error. -/
theorem not_every_malformed_body_is_told :
    ¬ ∀ (app : App) (licensing : Licensing) (form : Form) (request : HttpRequest)
      (organization : Uuid) (s : Session), app.licensing = some licensing →
        request.method = ("POST" : Text) → request.path = form.route.path →
        (request.header? "Content-Type").any Content.isJsonType = true →
        organizationOf (request.header? organizationHeader) = .ok organization →
        ¬ form.Accepts request.body →
          ((app.handle request).exec s).2.database = s.database ∧
          ((app.handle request).exec s).2.line = s.line ∧
          ∃ response, ((app.handle request).exec s).1 = .ok response ∧
            response.Tells .invalidInput := by
  intro always
  obtain ⟨-, -, response, hresult, hstatus', -⟩ := always plainApp _ .activation nanRequest
    Uuid.nil Write.lateSession plainApp_licensing rfl (by decide +kernel) (plainRequest_json _ _ _)
    (plainRequest_valid _ _ _) nanRequest_not_accepted
  have hstatus := statusOf_nanRequest
  rw [hresult] at hstatus
  rw [Option.some.inj hstatus] at hstatus'
  cases hstatus'

end Web

end Entitlement
