import Entitlement.Proofs.License.ReadBack
import Entitlement.Proofs.Service.View
import Entitlement.Proofs.Web.Malformed

/-! # The license that is served

The license in force is handed out as a dictionary, the data with the key put back. Whatever calls
have stored, this dictionary is one of members that can be written and read again
(`Service.active_gettable`). It is served as it is just where it is strict and none of its members
is kept back; a number that was read as an infinity, or a lone surrogate, makes the response an
internal error (`license_is_served_iff`). -/

namespace Entitlement

open Entitlement.Json Entitlement.Task

/-! ### Members that can be written and read -/

namespace Json

theorem Fits.of_scalars {depth : Nat} {members : Members} (distinct : Members.Distinct members)
    (h : ∀ m ∈ members, m.2.nesting = 0) : Fits (depth + 1) (.object members) :=
  .object distinct fun m hm => .scalar (h m hm)

/-- The members can be written and read again. -/
structure Storable (members : Members) : Prop where
  fits : (object members).Fits Reader.depthLimit
  writable : (object members).isWritable = true

theorem Storable.insert {members : Members} (h : Storable members) (name : Text) {v : Json}
    (fits : v.Fits 2) (writable : v.isWritable = true) :
    Storable (Members.insert members name v) := by
  obtain ⟨hfits, hwritable⟩ := h
  have hinner : Members.Distinct members ∧ ∀ m ∈ members, m.2.Fits 989 := by
    cases hfits with
    | scalar h => cases h
    | object distinct h => exact ⟨distinct, h⟩
  refine ⟨.object (hinner.1.insert name v) fun m hm => ?_, membersWritable_iff.mpr fun m hm => ?_⟩
  · rcases Members.mem_insert hm with rfl | hm
    · exact fits.mono (by omega)
    · exact hinner.2 m hm
  · rcases Members.mem_insert hm with rfl | hm
    · exact writable
    · exact membersWritable_iff.mp hwritable m hm

end Json

/-! ### The dictionary of a license -/

namespace License

theorem syntheticData_storable (now : DateTime) :
    Storable (syntheticData Catalog.standard now) := by
  have distinct : Members.Distinct (syntheticData Catalog.standard now) := by
    change List.Nodup [("status" : Text), "state", "platform", "created_at", "updated_at", "plan",
      "plan_id", "free_until", "valid_from", "valid_until", "event_queue", "features"]
    decide
  have plan : Fits 989 (.object [("name", .string syntheticPlan), ("is_active", .bool true),
      ("description", .string []), ("created_at", .string now.text),
      ("updated_at", .string now.text)]) := by
    refine .of_scalars ?_ ?_
    · change List.Nodup [("name" : Text), "is_active", "description", "created_at", "updated_at"]
      decide
    · simp [nesting]
  have queue : Fits 989 (.object [("event", .string []), ("status", .string []),
      ("scheduled_at", .string []), ("created_at", .string now.text),
      ("updated_at", .string now.text)]) := by
    refine .of_scalars ?_ ?_
    · change List.Nodup [("event" : Text), "status", "scheduled_at", "created_at", "updated_at"]
      decide
    · simp [nesting]
  have features : Fits 989 Catalog.standard.json := (Catalog.json_fits _).mono (by omega)
  refine ⟨.object distinct ?_, rfl⟩
  simp only [syntheticData, List.forall_mem_cons]
  exact ⟨.scalar rfl, .scalar rfl, .scalar rfl, .scalar rfl, .scalar rfl, plan, .scalar rfl,
    .scalar rfl, .scalar rfl, .scalar rfl, queue, features, List.forall_mem_nil _⟩

/-- The dictionary of a license, whose data has these members, with the key put back. -/
theorem gettable_ofMembers {l : License} {members : Members}
    (h : l.terms.data = .ofMembers members) :
    l.gettable = .ofMembers (Members.insert members "key" (.string l.key)) := by
  rw [gettable, h, ← Dictionary.insert_ofMembers]

theorem gettable_of_filed {features : Json} {row : Row} {l : License} (filed : row.Filed features)
    (h : row.license Catalog.standard = .ok l) :
    ∃ members, l.gettable = .ofMembers members ∧ Storable members := by
  obtain ⟨members, hdecode, hfiled⟩ := filed
  obtain ⟨hfits, hwritable⟩ := decode_plain hdecode
  have hread : row.license Catalog.standard = License.ofStored ⟨row.id, row.key, row.organization,
      .object members, row.createdAt, row.updatedAt, row.lastValidatedAt⟩ Catalog.standard := by
    unfold Row.license Store.ofRow
    rw [hdecode]
    rfl
  rw [hread, ofStored_object hfiled.id hfiled.key _ rfl] at h
  rcases Terms.ofData_ofMembers members Catalog.standard with ⟨-, terms, hterms, hdata⟩ |
    ⟨-, fault, hterms⟩
  · rw [hterms] at h
    obtain rfl := Except.ok.inj h
    have hstored : Storable (Members.insert members "features" Catalog.standard.json) :=
      Storable.insert ⟨hfits, hwritable⟩ _ (Catalog.json_fits _) (by decide)
    exact ⟨_, gettable_ofMembers hdata, hstored.insert _ (.scalar rfl) rfl⟩
  · rw [hterms] at h
    cases h

theorem gettable_synthetic (organization : Uuid) (now : DateTime) :
    ∃ members, (synthetic organization Catalog.standard now).gettable = .ofMembers members ∧
      Storable members :=
  ⟨_, gettable_ofMembers rfl, (syntheticData_storable now).insert _ (.scalar rfl) rfl⟩

end License

/-- **The license in force is handed out as members that can be written**, in every table that calls
reach. -/
theorem Service.active_gettable (service : Service) (standard : service.catalog = .standard)
    {s : Session} (reached : Reaches service s.database.table) (organization : Uuid)
    (answers : s.database.Answers) (clock : s.environment.clock.isFinite = true) :
    ∃ l members, ((service.active organization).exec s).1 = .ok l ∧
      l.gettable = .ofMembers members ∧ Storable members := by
  have hfiled := reached.filed
  obtain ⟨l, hactive, -, hsource⟩ :=
    service.active_of_filed organization answers clock fun row hrow _ => hfiled row hrow
  have hgettable : ∃ members, l.gettable = .ofMembers members ∧ Storable members := by
    rcases hsource with ⟨row, hrow, -, hlicense⟩ | rfl
    · exact License.gettable_of_filed (hfiled row hrow) hlicense
    · rw [standard]
      exact License.gettable_synthetic organization s.environment.utc
  obtain ⟨members, hmembers, hstorable⟩ := hgettable
  exact ⟨l, members, hactive, hmembers, hstorable⟩

namespace Web

/-! ### The response -/

/-- The route of the license in force. -/
def activeRoute : Route := ⟨"/api/v3/licenses/active", ["GET"], .active⟩

theorem activeRoute_mem : activeRoute ∈ Route.licensing := .tail _ (.head _)

theorem active_response (service : Service) {request : HttpRequest} {organization : Uuid}
    (valid : organizationOf (request.header? organizationHeader) = .ok organization) {s : Session}
    {l : License} (h : ((service.active organization).exec s).1 = .ok l) :
    ((App.licensingEndpoint service .active request).exec s).1 =
      HttpResponse.dictionary 200 l.gettable := by
  have hentered : ∀ f, ((service.active organization).exec (s.mapContext f)).1 =
      ((service.active organization).exec s).1 := by
    intro f
    rw [(service.active_exec organization _).1, (service.active_exec organization s).1]
    rfl
  have hendpoint : App.licensingEndpoint service .active request = (do
      let organization ← enterOrganization (request.header? organizationHeader)
      let license ← service.active organization
      Task.ofExcept (HttpResponse.dictionary 200 license.gettable)) := rfl
  rw [hendpoint, exec_bind_ok (enterOrganization_exec valid s), exec_bind]
  have hactive := (hentered fun c => { c with organization := some organization.text }).trans h
  rcases hrun : (service.active organization).exec
    (s.mapContext fun c => { c with organization := some organization.text }) with ⟨fault | l', s'⟩
  · rw [hrun] at hactive
    cases hactive
  · rw [hrun] at hactive
    obtain rfl : l' = l := Except.ok.inj hactive
    rfl

/-- A strict dictionary is served as it is encoded, and any other one is an internal error. -/
theorem closing_dictionary {members : Members} (h : Storable members) :
    ((encodable (.object members)).isStrict = true ∧ ∃ body,
      App.closing (HttpResponse.json 200 (encodable (.object members))) =
        ⟨200, some HttpResponse.jsonType, body⟩ ∧
      Json.decode body = .ok (encodable (.object members))) ∨
    (¬ (encodable (.object members)).isStrict = true ∧
      App.closing (HttpResponse.json 200 (encodable (.object members))) = .internalError) := by
  rcases HttpResponse.json_cases 200 (encodable (.object members)) with
    ⟨hstrict, hjson⟩ | ⟨hstrict, kind, message, hjson⟩
  · rw [hjson, App.closing_ok]
    exact .inl ⟨hstrict, _, rfl,
      decode_response (fits_encodable h.fits) (isWritable_encodable h.fits h.writable)⟩
  · rw [hjson, App.closing_failure, hstrict]
    exact .inr ⟨Bool.false_ne_true, rfl⟩

/-- **Which license is served.** In every table that calls reach, an organization has a license in
force or a stand-in, and the request for it gets a response. It is the license if its dictionary,
without the members that a response keeps back, is strict: then the body is decoded to just this. It
is an internal error otherwise. So the dictionary itself is served just where it is strict and
nothing of it is kept back. -/
theorem license_is_served_iff (app : App) {licensing : Licensing}
    (hl : app.licensing = some licensing) (standard : licensing.service.catalog = .standard)
    (request : HttpRequest) (method : request.method = ("GET" : Text))
    (path : request.path = activeRoute.path) {organization : Uuid}
    (valid : organizationOf (request.header? organizationHeader) = .ok organization) (s : Session)
    (reached : Service.Reaches licensing.service s.database.table) (answers : s.database.Answers)
    (clock : s.environment.clock.isFinite = true) :
    ∃ l response, ((licensing.service.active organization).exec s).1 = .ok l ∧
      ((app.handle request).exec s).1 = .ok response ∧
      (response.status = 200 ↔ (encodable l.gettable.json).isStrict = true) ∧
      (response.status = 200 → response.contentType = some HttpResponse.jsonType ∧
        Json.decode response.body = .ok (encodable l.gettable.json)) ∧
      (response.status ≠ 200 → response = .internalError) ∧
      (response.status = 200 ∧ Json.decode response.body = .ok l.gettable.json ↔
        l.gettable.json.isStrict = true ∧ encodable l.gettable.json = l.gettable.json) := by
  obtain ⟨l, members, hactive, hmembers, hstorable⟩ :=
    licensing.service.active_gettable standard reached organization answers clock
  have hentered : ((licensing.service.active organization).exec (App.entered request s)).1 =
      .ok l := by
    rw [← hactive, (licensing.service.active_exec organization _).1,
      (licensing.service.active_exec organization s).1]
    rfl
  have hget : request.method ∈ activeRoute.methods := by
    rw [method]
    exact .head _
  have hhead : request.method ≠ ("HEAD" : Text) := by
    rw [method]
    decide
  obtain ⟨hresult, -, -⟩ := app.handle_exec request s
  rw [App.cutBody_eq hhead, app.route_eq request hl activeRoute_mem hget path,
    show activeRoute.endpoint = .active from rfl, active_response _ valid hentered, hmembers,
    HttpResponse.dictionary_ofMembers] at hresult
  have hobject : l.gettable.json = .object members := by rw [hmembers, Dictionary.json_ofMembers]
  refine ⟨l, _, hactive, hresult, ?_⟩
  rw [hobject]
  rcases closing_dictionary hstorable with ⟨hstrict, body, hclosing, hdecode⟩ | ⟨hno, hclosing⟩
  · rw [hclosing]
    dsimp only
    rw [hdecode]
    refine ⟨⟨fun _ => hstrict, fun _ => rfl⟩, fun _ => ⟨rfl, rfl⟩, fun h => absurd rfl h, ?_⟩
    constructor
    · rintro ⟨-, hsame⟩
      have hsame : encodable (.object members) = .object members := Except.ok.inj hsame
      exact ⟨hsame ▸ hstrict, hsame⟩
    · rintro ⟨-, hsame⟩
      exact ⟨rfl, congrArg Except.ok hsame⟩
  · rw [hclosing]
    have hstatus : HttpResponse.internalError.status ≠ 200 := by decide
    refine ⟨⟨fun h => absurd h hstatus, fun h => absurd h hno⟩, fun h => absurd h hstatus,
      fun _ => rfl, fun h => absurd h.1 hstatus, ?_⟩
    rintro ⟨hstrict, hsame⟩
    rw [hsame] at hno
    exact absurd hstrict hno

/-! ### A license that is not served -/

/-- A payload with a number beyond the greatest finite one. -/
def hugePayload : Text :=
  "\x7b\"id\": \"00000000000000000000000000000001\", \"key\": \"K\", \"status\": \"S\", "
    ++ ("\"plan\": \x7b\"name\": \"P\"\x7d, \"valid_from\": 1, " : Text)
    ++ ("\"valid_until\": -1, \"x\": 1e400\x7d" : Text)

/-- A session on an empty table whose authority answers with the payload. -/
def hugeSession : Session :=
  { Write.lateSession with
    line := { Line.empty with script := [.ok ⟨200, Utf8.encode hugePayload⟩] } }

/-- The table after an activation with that payload. -/
def hugeTable : Table :=
  (Write.activate .nil ("K" : Text)).tableAfter Write.plainService hugeSession

/-- The request for the license in force. -/
def activeRequest : HttpRequest := plainRequest "GET" "/api/v3/licenses/active" []

theorem hugeTable_reached : Service.Reaches Write.plainService hugeTable :=
  .call _ hugeSession .empty

theorem activeRequest_path : activeRequest.path = activeRoute.path := by decide +kernel

theorem statusOf_hugeTable :
    statusOf ((plainApp.handle activeRequest).exec (Service.sessionOn hugeTable)).1 = some 500 := by
  decide +kernel

/-- The license of that activation is in force, and not served. -/
theorem hugeTable_is_not_served :
    Service.Reaches Write.plainService hugeTable ∧
      activeRequest.method = ("GET" : Text) ∧ activeRequest.path = activeRoute.path ∧
      organizationOf (activeRequest.header? organizationHeader) = .ok Uuid.nil ∧
      ∃ l, ((Write.plainService.active Uuid.nil).exec (Service.sessionOn hugeTable)).1 = .ok l ∧
        (encodable l.gettable.json).isStrict = false ∧
        ((plainApp.handle activeRequest).exec (Service.sessionOn hugeTable)).1 =
          .ok .internalError := by
  have valid : organizationOf (activeRequest.header? organizationHeader) = .ok Uuid.nil :=
    plainRequest_valid _ _ _
  obtain ⟨l, response, hactive, hresult, hserved, -, hfailed, -⟩ :=
    license_is_served_iff plainApp plainApp_licensing rfl activeRequest rfl activeRequest_path valid
      (Service.sessionOn hugeTable) hugeTable_reached (Service.sessionOn_answers _) rfl
  have hstatus := statusOf_hugeTable
  rw [hresult] at hstatus
  have hstatus : response.status = 500 := Option.some.inj hstatus
  have hno : response.status ≠ 200 := by
    rw [hstatus]
    decide
  refine ⟨hugeTable_reached, rfl, activeRequest_path, valid, l, hactive, ?_, ?_⟩
  · exact Bool.eq_false_iff.mpr fun hstrict => hno (hserved.mpr hstrict)
  · rw [hresult, hfailed hno]

/-- The number beyond all finite ones is stored with the license, and no response can carry it. -/
theorem not_every_license_is_served :
    ¬ ∀ (app : App) (licensing : Licensing) (request : HttpRequest) (organization : Uuid)
      (s : Session), app.licensing = some licensing → licensing.service.catalog = .standard →
        request.method = ("GET" : Text) → request.path = activeRoute.path →
        organizationOf (request.header? organizationHeader) = .ok organization →
        Service.Reaches licensing.service s.database.table → s.database.Answers →
        s.environment.clock.isFinite = true →
          ∃ l response, ((licensing.service.active organization).exec s).1 = .ok l ∧
            ((app.handle request).exec s).1 = .ok response ∧ response.status = 200 ∧
            Json.decode response.body = .ok l.gettable.json := by
  intro always
  obtain ⟨l, response, -, hresult, hstatus, -⟩ := always plainApp _ activeRequest Uuid.nil
    (Service.sessionOn hugeTable) plainApp_licensing rfl rfl activeRequest_path
    (plainRequest_valid _ _ _) hugeTable_reached (Service.sessionOn_answers _) rfl
  have hfailed := statusOf_hugeTable
  rw [hresult] at hfailed
  rw [Option.some.inj hfailed] at hstatus
  cases hstatus

end Web

end Entitlement
