import Entitlement.Proofs.Web.Malformed
import Entitlement.Proofs.Service.View

/-! # Licenses without a key

An empty key is meant to tell the stand-in apart. A request to activate a license has to bring a
key, but the key that is stored is the one in the payload of the authority, and there an empty text
is a key like any other. So the license in force has an empty key where no row is eligible, and also
where the row that it is rebuilt from has one (`Web.empty_key_iff`). The tables are those that
posted activations and updates reach, which are among the ones that calls reach
(`Web.Posted.reaches`). -/

namespace Entitlement

open Entitlement.Task

/-- A license that is rebuilt from the row is eligible. -/
def Row.EligibleAt (now : Int) (row : Row) : Prop :=
  ∃ l, row.license Catalog.standard = .ok l ∧ l.Eligible now

theorem Row.eligibleAt_iff {now : Int} {row : Row} :
    (row.license Catalog.standard).toOption.any (·.isEligible now) = true ↔ row.EligibleAt now := by
  unfold EligibleAt
  cases row.license Catalog.standard with
  | error fault => simp [Except.toOption]
  | ok l => simp [Except.toOption, License.isEligible_iff]

instance (now : Int) (row : Row) : Decidable (row.EligibleAt now) :=
  decidable_of_iff _ Row.eligibleAt_iff

namespace Web

/-! ### Tables that posted activations reach -/

/-- The route of an activation. -/
def activateRoute : Route := Form.activation.route

/-- The table is reached from the empty one by activations that are posted and by updates, each in a
session of its own and with any end. -/
inductive Posted (app : App) (service : Service) : Table → Prop where
  | empty : Posted app service []
  | post (request : HttpRequest) (s : Session) (method : request.method = ("POST" : Text))
    (path : request.path = activateRoute.path) (h : Posted app service s.database.table) :
    Posted app service ((app.handle request).exec s).2.database.table
  | update (organization id : Uuid) (payload : Document) (s : Session)
    (h : Posted app service s.database.table) :
    Posted app service ((Write.update organization id payload).tableAfter service s)

/-- A body leads to its endpoint, or nothing happens to the database. -/
theorem withBody_cases {α : Type} (request : HttpRequest) (shape : Shape α)
    (endpoint : Uuid → α → Act HttpResponse) (s : Session) :
    ((App.withBody request shape endpoint).exec s).2.database = s.database ∨
      ∃ organization a f, (App.withBody request shape endpoint).exec s =
        (endpoint organization a).exec (s.mapContext f) := by
  unfold App.withBody
  cases Content.read request with
  | error rejection => exact .inl rfl
  | ok content =>
    dsimp only
    cases horganization : organizationOf (request.header? organizationHeader) with
    | error fault =>
      rw [exec_bind_error (enterOrganization_error horganization s)]
      exact .inl rfl
    | ok organization =>
      rw [exec_bind_ok (enterOrganization_exec horganization s), exec_ofExcept_bind]
      cases content.fit shape with
      | error fault => exact .inl rfl
      | ok fitted =>
        cases fitted with
        | error rejection => exact .inl rfl
        | ok a => exact .inr ⟨organization, a, _, rfl⟩

/-- **A posted activation is an activation**, or leaves the table alone. -/
theorem post_cases (app : App) {licensing : Licensing} (hl : app.licensing = some licensing)
    {request : HttpRequest} (method : request.method = ("POST" : Text))
    (path : request.path = activateRoute.path) (s : Session) :
    ((app.handle request).exec s).2.database.table = s.database.table ∨
      ∃ organization key t, t.database = s.database ∧
        ((app.handle request).exec s).2.database.table =
          (Write.activate organization key).tableAfter licensing.service t := by
  have hpost : request.method ∈ activateRoute.methods := by
    rw [method]
    exact .head _
  obtain ⟨-, hdatabase, -⟩ := app.handle_exec request s
  rw [app.route_eq request hl (Form.route_mem .activation) hpost path] at hdatabase
  rw [hdatabase]
  rcases withBody_cases request Activation.shape (fun organization activation => do
      let _ ← licensing.service.activate organization activation.key
      Task.ofExcept (HttpResponse.json 202 (.object [("status", .string "accepted")])))
      (App.entered request s) with hsame | ⟨organization, activation, f, hexec⟩
  · exact .inl (congrArg Database.table hsame)
  · refine .inr ⟨organization, activation.key, (App.entered request s).mapContext f, rfl, ?_⟩
    refine (congrArg (fun outcome => outcome.2.database.table) hexec).trans ?_
    rw [exec_bind]
    unfold Write.tableAfter Write.act
    rcases (licensing.service.activate organization activation.key).exec
      ((App.entered request s).mapContext f) with ⟨fault | l, t⟩ <;> rfl

theorem Posted.reaches {app : App} {licensing : Licensing} (hl : app.licensing = some licensing)
    {table : Table} (h : Posted app licensing.service table) :
    Service.Reaches licensing.service table := by
  induction h with
  | empty => exact .empty
  | post request s method path _ ih =>
    rcases post_cases app hl method path s with hsame | ⟨organization, key, t, ht, htable⟩
    · rw [hsame]
      exact ih
    · rw [htable]
      exact .call _ t (ht ▸ ih)
  | update organization id payload s _ ih => exact .call _ s ih

/-! ### What an empty key means -/

/-- **What an empty key means.** In every table that posted activations and updates reach, the
license in force has an empty key where no row of the organization is eligible, and where the row in
force was stored under an empty key; and nowhere else. -/
theorem empty_key_iff (app : App) {licensing : Licensing} (hl : app.licensing = some licensing)
    (organization : Uuid) (s : Session) (posted : Posted app licensing.service s.database.table)
    (answers : s.database.Answers) (clock : s.environment.clock.isFinite = true) :
    ∃ l now, ((licensing.service.active organization).exec s).1 = .ok l ∧
      Service.seconds s.environment.clock = .ok now ∧
      (l.isSynthetic = true ↔
        (∀ row ∈ s.database.table, row.organization = organization → ¬ row.EligibleAt now) ∨
        ∃ row ∈ s.database.table, row.organization = organization ∧ row.EligibleAt now ∧
          row.license Catalog.standard = .ok l ∧ row.key = []) := by
  have hfiled := (posted.reaches hl).filed
  obtain ⟨licenses, now, hnow, hall, hactive⟩ := licensing.service.active_of_rows organization
    answers clock fun row hrow _ => hfiled row hrow
  refine ⟨_, now, hactive, hnow, ?_⟩
  cases hselection : Selection.ofLicenses licenses organization now with
  | absent o =>
    obtain rfl := Selection.organization_of_absent hselection
    have hnone := Selection.ofLicenses_eq_absent_iff.mp hselection
    have hrows : ∀ row ∈ s.database.table, row.organization = o → ¬ row.EligibleAt now := by
      rintro row hrow hown ⟨l, hlicense, heligible⟩
      obtain ⟨l', hl', hlicense', -, -⟩ :=
        Outcome.exists_of_mem hall (List.mem_filter.mpr ⟨hrow, by simpa using hown⟩)
      obtain rfl : l = l' := Except.ok.inj (hlicense.symm.trans hlicense')
      exact hnone l hl' heligible
    exact ⟨fun _ => .inl hrows, fun _ => rfl⟩
  | found l =>
    have hforce := Selection.ofLicenses_eq_found_iff.mp hselection
    obtain ⟨row, hrow, hlicense, hkey, -⟩ := Outcome.exists_of_mem_results hall hforce.mem
    obtain ⟨hrow, hown⟩ := List.mem_filter.mp hrow
    have hown : row.organization = organization := by simpa using hown
    have heligible : row.EligibleAt now := ⟨l, hlicense, hforce.eligible⟩
    have hempty : l.isSynthetic = true ↔ l.key = [] := decide_eq_true_iff
    refine hempty.trans ⟨fun h => .inr ⟨row, hrow, hown, heligible, hlicense, hkey ▸ h⟩, ?_⟩
    rintro (hnone | ⟨other, hother, hown', -, hlicense', hkey'⟩)
    · exact absurd heligible (hnone row hrow hown)
    · obtain ⟨l', -, hlicense'', hkey'', -⟩ :=
        Outcome.exists_of_mem hall (List.mem_filter.mpr ⟨hother, by simpa using hown'⟩)
      obtain rfl : l = l' := Except.ok.inj (hlicense'.symm.trans hlicense'')
      exact hkey''.trans hkey'

/-! ### A license in force without a key -/

/-- The activation of a license under a key that is not empty. -/
def keylessRequest : HttpRequest := plainRequest "POST" "/api/v3/licenses" "\x7b\"key\":\"K\"\x7d"

/-- A payload whose key is empty. -/
def keylessPayload : Text :=
  "\x7b\"id\": \"00000000000000000000000000000001\", \"key\": \"\", \"status\": \"S\", "
    ++ ("\"plan\": \x7b\"name\": \"P\"\x7d, \"valid_from\": 1, " : Text)
    ++ ("\"valid_until\": -1\x7d" : Text)

/-- A session on an empty table whose authority answers with the payload. -/
def keylessSession : Session :=
  { Write.lateSession with
    line := { Line.empty with script := [.ok ⟨200, Utf8.encode keylessPayload⟩] } }

/-- The table after that activation. -/
def keylessTable : Table := ((plainApp.handle keylessRequest).exec keylessSession).2.database.table

theorem keylessRequest_path : keylessRequest.path = activateRoute.path := by decide +kernel

theorem keylessTable_posted :
    Posted plainApp Write.plainService (Service.sessionOn keylessTable).database.table := by
  rw [Service.sessionOn_table, keylessTable]
  exact .post keylessRequest keylessSession rfl keylessRequest_path .empty

theorem keylessTable_passes :
    (∃ row ∈ keylessTable, row.organization = Uuid.nil ∧ row.EligibleAt 0) ∧
      ((Write.plainService.active Uuid.nil).exec (Service.sessionOn keylessTable)).1.toOption.any
        License.isSynthetic = true := by
  decide +kernel

/-- The license of that activation is in force, under the empty key that it was stored with. -/
theorem keylessTable_in_force :
    Posted plainApp Write.plainService (Service.sessionOn keylessTable).database.table ∧
      ∃ l, ((Write.plainService.active Uuid.nil).exec (Service.sessionOn keylessTable)).1 = .ok l ∧
        ∃ row ∈ keylessTable, row.license Catalog.standard = .ok l ∧ row.key = [] := by
  obtain ⟨l, now, hactive, hnow, hiff⟩ := empty_key_iff plainApp plainApp_licensing Uuid.nil
    (Service.sessionOn keylessTable) keylessTable_posted (Service.sessionOn_answers _) rfl
  rw [Service.sessionOn_seconds] at hnow
  obtain rfl : 0 = now := Except.ok.inj hnow
  rw [Service.sessionOn_table] at hiff
  obtain ⟨⟨row, hrow, hown, heligible⟩, hsynthetic⟩ := keylessTable_passes
  rw [hactive] at hsynthetic
  refine ⟨keylessTable_posted, l, hactive, ?_⟩
  rcases hiff.mp hsynthetic with hnone | ⟨row, hrow, -, -, hlicense, hkey⟩
  · exact absurd heligible (hnone row hrow hown)
  · exact ⟨row, hrow, hlicense, hkey⟩

/-- The row stored under an empty key is eligible, and still the license rebuilt from it passes for
the stand-in. -/
theorem empty_key_hides_a_license :
    ¬ ∀ (app : App) (licensing : Licensing) (organization : Uuid) (s : Session),
      app.licensing = some licensing → Posted app licensing.service s.database.table →
        s.database.Answers → s.environment.clock.isFinite = true →
          ∃ l now, ((licensing.service.active organization).exec s).1 = .ok l ∧
            Service.seconds s.environment.clock = .ok now ∧
            (l.isSynthetic = true ↔ ∀ row ∈ s.database.table,
              row.organization = organization → ¬ row.EligibleAt now) := by
  intro always
  obtain ⟨l, now, hactive, hnow, hiff⟩ := always plainApp _ Uuid.nil
    (Service.sessionOn keylessTable) plainApp_licensing keylessTable_posted
    (Service.sessionOn_answers _) rfl
  rw [Service.sessionOn_seconds] at hnow
  obtain rfl : 0 = now := Except.ok.inj hnow
  rw [Service.sessionOn_table] at hiff
  obtain ⟨⟨row, hrow, hown, heligible⟩, hsynthetic⟩ := keylessTable_passes
  rw [hactive] at hsynthetic
  exact hiff.mp hsynthetic row hrow hown heligible

end Web

end Entitlement
