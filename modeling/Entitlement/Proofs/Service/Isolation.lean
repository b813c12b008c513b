import Entitlement.Proofs.Service.Call
import Entitlement.Proofs.Store.Confined

/-! # Organizations are kept apart

Whatever is asked of the service for one organization spares the rows of every other one
(`Errand.spares`): the license that an activation stores is the caller's, whatever the payload says,
and an update reaches rows of the caller alone. By induction a whole sequence of errands does
(`owned_tableAfterAll`). Conversely what an organization asks shows nothing of the rows of others,
except that an activation may find an id or a key taken (`Errand.confined`). Together: no
organization can change or hide what another one gets (`organizations_are_isolated`). -/

namespace Entitlement

open Entitlement.Task Act

namespace Service

variable {organization : Uuid}

theorem announce_offline (event : Text) (caller : Uuid) (l : License) :
    Offline (announce event caller l) :=
  (Offline.of_ofExcept _).bind fun _ => .of_log _ _ _ _

theorem activate_spares (service : Service) {caller : Uuid} (h : caller ≠ organization)
    (key : Text) : Spares organization (service.activate caller key) := by
  refine (Spares.of_offline (wrapping_offline _ (service.client.fetchLicense_offline key))).bind
    fun _ payload _ => ?_
  refine (Spares.of_offline .of_now).bind fun _ now _ => ?_
  refine (Spares.of_offline (wrapping_offline _ (.of_ofExcept _))).bind fun _ l hl => ?_
  rw [wrapping_exec] at hl
  obtain ⟨members, -, -, -, -, horg, -⟩ := License.parse_ok (mapError_eq_ok hl)
  have hstored : l.stored.organization ≠ organization := by
    rw [show l.stored.organization = caller from horg]
    exact h
  refine (Store.create_spares hstored).bind fun _ _ _ => .of_offline ?_
  exact (announce_offline _ _ l).bind fun _ => .of_pure l

theorem update_spares (service : Service) {caller : Uuid} (h : caller ≠ organization) (id : Uuid)
    (payload : Document) : Spares organization (service.update caller id payload) := by
  refine (Store.get_spares caller id).bind fun _ stored _ => ?_
  refine (Spares.of_offline (.of_ofExcept _)).bind fun _ license _ => ?_
  refine (Spares.of_offline .of_now).bind fun _ now _ => ?_
  refine (Spares.of_offline (wrapping_offline _ (.of_ofExcept _))).bind fun _ l _ => ?_
  refine (Store.update_spares h l.stored).bind fun _ _ _ => .of_offline ?_
  exact (announce_offline _ _ l).bind fun _ => .of_pure l

theorem logSelection_offline (caller : Uuid) (candidates : Nat) (selection : Selection) :
    Offline (logSelection caller candidates selection) := by
  cases selection <;> exact .of_log _ _ _ _

theorem countResolution_offline (service : Service) (outcome : Text) :
    Offline (service.countResolution outcome) := by
  unfold countResolution
  split
  · exact .of_record _
  · exact .of_pure ()

theorem handOut_offline (service : Service) (caller : Uuid) (candidates : Nat)
    (selection : Selection) : Offline (service.handOut caller candidates selection) := by
  refine (logSelection_offline caller candidates selection).bind fun _ => ?_
  cases selection with
  | found l => exact (countResolution_offline service _).bind fun _ => .of_pure l
  | absent o =>
    refine (countResolution_offline service _).bind fun _ => ?_
    exact (Offline.of_log _ _ _ _).bind fun _ => Offline.of_now.bind fun _ => .of_pure _

/-- What is left of a search for the license in force after its statement. -/
theorem afterRows_offline (service : Service) (caller : Uuid) (stored : List StoredLicense) :
    Offline (do
      let now ← Task.ofExcept (seconds (← get).environment.clock)
      let selection ← Task.ofExcept (Selection.ofStored stored caller now)
      service.handOut caller stored.length selection) := by
  refine .get_bind (fun _ _ => rfl) fun s => (Offline.of_ofExcept _).bind fun now => ?_
  exact (Offline.of_ofExcept _).bind fun selection =>
    handOut_offline service caller stored.length selection

theorem active_spares (service : Service) (caller : Uuid) :
    Spares organization (service.active caller) :=
  (Store.getAll_spares caller).bind fun _ stored _ =>
    .of_offline (afterRows_offline service caller stored)

theorem active_confined (service : Service) (organization : Uuid) :
    Confined organization (service.active organization) :=
  (Store.getAll_confined organization).bind fun stored =>
    .of_offline (afterRows_offline service organization stored)

theorem update_confined (service : Service) (organization id : Uuid) (payload : Document) :
    Confined organization (service.update organization id payload) := by
  refine (Store.get_confined organization id).bind fun stored => ?_
  refine (Confined.of_offline (.of_ofExcept _)).bind fun license => ?_
  refine (Confined.of_offline .of_now).bind fun now => ?_
  refine (Confined.of_offline (wrapping_offline _ (.of_ofExcept _))).bind fun l => ?_
  refine (Store.update_confined organization l.stored).bind fun _ => .of_offline ?_
  exact (announce_offline _ _ l).bind fun _ => .of_pure l

theorem afterActive_offline (service : Service) (call : Authority.Call)
    (subscription : Subscription) (license : License) :
    Offline (do
      let body ← Task.ofExcept subscription.body
      let answer ← service.client.perform call license.key body
      let url ← Task.ofExcept (Redirect.ofDocument (.bytes answer))
      return (⟨url⟩ : Redirection)) := by
  refine (Offline.of_ofExcept _).bind fun body => ?_
  refine (service.client.perform_offline call license.key body).bind fun answer => ?_
  exact (Offline.of_ofExcept _).bind fun url => .of_pure _

theorem openSession_spares (service : Service) (call : Authority.Call) (caller : Uuid)
    (subscription : Subscription) :
    Spares organization (service.openSession call caller subscription) :=
  (active_spares service caller).bind fun _ license _ =>
    .of_offline (afterActive_offline service call subscription license)

theorem openSession_confined (service : Service) (call : Authority.Call) (organization : Uuid)
    (subscription : Subscription) :
    Confined organization (service.openSession call organization subscription) :=
  (active_confined service organization).bind fun license =>
    .of_offline (afterActive_offline service call subscription license)

end Service

/-! ### Errands -/

/-- What an organization asks of the service: a call for licenses, or the opening of a session. -/
inductive Errand where
  | license (call : Call)
  | session (call : Authority.Call) (organization : Uuid) (subscription : Subscription)

namespace Errand

/-- The organization that asks. -/
def organization : Errand → Uuid
  | license (.write w) => w.organization
  | license (.view organization) => organization
  | session _ organization _ => organization

/-- The errand stores a license of its own. -/
def IsActivation (e : Errand) : Prop := ∃ organization key,
  e = license (.write (.activate organization key))

/-- The errand as the service carries it out. -/
def act (service : Service) : Errand → Act (License ⊕ Redirection)
  | license call => do return .inl (← call.act service)
  | session call organization subscription => do
    return .inr (← service.openSession call organization subscription)

theorem spares (service : Service) {e : Errand} {organization : Uuid}
    (h : e.organization ≠ organization) : Spares organization (e.act service) := by
  cases e with
  | license call =>
    refine Spares.bind ?_ fun _ l _ => .of_offline (.of_pure _)
    cases call with
    | write w =>
      cases w with
      | activate caller key => exact Service.activate_spares service h key
      | update caller id payload => exact Service.update_spares service h id payload
    | view caller => exact Service.active_spares service caller
  | session call caller subscription =>
    exact (Service.openSession_spares service call caller subscription).bind
      fun _ _ _ => .of_offline (.of_pure _)

/-- **An errand that is no activation is confined** to the organization that asks. -/
theorem confined (service : Service) {e : Errand} (h : ¬ e.IsActivation) :
    Confined e.organization (e.act service) := by
  cases e with
  | license call =>
    refine Confined.bind ?_ fun l => .of_offline (.of_pure _)
    cases call with
    | write w =>
      cases w with
      | activate caller key => exact absurd ⟨caller, key, rfl⟩ h
      | update caller id payload => exact Service.update_confined service caller id payload
    | view caller => exact Service.active_confined service caller
  | session call caller subscription =>
    exact (Service.openSession_confined service call caller subscription).bind
      fun _ => .of_offline (.of_pure _)

end Errand

/-! ### Sequences of errands -/

/-- The session on another table. -/
def Session.on (s : Session) (table : Table) : Session := s.over { s.database with table }

theorem Session.on_alike {organization : Uuid} {table table' : Table}
    (same : table'.owned organization = table.owned organization) (s : Session) :
    (s.on table).Alike organization (s.on table') :=
  ⟨rfl, rfl, same⟩

/-- The table after errands, each carried out in a session of its own and with any end. -/
def tableAfterAll (service : Service) : List (Errand × Session) → Table → Table
  | [], table => table
  | (e, s) :: rest, table =>
    tableAfterAll service rest ((e.act service).exec (s.on table)).2.database.table

theorem owned_tableAfterAll (service : Service) {organization : Uuid}
    {errands : List (Errand × Session)} (others : ∀ e ∈ errands, e.1.organization ≠ organization)
    (table : Table) :
    (tableAfterAll service errands table).owned organization = table.owned organization := by
  induction errands generalizing table with
  | nil => rfl
  | cons first rest ih =>
    obtain ⟨e, s⟩ := first
    have hfirst := Errand.spares service (others (e, s) (List.mem_cons_self ..)) (s.on table)
    have hrest := ih (fun e he => others e (List.mem_cons_of_mem _ he))
      ((e.act service).exec (s.on table)).2.database.table
    exact hrest.trans hfirst

/-- **Organizations are isolated.** Errands of others, whatever they bring and however they end,
leave the rows of an organization as they are and in their order, and it finds every license and
its license in force as before, at any time. And what it asks comes to the same result on two tables
with the same rows of its own, whatever the others keep there, and leaves the same rows of its own
again; an activation alone is not included. -/
theorem organizations_are_isolated (service : Service) (organization : Uuid) :
    (∀ (errands : List (Errand × Session)) (table : Table),
      (∀ e ∈ errands, e.1.organization ≠ organization) →
        (tableAfterAll service errands table).owned organization = table.owned organization ∧
        ∀ s : Session,
          (∀ id, ((Store.get organization id).exec
              (s.on (tableAfterAll service errands table))).1 =
            ((Store.get organization id).exec (s.on table)).1) ∧
          ((service.active organization).exec (s.on (tableAfterAll service errands table))).1 =
            ((service.active organization).exec (s.on table)).1) ∧
    ∀ (table table' : Table), table'.owned organization = table.owned organization →
      ∀ (s : Session) (e : Errand), e.organization = organization → ¬ e.IsActivation →
        ((e.act service).exec (s.on table')).1 = ((e.act service).exec (s.on table)).1 ∧
        ((e.act service).exec (s.on table)).2.Alike organization
          ((e.act service).exec (s.on table')).2 := by
  constructor
  · intro errands table others
    have same := owned_tableAfterAll service others table
    refine ⟨same, fun s => ⟨fun id => ?_, ?_⟩⟩
    · exact (Store.get_confined organization id _ _ (s.on_alike same)).1
    · exact (Service.active_confined service organization _ _ (s.on_alike same)).1
  · rintro table table' same s e rfl noActivation
    exact Errand.confined service noActivation _ _ (s.on_alike same)

/-! ### Errands among the rows of others -/

/-- A row with data that is no JSON text. -/
def brokenRow (organization id : Uuid) (key : Text) : Row :=
  ⟨id, key, "", .first, .first, .first, organization⟩

/-- Rows of two organizations. -/
def sharedTable : Table :=
  [brokenRow ⟨1⟩ ⟨1⟩ ("A" : Text), brokenRow ⟨2⟩ ⟨2⟩ ("B" : Text), brokenRow ⟨1⟩ ⟨3⟩ ("C" : Text)]

/-- An activation by a third organization, and an update of the second row by the first one. -/
def intrusions : List (Errand × Session) :=
  [(.license (.write Write.lateActivation), Write.lateSession),
    (.license (.write (.update ⟨1⟩ ⟨2⟩ (.text Write.latePayload))), Write.lateSession)]

/-- The second organization keeps its row, and sees no more of the others than if it were alone. -/
theorem isolation_of_sharedTable :
    (∀ e ∈ intrusions, e.1.organization ≠ ⟨2⟩) ∧
      (tableAfterAll Write.plainService intrusions sharedTable).owned ⟨2⟩ =
        [brokenRow ⟨2⟩ ⟨2⟩ ("B" : Text)] ∧
      ¬ (Errand.license (.view ⟨2⟩)).IsActivation ∧
      (((Errand.license (.view ⟨2⟩)).act Write.plainService).exec
          (Write.lateSession.on sharedTable)).1 =
        (((Errand.license (.view ⟨2⟩)).act Write.plainService).exec
          (Write.lateSession.on [brokenRow ⟨2⟩ ⟨2⟩ ("B" : Text)])).1 := by
  have others : ∀ e ∈ intrusions, e.1.organization ≠ ⟨2⟩ := by
    intro e he
    rcases List.mem_pair.mp he with rfl | rfl <;> decide
  have view : ¬ (Errand.license (.view ⟨2⟩)).IsActivation := by
    rintro ⟨organization, key, h⟩
    cases h
  have same : sharedTable.owned ⟨2⟩ = Table.owned [brokenRow ⟨2⟩ ⟨2⟩ ("B" : Text)] ⟨2⟩ := by decide
  obtain ⟨kept, shown⟩ := organizations_are_isolated Write.plainService ⟨2⟩
  refine ⟨others, ?_, view, ?_⟩
  · exact (kept intrusions sharedTable others).1.trans same
  · exact (shown _ _ same Write.lateSession _ rfl view).1

end Entitlement
