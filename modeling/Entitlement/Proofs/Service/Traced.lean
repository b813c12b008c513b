import Entitlement.Proofs.Service.Write
import Entitlement.Proofs.License.Stored
import Entitlement.Proofs.Session.Traced

/-! # The service logs on behalf of the organization it works for

What the store and the service write to the log names the organization that they are called for, or
none. So every call of the service is traced for that organization: activating a license, handing
out the one in force, opening a session, listing the features (`Service.activate_traced` and its
siblings). The probe of the store names no organization (`Store.isHealthy_traced`). -/

namespace Entitlement

open Act Session

variable {request : Text}

namespace Store

variable {organization : Option Uuid}

theorem write_traced (data : Json) (statement : Statement) :
    Keeps (Traced request organization) (write data statement) :=
  (onDatabase_traced _).bind fun _ => (Keeps.of_ofExcept _).bind fun _ => onDatabase_traced _

theorem create_traced (stored : StoredLicense) :
    Keeps (Traced request (some stored.organization)) (create stored) := by
  unfold create
  refine (write_traced stored.data _).outcome.bind fun result => ?_
  rcases result with fault | reply
  · dsimp only
    split
    · exact (log_traced ⟨rfl, .inr rfl⟩).bind fun _ => .of_throw _
    · exact .of_throw fault
  · exact log_traced ⟨rfl, .inr rfl⟩

theorem getAll_traced (o : Uuid) : Keeps (Traced request organization) (getAll o) :=
  (onDatabase_traced _).bind fun _ => .of_ofExcept _

theorem isHealthy_traced : Keeps (Traced request organization) isHealthy := by
  unfold isHealthy
  refine .get_bind fun s => ?_
  split
  · have hprobe : Keeps (Traced request organization) (Act.ask .probe) := onDatabase_traced _
    refine hprobe.outcome.bind fun result => ?_
    rcases result with fault | reply
    · dsimp only
      split
      · exact (log_traced ⟨rfl, .inl rfl⟩).bind fun _ => .of_pure false
      · exact .of_throw fault
    · exact .of_pure true
  · exact .of_pure false

end Store

namespace Service

variable {α : Type} (service : Service) (organization : Uuid)

theorem wrapping_traced {o : Option Uuid} (message : Text) {act : Act α}
    (h : Keeps (Traced request o) act) : Keeps (Traced request o) (wrapping message act) := by
  intro s
  rw [wrapping_exec]
  exact h s

theorem announce_traced (event : Text) (license : License) :
    Keeps (Traced request (some organization)) (announce event organization license) := by
  unfold announce License.stats
  cases license.terms.freeUntil.toUtc? with
  | none => exact (Keeps.of_ofExcept _).bind_of_value fun _ ⟨_, h⟩ => nomatch h
  | some t =>
    refine (Keeps.of_ofExcept _).bind_of_value fun stats ⟨_, h⟩ => log_traced ?_
    obtain rfl := Except.ok.inj h
    exact ⟨rfl, .inr rfl⟩

theorem activate_traced (key : Text) :
    Keeps (Traced request (some organization)) (service.activate organization key) := by
  unfold activate
  refine (wrapping_traced _ (service.client.perform_traced _ _ _)).bind fun payload => ?_
  refine .bind_now fun now => ?_
  refine (wrapping_traced _ (.of_ofExcept _)).bind_of_value fun license ⟨_, h⟩ => ?_
  rw [wrapping_exec] at h
  obtain ⟨-, -, -, -, -, horganization, -⟩ := License.parse_ok (mapError_eq_ok h)
  have hcreate : Keeps (Traced request (some organization)) (Store.create license.stored) := by
    rw [← horganization]
    exact Store.create_traced license.stored
  refine hcreate.bind fun _ => ?_
  exact (announce_traced organization _ license).bind fun _ => .of_pure license

theorem logSelection_traced (candidates : Nat) (selection : Selection) :
    Keeps (Traced request (some organization))
      (logSelection organization candidates selection) := by
  cases selection <;> exact log_traced ⟨rfl, .inr rfl⟩

theorem countResolution_traced (outcome : Text) :
    Keeps (Traced request (some organization)) (service.countResolution outcome) := by
  unfold countResolution
  split
  · exact .of_record fun s => traced_mapMetrics s rfl
  · exact .of_pure ()

theorem active_traced :
    Keeps (Traced request (some organization)) (service.active organization) := by
  unfold active
  refine (Store.getAll_traced organization).bind fun stored => .get_bind fun s => ?_
  refine (Keeps.of_ofExcept _).bind fun now => (Keeps.of_ofExcept _).bind fun selection => ?_
  refine (logSelection_traced organization _ selection).bind fun _ => ?_
  cases selection with
  | found license =>
    exact (service.countResolution_traced organization _).bind fun _ => .of_pure license
  | absent o =>
    refine (service.countResolution_traced organization _).bind fun _ => ?_
    exact (log_traced ⟨rfl, .inr rfl⟩).bind fun _ => .bind_now fun _ => .of_pure _

theorem openSession_traced (call : Authority.Call) (subscription : Subscription) :
    Keeps (Traced request (some organization))
      (service.openSession call organization subscription) := by
  unfold openSession
  refine (service.active_traced organization).bind fun license => ?_
  refine (Keeps.of_ofExcept _).bind fun body => ?_
  refine (service.client.perform_traced call license.key body).bind fun answer => ?_
  exact (Keeps.of_ofExcept _).bind fun _ => .of_pure _

theorem features_traced :
    Keeps (Traced request (some organization)) (service.features organization) := by
  have hflag : Keeps (Traced request (some organization))
      (service.flags.evaluate Flags.useSpanMetrics organization) :=
    (log_traced ⟨rfl, .inr rfl⟩).bind fun _ => .of_pure _
  exact hflag.bind fun _ => .of_pure _

end Service

end Entitlement
