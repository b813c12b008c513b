import Entitlement.Proofs.Session.Closed

/-! # Acts that leave the database alone

An act is *offline* if it neither reads nor changes the database: put another database beside it,
and it gives the same outcome and leaves the same rest of the session (`Act.Offline`). The property
goes through every building block of an act (`Offline.closed`), and so up to the whole client of the
authority (`Client.fetchLicense_offline`), whatever the authority does. -/

namespace Entitlement

namespace Act

variable {α β : Type}

/-- The act neither reads nor changes the database. -/
def Offline (act : Act α) : Prop :=
  ∀ (s : Session) (db : Database), act.exec { s with database := db } =
    ((act.exec s).1, { (act.exec s).2 with database := db })

namespace Offline

theorem database_eq {act : Act α} (h : Offline act) (s : Session) :
    (act.exec s).2.database = s.database := by
  have key := h s s.database
  have hs : act.exec s = ((act.exec s).1, { (act.exec s).2 with database := s.database }) := key
  rw [hs]

theorem of_pure (a : α) : Offline (pure a : Act α) := fun _ _ => rfl

theorem of_throw (fault : Fault) : Offline (throw fault : Act α) := fun _ _ => rfl

theorem of_ofExcept (e : Except Fault α) : Offline (Task.ofExcept e : Act α) := fun _ _ => rfl

theorem of_modify {f : Session → Session}
    (h : ∀ s db, f { s with database := db } = { f s with database := db }) :
    Offline (modify f : Act Unit) := fun s db => by
  rw [Task.exec_modify, Task.exec_modify, h]

theorem of_step {f : Session → Except Fault α × Session}
    (h : ∀ s db, f { s with database := db } = ((f s).1, { (f s).2 with database := db })) :
    Offline (Task.step f : Act α) := fun s db => by
  rw [Task.exec_step, Task.exec_step, h]

theorem of_log (logger : Text) (level : Log.Level) (event : Text) (fields : Members) :
    Offline (log logger level event fields) := of_modify fun _ _ => rfl

theorem of_record (f : Metrics → Metrics) : Offline (record f) := of_modify fun _ _ => rfl

theorem bind {act : Act α} {next : α → Act β} (h : Offline act) (hn : ∀ a, Offline (next a)) :
    Offline (act >>= next) := by
  intro s db
  have hs := h s db
  rcases hr : act.exec s with ⟨_ | a, s'⟩
  · rw [hr] at hs
    rw [Task.exec_bind_error hs, Task.exec_bind_error hr]
  · rw [hr] at hs
    rw [Task.exec_bind_ok hs, Task.exec_bind_ok hr, hn a s' db]

theorem outcome {act : Act α} (h : Offline act) : Offline act.outcome := fun s db => by
  rw [Task.exec_outcome, Task.exec_outcome, h s db]

/-- Reading the session is offline as long as the database is not among what is read. -/
theorem get_bind {next : Session → Act β}
    (hdb : ∀ s db, next { s with database := db } = next s) (hn : ∀ s, Offline (next s)) :
    Offline (get >>= next) := by
  intro s db
  rw [Task.exec_get_bind, Task.exec_get_bind, hdb, hn s s db]

theorem closed : Closed fun _ => Offline where
  of_pure := of_pure
  of_throw := of_throw
  outcome := outcome
  bind := bind
  get_bind := get_bind
  of_line _ := of_step fun _ _ => rfl
  of_log _ := of_log _ _ _ _
  of_record _ := of_record _

theorem of_now : Offline now := .get_bind (fun _ _ => rfl) fun _ => .of_pure _

end Offline

end Act

/-! ### The client -/

namespace Authority.Client

variable (client : Client)

/-- **A call of the authority leaves the database alone**, however the authority answers. -/
theorem perform_offline (call : Call) (key : Text) (body : Bytes) :
    Act.Offline (client.perform call key body) := Act.Offline.closed.perform client call key body

theorem fetchLicense_offline (key : Text) : Act.Offline (client.fetchLicense key) :=
  client.perform_offline .license key []

end Authority.Client

end Entitlement
