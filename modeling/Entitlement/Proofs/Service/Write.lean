import Entitlement.Proofs.Json.Writable
import Entitlement.Proofs.Session.Offline
import Entitlement.Proofs.Store.Exchange
import Entitlement.Service

/-! # The calls that write

An activation and an update have the same three parts (`Write.act_eq`): a *draft* of the license to
be stored, which only reads; its *record*, which sends the one statement that writes; and the
announcement in the log. The draft leaves the table as it is (`draft_table`); the record either
fails without a change or is one accepted statement (`record_cases`); the announcement fails exactly
when the end of the free period has no moment in UTC (`announce_exec`). -/

namespace Entitlement

open Entitlement.Task

namespace Service

theorem wrapping_exec {α : Type} (message : Text) (act : Act α) (s : Session) :
    (wrapping message act).exec s =
      ((act.exec s).1.mapError (wrapRefusal message), (act.exec s).2) := by
  unfold wrapping
  rw [exec_outcome_bind]
  cases (act.exec s).1 <;> rfl

theorem wrapping_offline {α : Type} (message : Text) {act : Act α} (h : Act.Offline act) :
    Act.Offline (wrapping message act) := by
  refine h.outcome.bind fun result => ?_
  rcases result with fault | a
  · exact .of_throw _
  · exact .of_pure a

/-- The fault of announcing a license whose free period has no end in UTC. -/
def lateFault : Fault := .failure Kind.overflow "date value out of range"

theorem stats_cases (l : License) :
    (l.terms.freeUntil.toUtc?.isSome ∧ ∃ stats, l.stats = .ok stats) ∨
      (l.terms.freeUntil.toUtc? = none ∧ l.stats = .error lateFault) := by
  unfold License.stats
  cases h : l.terms.freeUntil.toUtc? with
  | none => exact .inr ⟨rfl, rfl⟩
  | some t => exact .inl ⟨rfl, _, rfl⟩

theorem announce_exec (event : Text) (organization : Uuid) (l : License) (s : Session) :
    ((announce event organization l).exec s).1 = l.stats.map (fun _ => ()) ∧
      ((announce event organization l).exec s).2.database = s.database := by
  unfold announce
  rw [exec_ofExcept_bind]
  cases l.stats <;> exact ⟨rfl, rfl⟩

end Service

/-- The calls that write. -/
inductive Write where
  | activate (organization : Uuid) (key : Text)
  | update (organization id : Uuid) (payload : Document)

namespace Write

open Service

/-- The organization that calls. -/
def organization : Write → Uuid
  | .activate organization _ => organization
  | .update organization _ _ => organization

/-- The call as the service carries it out. -/
def act (service : Service) : Write → Act License
  | .activate organization key => service.activate organization key
  | .update organization id payload => service.update organization id payload

/-! ### The three parts -/

/-- The license that is to be stored. -/
def draft (service : Service) : Write → Act License
  | .activate organization key => do
    let payload ←
      wrapping "unable to fetch license data with upstream server" (service.client.fetchLicense key)
    let now ← Act.now
    wrapping "failed to create license entity"
      (Task.ofExcept (License.parse (.bytes payload) organization service.catalog now))
  | .update organization id payload => do
    let stored ← Store.get organization id
    let license ← Task.ofExcept (License.ofStored stored service.catalog)
    let now ← Act.now
    wrapping "failed to update license entity"
      (Task.ofExcept (license.refresh payload service.catalog now))

/-- Stores the license. -/
def record (l : License) : Write → Act Unit
  | .activate _ _ => Store.create l.stored
  | .update organization _ _ => Store.update organization l.stored

/-- The statement that stores the license. -/
def statement (l : License) (now : DateTime) : Write → Statement
  | .activate _ _ => .insert l.stored.row
  | .update organization _ _ => Store.revisingAt organization l.stored now

/-- What is told of a license that was stored. -/
def event : Write → Text
  | .activate _ _ => "License activated"
  | .update _ _ _ => "License updated"

/-- **A call is its draft, its record and its announcement.** -/
theorem act_eq (service : Service) (w : Write) :
    w.act service = do
      let l ← w.draft service
      w.record l
      announce w.event w.organization l
      return l := by
  cases w with
  | activate organization key =>
    simp only [act, draft, record, event, Write.organization, Service.activate, bind_assoc]
  | update organization id payload =>
    simp only [act, draft, record, event, Write.organization, Service.update, bind_assoc]

theorem activate_draft_offline (service : Service) (organization : Uuid) (key : Text) :
    Act.Offline ((Write.activate organization key).draft service) := by
  refine (Service.wrapping_offline _ (service.client.fetchLicense_offline key)).bind
    fun payload => ?_
  refine .get_bind (fun _ _ => rfl) fun s => (Act.Offline.of_pure _).bind fun now => ?_
  exact Service.wrapping_offline _ (.of_ofExcept _)

/-- The license that an update makes of the reply with its row. -/
def revised (service : Service) (organization id : Uuid) (payload : Document) (now : DateTime)
    (reply : Except Fault Reply) : Except Fault License := do
  let stored ← Store.afterGet organization id reply
  let license ← License.ofStored stored service.catalog
  (license.refresh payload service.catalog now).mapError
    (Service.wrapRefusal "failed to update license entity")

/-- The draft of an update asks for the row, and the rest follows from the reply. -/
theorem update_draft_exec (service : Service) (organization id : Uuid) (payload : Document)
    (s : Session) : ((Write.update organization id payload).draft service).exec s =
      (revised service organization id payload s.environment.utc
          (s.database.ask (.find organization id)).1,
        { s with database := (s.database.ask (.find organization id)).2 }) := by
  unfold draft revised
  rw [exec_bind, Store.get_exec]
  cases Store.afterGet organization id (s.database.ask (.find organization id)).1 with
  | error fault => rfl
  | ok stored =>
    dsimp only
    rw [exec_ofExcept_bind]
    cases hl : License.ofStored stored service.catalog with
    | error fault =>
      simp only [bind, Except.bind, hl]
    | ok l =>
      dsimp only
      rw [Act.exec_now_bind, wrapping_exec]
      simp only [bind, Except.bind, hl]
      rfl

theorem draft_table (service : Service) (w : Write) (s : Session) :
    ((w.draft service).exec s).2.database.table = s.database.table := by
  cases w with
  | activate organization key => rw [(activate_draft_offline service organization key).database_eq]
  | update organization id payload =>
    rw [update_draft_exec]
    rcases Database.ask_cases s.database (.find organization id) with ⟨-, h⟩ | ⟨_, -, h⟩
    · exact h
    · exact h

/-! ### The record -/

/-- What a call makes of the reply to the statement that stores. -/
def afterRecord (w : Write) (l : License) (reply : Except Fault Reply) : Except Fault Unit :=
  match w with
  | .activate _ _ => Store.afterCreate l.stored reply
  | .update organization _ _ => Store.afterUpdate organization l.stored.id reply

theorem record_exec (w : Write) (l : License) (s : Session) :
    ((w.record l).exec s).1 = w.afterRecord l
        (s.database.write l.stored.data (w.statement l s.environment.utc)).1 ∧
      ((w.record l).exec s).2.database =
        (s.database.write l.stored.data (w.statement l s.environment.utc)).2 := by
  cases w with
  | activate organization key =>
    obtain ⟨h1, h2, -⟩ := Store.create_exec l.stored s
    exact ⟨h1, h2⟩
  | update organization id payload =>
    obtain ⟨h1, h2, -⟩ := Store.update_exec organization l.stored s
    exact ⟨h1, h2⟩

theorem afterRecord_error (w : Write) (l : License) (fault : Fault) :
    ∃ fault', w.afterRecord l (.error fault) = .error fault' := by
  cases w <;> exact ⟨_, rfl⟩

theorem statement_cases (w : Write) (l : License) (now : DateTime) {table : Table}
    (distinct : table.Distinct) :
    (w.afterRecord l ((w.statement l now).run table).1 = .ok () ∧
      ((w.statement l now).run table).1 = .ok (.changed 1)) ∨
    (∃ fault, w.afterRecord l ((w.statement l now).run table).1 = .error fault) ∧
      ((w.statement l now).run table).2 = table := by
  cases w with
  | activate organization key =>
    dsimp only [statement]
    rcases Statement.run_insert_cases l.stored.row table with ⟨-, h⟩ | ⟨-, h⟩
    · rw [h]
      exact .inl ⟨rfl, rfl⟩
    · rw [h]
      exact .inr ⟨⟨_, rfl⟩, rfl⟩
  | update organization id payload =>
    dsimp only [statement, Store.revisingAt, Store.revising, Store.touched]
    rcases distinct.run_update_cases organization l.stored.id l.stored.data.storedText now
      l.stored.lastValidatedAt with ⟨-, h⟩ | ⟨-, h⟩
    · rw [h]
      exact .inl ⟨rfl, rfl⟩
    · rw [h]
      exact .inr ⟨⟨_, rfl⟩, rfl⟩

/-- **The record fails without a change, or is one accepted statement.** -/
theorem record_cases (w : Write) (l : License) (s : Session)
    (distinct : Table.Distinct s.database.table) :
    (((w.record l).exec s).1 = .ok () ∧ l.stored.data.isWritable = true ∧
      (w.statement l s.environment.utc).run s.database.table =
        (.ok (.changed 1), ((w.record l).exec s).2.database.table)) ∨
    ∃ fault, ((w.record l).exec s).1 = .error fault ∧
      ((w.record l).exec s).2.database.table = s.database.table := by
  obtain ⟨hr, hd⟩ := w.record_exec l s
  rw [hr, hd]
  rcases s.database.write_cases l.stored.data (w.statement l s.environment.utc) with
    ⟨hcheck, hreply, htable⟩ | ⟨fault, hreply, htable⟩
  · have hw := (Json.checkWritable_eq_ok_iff.mp hcheck).1
    rw [hreply, htable]
    rcases w.statement_cases l s.environment.utc distinct with ⟨hok, hchanged⟩ | ⟨⟨fault, hf⟩, hsame⟩
    · exact .inl ⟨hok, hw, Prod.ext hchanged rfl⟩
    · exact .inr ⟨fault, hf, hsame⟩
  · rw [hreply, htable]
    obtain ⟨fault', hf⟩ := w.afterRecord_error l fault
    exact .inr ⟨fault', hf, rfl⟩

end Write

end Entitlement
