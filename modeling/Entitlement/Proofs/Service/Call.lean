import Entitlement.Proofs.Service.View
import Entitlement.Proofs.Store.Dialogue

/-! # The calls as dialogues

An activation asks one statement, its insertion; a view asks one, the search for the rows of its
organization; an update asks two, the search for its row and the revision of it. `Call.dialogue`
says what each call asks and how it ends, and every call of the service follows its dialogue
(`Call.follows`). -/

namespace Entitlement

open Entitlement.Task

namespace Write

/-- How a call ends after the reply to the statement that stores. -/
def ending (w : Write) (l : License) (reply : Except Fault Reply) : Except Fault License :=
  match w.afterRecord l reply with
  | .error fault => .error fault
  | .ok () => l.stats.map fun _ => l

/-- The statement that stores the license and the end of the call, if the license can be written. -/
def recording (w : Write) (l : License) (now : DateTime) : Dialogue License :=
  if l.stored.data.isWritable then
    .ask (w.statement l now) fun reply => .done (w.ending l reply)
  else .done (w.ending l (.error Json.unwritable))

/-- What a call asks of the table. -/
def dialogue (service : Service) (s : Session) : Write → Dialogue License
  | .activate organization key =>
    match (((Write.activate organization key).draft service).exec s).1 with
    | .error fault => .done (.error fault)
    | .ok l => (Write.activate organization key).recording l s.environment.utc
  | .update organization id payload =>
    .ask (.find organization id) fun reply =>
      match revised service organization id payload s.environment.utc reply with
      | .error fault => .done (.error fault)
      | .ok l => (Write.update organization id payload).recording l s.environment.utc

theorem recording_of_writable {w : Write} {l : License} (hw : l.stored.data.isWritable = true)
    (now : DateTime) : w.recording l now =
      .ask (w.statement l now) fun reply => .done (w.ending l reply) :=
  if_pos hw

theorem recording_eq_ask {w : Write} {l : License} {now : DateTime} {statement : Statement}
    {next : Except Fault Reply → Dialogue License} (h : w.recording l now = .ask statement next) :
    l.stored.data.isWritable = true ∧ statement = w.statement l now ∧
      ∀ reply, next reply = .done (w.ending l reply) := by
  cases hw : l.stored.data.isWritable with
  | true =>
    obtain ⟨hs, hnext⟩ := Dialogue.ask.inj ((recording_of_writable hw now).symm.trans h)
    exact ⟨rfl, hs.symm, fun reply => (congrFun hnext reply).symm⟩
  | false =>
    unfold recording at h
    rw [hw] at h
    cases h

theorem activate_dialogue {service : Service} {s : Session} {organization : Uuid} {key : Text}
    {l : License} (hdraft : (((activate organization key).draft service).exec s).1 = .ok l)
    (hw : l.stored.data.isWritable = true) :
    (activate organization key).dialogue service s =
      .ask (.insert l.stored.row) fun reply => .done ((activate organization key).ending l reply) := by
  unfold dialogue
  simp only [hdraft]
  exact recording_of_writable hw _

/-- The part of a call that comes after its draft. -/
def completion (w : Write) (l : License) : Act License := do
  w.record l
  Service.announce w.event w.organization l
  return l

theorem completion_exec (w : Write) (l : License) (s : Session) :
    ((w.completion l).exec s).1 = w.ending l
        (s.database.write l.stored.data (w.statement l s.environment.utc)).1 ∧
      ((w.completion l).exec s).2.database =
        (s.database.write l.stored.data (w.statement l s.environment.utc)).2 := by
  obtain ⟨hr, hd⟩ := w.record_exec l s
  unfold completion ending
  rw [exec_bind]
  rcases he : (w.record l).exec s with ⟨fault | u, s₁⟩
  · rw [he] at hr hd
    rw [← hr]
    exact ⟨rfl, hd⟩
  · rw [he] at hr hd
    rw [← hr]
    obtain ⟨ha, hdb⟩ := Service.announce_exec w.event w.organization l s₁
    dsimp only at hd ⊢
    rw [exec_bind]
    rcases hn : (Service.announce w.event w.organization l).exec s₁ with ⟨fault | u, s₂⟩
    · rw [hn] at ha hdb
      cases hs : l.stats with
      | error fault' =>
        rw [hs] at ha
        cases ha
        exact ⟨rfl, hdb.trans hd⟩
      | ok stats =>
        rw [hs] at ha
        cases ha
    · rw [hn] at ha hdb
      cases hs : l.stats with
      | error fault' =>
        rw [hs] at ha
        cases ha
      | ok stats => exact ⟨rfl, hdb.trans hd⟩

/-- **After its draft a call asks the statement that stores, and ends.** -/
theorem completion_follows (w : Write) {l : License} (s : Session)
    (hd : l.stored.data.nesting ≤ Json.Reader.depthLimit) :
    Act.Follows (w.completion l) s (w.recording l s.environment.utc) := by
  have hcheck := Json.checkWritable_of_nesting_le hd
  unfold recording
  split
  · next hw =>
    rw [if_pos hw] at hcheck
    refine .ask (fun reply => Task.ofExcept (w.ending l reply)) (fun _ => s) (fun db answers => ?_)
      fun reply => .done fun db _ => ⟨rfl, rfl⟩
    have hwrite : db.write l.stored.data (w.statement l s.environment.utc) =
        db.send (w.statement l s.environment.utc) := by
      rw [answers.write, hcheck]
    rw [← hwrite]
    exact w.completion_exec l (s.over db)
  · next hw =>
    rw [if_neg hw] at hcheck
    refine .done fun db answers => ?_
    have hwrite : db.write l.stored.data (w.statement l s.environment.utc) =
        (.error Json.unwritable, db) := by
      rw [answers.write, hcheck]
    obtain ⟨h1, h2⟩ := w.completion_exec l (s.over db)
    rw [show (s.over db).database.write l.stored.data (w.statement l (s.over db).environment.utc) =
      (.error Json.unwritable, db) from hwrite] at h1 h2
    exact ⟨h1, h2⟩

theorem follows (service : Service) (w : Write) (s : Session) :
    Act.Follows (w.act service) s (w.dialogue service s) := by
  have hact : w.act service = w.draft service >>= w.completion := by
    rw [act_eq]
    rfl
  rw [hact]
  cases w with
  | activate organization key =>
    have offline := activate_draft_offline service organization key
    rcases hd : ((Write.activate organization key).draft service).exec s with ⟨fault | l, s₁⟩
    · dsimp only [dialogue]
      rw [hd]
      exact .of_offline_error offline hd
    · have hpayload := draft_fromPayload service _ s (congrArg Prod.fst hd)
      have hnesting := hpayload.nesting_le service
      dsimp only [dialogue]
      rw [hd]
      exact .of_offline offline hd
        ((Write.activate organization key).completion_follows s₁ hnesting)
  | update organization id payload =>
    refine .ask (fun reply => Task.ofExcept (revised service organization id payload
      s.environment.utc reply) >>= (Write.update organization id payload).completion) (fun _ => s)
      (fun db answers => ?_) fun reply => ?_
    · rw [exec_bind, update_draft_exec, ← answers.ask, exec_bind]
      exact ⟨rfl, rfl⟩
    · cases h : revised service organization id payload s.environment.utc reply with
      | error fault => exact .of_offline_error (.of_ofExcept _) rfl
      | ok l =>
        have hnesting := (revised_fromPayload service h).nesting_le service
        exact .of_offline (.of_ofExcept _) rfl
          ((Write.update organization id payload).completion_follows s hnesting)

end Write

/-- A call that writes licenses, or one for the license in force. -/
inductive Call where
  | write (w : Write)
  | view (organization : Uuid)

namespace Call

/-- The call as the service carries it out. -/
def act (service : Service) : Call → Act License
  | write w => w.act service
  | view organization => service.active organization

/-- What a call asks of the table. -/
def dialogue (service : Service) (s : Session) : Call → Dialogue License
  | write w => w.dialogue service s
  | view organization => .ask (.findAll organization) fun reply =>
    .done (service.viewed organization s.environment reply)

/-- **Every call follows its dialogue.** -/
theorem follows (service : Service) (c : Call) (s : Session) :
    Act.Follows (c.act service) s (c.dialogue service s) := by
  cases c with
  | write w => exact w.follows service s
  | view organization =>
    refine .ask (fun reply => Task.ofExcept (service.viewed organization s.environment reply))
      (fun _ => s) (fun db answers => ?_) fun reply => .done fun db _ => ⟨rfl, rfl⟩
    obtain ⟨h1, h2⟩ := service.active_exec organization (s.over db)
    rw [show (s.over db).database.ask (.findAll organization) = db.send (.findAll organization) from
      answers.ask _] at h1 h2
    exact ⟨h1, h2⟩

end Call

end Entitlement
