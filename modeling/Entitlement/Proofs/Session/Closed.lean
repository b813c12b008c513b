import Entitlement.Authority.Client
import Entitlement.Proofs.Log.Record
import Entitlement.Proofs.Retry.Attempts

/-! # Properties that go through the parts of an act

A property of acts is *closed* if an act has it as soon as its parts do, and if the parts have it
that work on the line to the authority, read what is not the database, log what names neither a
request nor an organization, or count other things than requests (`Act.Closed`). Such a property
holds of a task that is tried again if it holds of the task (`Act.Closed.run`), and of every call of
the authority (`Act.Closed.perform`). -/

namespace Entitlement

namespace Act

/-- A property that goes through the parts of an act. -/
structure Closed (P : (α : Type) → Act α → Prop) : Prop where
  of_pure {α : Type} (a : α) : P α (pure a)
  of_throw {α : Type} (fault : Fault) : P α (throw fault)
  outcome {α : Type} {act : Act α} : P α act → P (Except Fault α) act.outcome
  bind {α β : Type} {act : Act α} {next : α → Act β} :
    P α act → (∀ a, P β (next a)) → P β (act >>= next)
  get_bind {β : Type} {next : Session → Act β} :
    (∀ (s : Session) database, next { s with database } = next s) → (∀ s, P β (next s)) →
      P β (get >>= next)
  of_line {α : Type} (f : Line → Except Fault α × Line) :
    P α (Task.step fun s => ((f s.line).1, { s with line := (f s.line).2 }))
  of_log {logger : Text} {level : Log.Level} {event : Text} {fields : Members} :
    Log.Entry.Concerns ⟨logger, level, event, fields⟩ none → P Unit (log logger level event fields)
  of_record {f : Metrics → Metrics} :
    (∀ m, (f m).httpRequests = m.httpRequests) → P Unit (record f)

namespace Closed

open Retry Authority

variable {α : Type} {P : (α : Type) → Act α → Prop} (closed : Closed P)

include closed

theorem of_ofExcept (e : Except Fault α) : P α (Task.ofExcept e) := by
  cases e with
  | error fault => exact closed.of_throw fault
  | ok a => exact closed.of_pure a

theorem of_modify_line (f : Line → Line) :
    P Unit (modify fun s => { s with line := f s.line }) := closed.of_line fun l => (.ok (), f l)

/-! ### Trying again -/

section Retry

variable {setting : Setting Session α} (hooks : setting.hooks = Hooks.session)

include hooks

theorem note {level : Log.Level} {event : Text} {fields : Members}
    (h : Log.Entry.Concerns ⟨setting.logger, level, event, fields⟩ none) :
    P Unit (setting.note level event fields) := by
  unfold Setting.note
  rw [hooks]
  exact closed.of_log h

theorem succeeded (attempt : Nat) (a : α) : P α (setting.succeeded attempt a) := by
  unfold Setting.succeeded
  split
  · exact closed.bind (closed.note hooks ⟨rfl, .inl rfl⟩) fun _ => closed.of_pure a
  · exact closed.of_pure a

theorem exhausted (attempt : Nat) (fault : Fault) : P α (setting.exhausted attempt fault) :=
  closed.bind (closed.note hooks ⟨rfl, .inl rfl⟩) fun _ => closed.of_throw _

theorem pause (attempt : Nat) (fault : Fault) : P Unit (setting.pause attempt fault) := by
  unfold Setting.pause
  rw [hooks]
  refine closed.get_bind (fun _ _ => rfl) fun s => ?_
  refine closed.bind (closed.of_ofExcept _) fun delay => ?_
  refine closed.bind (closed.note hooks ⟨rfl, .inl rfl⟩) fun _ => ?_
  exact closed.of_modify_line fun l => { l with slept := l.slept ++ [delay] }

theorem run (task : P α setting.task) : P α setting.run :=
  Setting.run_of_parts closed.bind closed.of_throw (closed.outcome task) (closed.succeeded hooks)
    (closed.exhausted hooks) (closed.pause hooks)

end Retry

/-! ### Calls of the authority -/

variable (client : Client)

theorem sendOnce (call : Call) (key : Text) (body : Bytes) :
    P Response (client.sendOnce call key body) := by
  unfold Client.sendOnce
  refine closed.bind (closed.of_modify_line (·.connect client.timeout)) fun _ => ?_
  refine closed.bind (closed.of_ofExcept _) fun url => ?_
  refine closed.bind (closed.of_ofExcept _) fun _ => ?_
  refine closed.bind (closed.of_line (·.exchange (client.request url call key body)))
    fun response => ?_
  dsimp only
  split
  · exact closed.bind (closed.of_throw _) fun _ => closed.of_pure response
  · exact closed.of_pure response

theorem send (call : Call) (key : Text) (body : Bytes) : P Response (client.send call key body) :=
  closed.run rfl (closed.sendOnce client call key body)

theorem count (call : Call) (outcome : Text) : P Unit (client.count call outcome) := by
  unfold Client.count
  split
  · exact closed.of_record fun _ => rfl
  · exact closed.of_pure ()

theorem perform (call : Call) (key : Text) (body : Bytes) :
    P Bytes (client.perform call key body) := by
  unfold Client.perform
  refine closed.bind (closed.outcome (closed.send client call key body)) fun result => ?_
  split
  · refine closed.bind (closed.count client _ _) fun _ => ?_
    exact closed.bind (closed.of_log ⟨rfl, .inl rfl⟩) fun _ => closed.of_throw _
  · exact closed.of_throw _
  · split
    · exact closed.bind (closed.count client _ _) fun _ => closed.of_pure _
    · refine closed.bind (closed.count client _ _) fun _ => ?_
      exact closed.bind (closed.of_log ⟨rfl, .inl rfl⟩) fun _ => closed.of_throw _

end Closed

end Act

end Entitlement
