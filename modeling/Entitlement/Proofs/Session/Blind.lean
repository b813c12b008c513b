import Entitlement.Proofs.Authority.Perform

/-! # Acts that read only the time, the dice and the line

Two sessions are in the *same world* if they agree on the environment and on the line to the
authority; the database and the telemetry may be any (`Session.SameWorld`). An act is *blind* if
sessions in the same world give the same outcome and are left in the same world (`Act.Blind`). The
property goes through the building blocks of an act and through trying again (`Act.Blind.run`), so
what the attempts of a call come to does not depend on what was logged, counted or stored before
(`Authority.Client.send_blind`). -/

namespace Entitlement

/-- The sessions agree on the environment and on the line to the authority. -/
structure Session.SameWorld (s t : Session) : Prop where
  environment : s.environment = t.environment
  line : s.line = t.line

namespace Session.SameWorld

variable {s t u : Session}

instance : IsPreorder Session SameWorld where
  refl _ := ⟨rfl, rfl⟩
  trans _ _ _ h h' := ⟨h.environment.trans h'.environment, h.line.trans h'.line⟩

end Session.SameWorld

namespace Act

open Session (SameWorld)

variable {α β : Type}

/-- Of the session the act reads the environment and the line at most. -/
def Blind (act : Act α) : Prop := ∀ s t, SameWorld s t →
  (act.exec s).1 = (act.exec t).1 ∧ SameWorld (act.exec s).2 (act.exec t).2

namespace Blind

theorem of_pure (a : α) : Blind (pure a : Act α) := fun _ _ h => ⟨rfl, h⟩

theorem of_throw (fault : Fault) : Blind (throw fault : Act α) := fun _ _ h => ⟨rfl, h⟩

theorem of_ofExcept (e : Except Fault α) : Blind (Task.ofExcept e : Act α) := fun _ _ h => ⟨rfl, h⟩

theorem of_modify {f : Session → Session} (hf : ∀ s t, SameWorld s t → SameWorld (f s) (f t)) :
    Blind (modify f : Act Unit) := fun s t h => ⟨rfl, hf s t h⟩

theorem of_line (f : Line → Except Fault α × Line) :
    Blind (Task.step fun s => ((f s.line).1, { s with line := (f s.line).2 })) := by
  intro s t h
  rw [Task.exec_step, Task.exec_step, h.line]
  exact ⟨rfl, h.environment, rfl⟩

theorem bind {act : Act α} {next : α → Act β} (h : Blind act) (hn : ∀ a, Blind (next a)) :
    Blind (act >>= next) := by
  intro s t hst
  obtain ⟨hresult, hleft⟩ := h s t hst
  rcases hs : act.exec s with ⟨fault | a, s'⟩ <;> rcases ht : act.exec t with ⟨fault' | a', t'⟩ <;>
    rw [hs, ht] at hresult hleft
  · rw [Task.exec_bind_error hs, Task.exec_bind_error ht, Except.error.inj hresult]
    exact ⟨rfl, hleft⟩
  · cases hresult
  · cases hresult
  · rw [Task.exec_bind_ok hs, Task.exec_bind_ok ht, Except.ok.inj hresult]
    exact hn a' s' t' hleft

theorem outcome {act : Act α} (h : Blind act) : Blind act.outcome := by
  intro s t hst
  obtain ⟨hresult, hleft⟩ := h s t hst
  rw [Task.exec_outcome, Task.exec_outcome, hresult]
  exact ⟨rfl, hleft⟩

theorem get_bind {next : Session → Act β} (hread : ∀ s t, SameWorld s t → next s = next t)
    (hn : ∀ s, Blind (next s)) : Blind (get >>= next) := by
  intro s t h
  rw [Task.exec_get_bind, Task.exec_get_bind, hread s t h]
  exact hn t s t h

/-! ### Trying again -/

section Retry

open Retry

variable {setting : Setting Session α} (hooks : setting.hooks = Hooks.session)

include hooks

theorem note (level : Log.Level) (event : Text) (fields : Members) :
    Blind (setting.note level event fields) := by
  unfold Setting.note
  rw [hooks]
  exact of_modify fun _ _ h => ⟨h.environment, h.line⟩

theorem succeeded (number : Nat) (a : α) : Blind (setting.succeeded number a) := by
  unfold Setting.succeeded
  split
  · exact .bind (note hooks _ _ _) fun _ => .of_pure a
  · exact .of_pure a

theorem exhausted (number : Nat) (fault : Fault) : Blind (setting.exhausted number fault) :=
  .bind (note hooks _ _ _) fun _ => .of_throw _

theorem pause (number : Nat) (fault : Fault) : Blind (setting.pause number fault) := by
  unfold Setting.pause
  rw [hooks]
  refine .get_bind (fun s t h => ?_) fun s => ?_
  · have hrandom : Hooks.session.random s = Hooks.session.random t :=
      congrArg Environment.random h.environment
    rw [hrandom]
  · refine .bind (.of_ofExcept _) fun delay => .bind (note hooks _ _ _) fun _ => ?_
    refine .of_modify fun s t h => ⟨h.environment, ?_⟩
    change { s.line with slept := s.line.slept ++ [delay] } =
      { t.line with slept := t.line.slept ++ [delay] }
    rw [h.line]

theorem run (task : Blind setting.task) : Blind setting.run :=
  Setting.run_of_parts (P := fun _ => Blind) .bind .of_throw task.outcome (succeeded hooks)
    (exhausted hooks) (pause hooks)

end Retry

end Blind

end Act

namespace Authority.Client

variable (client : Client) (call : Call) (key : Text) (body : Bytes)

theorem sendOnce_blind : Act.Blind (client.sendOnce call key body) := by
  unfold sendOnce
  refine .bind (.of_line fun l => (.ok (), l.connect client.timeout)) fun _ => ?_
  refine .bind (.of_ofExcept _) fun url => .bind (.of_ofExcept _) fun _ => ?_
  refine .bind (.of_line (·.exchange (client.request url call key body))) fun response => ?_
  dsimp only
  split
  · exact .bind (.of_throw _) fun _ => .of_pure response
  · exact .of_pure response

/-- **What the attempts of a call come to** depends on the world alone. -/
theorem send_blind : Act.Blind (client.send call key body) :=
  Act.Blind.run rfl (client.sendOnce_blind call key body)

end Authority.Client

end Entitlement
