import Entitlement.Proofs.Retry.Attempts
import Mathlib.Order.Defs.Unbundled

/-! # What an act does to its session, whatever comes of it

An act *keeps* a relation if the session that it leaves, with a value or with a fault, stands in the
relation to the one that it found (`Act.Keeps`). For a relation that holds over nothing, and over
two steps if it holds over each, the property goes through every building block of an act. A task
that is tried again keeps it if the task does, and the records and pauses in between
(`Retry.Setting.run_keeps`). -/

namespace Entitlement

namespace Act

variable {α β : Type} {R : Session → Session → Prop}

/-- The session that the act leaves stands in the relation to the one that it found. -/
def Keeps (R : Session → Session → Prop) (act : Act α) : Prop := ∀ s, R s (act.exec s).2

namespace Keeps

theorem of_log {logger : Text} {level : Log.Level} {event : Text} {fields : Members}
    (h : ∀ s : Session, R s (s.log ⟨logger, level, event, fields⟩)) :
    Keeps R (log logger level event fields) := h

theorem of_record {f : Metrics → Metrics} (h : ∀ s : Session, R s (s.mapMetrics f)) :
    Keeps R (record f) := h

theorem of_onDatabase (f : Database → Except Fault α × Database)
    (h : ∀ (s : Session) database, R s { s with database }) : Keeps R (onDatabase f) :=
  fun s => h s (f s.database).2

theorem outcome {act : Act α} (h : Keeps R act) : Keeps R act.outcome := h

theorem get_bind {next : Session → Act β} (hn : ∀ s, Keeps R (next s)) :
    Keeps R (get >>= next) := fun s => hn s s

theorem bind_now {next : DateTime → Act β} (hn : ∀ now, Keeps R (next now)) :
    Keeps R (now >>= next) := fun s => hn s.environment.utc s

variable [IsPreorder Session R]

theorem of_pure (a : α) : Keeps R (pure a : Act α) := fun s => refl s

theorem of_throw (fault : Fault) : Keeps R (throw fault : Act α) := fun s => refl s

theorem of_ofExcept (e : Except Fault α) : Keeps R (Task.ofExcept e : Act α) := fun s => refl s

/-- What comes next has to keep the relation for the values that the act can give. -/
theorem bind_of_value {act : Act α} {next : α → Act β} (h : Keeps R act)
    (hn : ∀ a, (∃ s, (act.exec s).1 = .ok a) → Keeps R (next a)) : Keeps R (act >>= next) := by
  intro s
  have hact := h s
  rcases hr : act.exec s with ⟨fault | a, s'⟩
  · rw [hr] at hact
    rw [Task.exec_bind_error hr]
    exact hact
  · rw [hr] at hact
    rw [Task.exec_bind_ok hr]
    exact IsTrans.trans _ _ _ hact (hn a ⟨s, by rw [hr]⟩ s')

theorem bind {act : Act α} {next : α → Act β} (h : Keeps R act) (hn : ∀ a, Keeps R (next a)) :
    Keeps R (act >>= next) := h.bind_of_value fun a _ => hn a

end Keeps

end Act

/-! ### Trying again -/

namespace Retry.Setting

variable {α : Type} {setting : Setting Session α} (hooks : setting.hooks = Hooks.session)
  {R : Session → Session → Prop} (log : ∀ (s : Session) entry, R s (s.log entry))

include hooks log

theorem note_keeps (level : Log.Level) (event : Text) (fields : Members) :
    Act.Keeps R (setting.note level event fields) := by
  unfold note
  rw [hooks]
  exact fun s => log s _

variable [IsPreorder Session R]

theorem succeeded_keeps (number : Nat) (a : α) : Act.Keeps R (setting.succeeded number a) := by
  unfold succeeded
  split
  · exact .bind (note_keeps hooks log _ _ _) fun _ => .of_pure a
  · exact .of_pure a

theorem exhausted_keeps (number : Nat) (fault : Fault) :
    Act.Keeps R (setting.exhausted number fault) :=
  .bind (note_keeps hooks log _ _ _) fun _ => .of_throw _

variable (sleep : ∀ (s : Session) delay, R s (s.sleep delay))

include sleep

theorem pause_keeps (number : Nat) (fault : Fault) : Act.Keeps R (setting.pause number fault) := by
  unfold pause
  refine .get_bind fun s => .bind (.of_ofExcept _) fun delay => ?_
  refine .bind (note_keeps hooks log _ _ _) fun _ => ?_
  rw [hooks]
  exact fun s => sleep s delay

theorem run_keeps (task : Act.Keeps R setting.task) : Act.Keeps R setting.run :=
  run_of_parts (P := fun _ => Act.Keeps R) .bind .of_throw task.outcome (succeeded_keeps hooks log)
    (exhausted_keeps hooks log) (pause_keeps hooks log sleep)

end Retry.Setting

end Entitlement
