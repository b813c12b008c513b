import Entitlement.Session

/-! # Running tasks

`Task.exec` is the outcome of a task together with the state that it leaves. Every building block
of a task has one equation here, and a task is run by rewriting with them: after a value the rest
goes on from the state that was left, and a fault is the end (`exec_bind_ok`, `exec_bind_error`). -/

namespace Entitlement

namespace Task

variable {σ α β : Type}

/-- The outcome of a task and the state that it leaves. -/
def exec (task : Task σ α) (s : σ) : Except Fault α × σ := task.run s

@[simp] theorem exec_pure (a : α) (s : σ) : (pure a : Task σ α).exec s = (.ok a, s) := rfl

@[simp] theorem exec_throw (fault : Fault) (s : σ) :
    (throw fault : Task σ α).exec s = (.error fault, s) := rfl

@[simp] theorem exec_ofExcept (e : Except Fault α) (s : σ) :
    (ofExcept e : Task σ α).exec s = (e, s) := rfl

@[simp] theorem exec_step (f : σ → Except Fault α × σ) (s : σ) : (step f).exec s = f s := rfl

@[simp] theorem exec_outcome (task : Task σ α) (s : σ) :
    task.outcome.exec s = (.ok (task.exec s).1, (task.exec s).2) := rfl

@[simp] theorem exec_modify (f : σ → σ) (s : σ) :
    (modify f : Task σ Unit).exec s = (.ok (), f s) := rfl

theorem exec_bind (task : Task σ α) (next : α → Task σ β) (s : σ) :
    (task >>= next).exec s =
      match task.exec s with
      | (.ok a, s') => (next a).exec s'
      | (.error fault, s') => (.error fault, s') := by
  have h : (task >>= next).exec s = (ExceptT.bindCont next (task.exec s).1).run (task.exec s).2 :=
    rfl
  rw [h]
  rcases task.exec s with ⟨_ | a, s'⟩ <;> rfl

theorem exec_bind_ok {task : Task σ α} {s s' : σ} {a : α} (h : task.exec s = (.ok a, s'))
    (next : α → Task σ β) : (task >>= next).exec s = (next a).exec s' := by
  rw [exec_bind, h]

theorem exec_bind_error {task : Task σ α} {s s' : σ} {fault : Fault}
    (h : task.exec s = (.error fault, s')) (next : α → Task σ β) :
    (task >>= next).exec s = (.error fault, s') := by
  rw [exec_bind, h]

theorem exec_discard (task : Task σ α) (s : σ) :
    ((task >>= fun _ => pure ()).exec s).2 = (task.exec s).2 := by
  rw [exec_bind]
  rcases task.exec s with ⟨fault | a, s'⟩ <;> rfl

theorem exec_bind_return (task : Task σ α) (b : β) (s : σ) :
    ((task >>= fun _ => pure b).exec s).1 = (task.exec s).1.map fun _ => b := by
  rw [exec_bind]
  rcases task.exec s with ⟨fault | a, s'⟩ <;> rfl

@[simp] theorem exec_get_bind (next : σ → Task σ β) (s : σ) :
    (get >>= next).exec s = (next s).exec s := rfl

@[simp] theorem exec_modify_bind (f : σ → σ) (next : Unit → Task σ β) (s : σ) :
    ((modify f : Task σ Unit) >>= next).exec s = (next ()).exec (f s) := rfl

@[simp] theorem exec_outcome_bind (task : Task σ α) (next : Except Fault α → Task σ β) (s : σ) :
    (task.outcome >>= next).exec s = (next (task.exec s).1).exec (task.exec s).2 := rfl

@[simp] theorem exec_ofExcept_bind (e : Except Fault α) (next : α → Task σ β) (s : σ) :
    ((ofExcept e : Task σ α) >>= next).exec s =
      match e with
      | .ok a => (next a).exec s
      | .error fault => (.error fault, s) := by
  rw [exec_bind, exec_ofExcept]
  cases e <;> rfl

end Task

namespace Act

variable {α β : Type}

@[simp] theorem exec_now_bind (next : DateTime → Act β) (s : Session) :
    (now >>= next).exec s = (next s.environment.utc).exec s := rfl

@[simp] theorem exec_onDatabase (f : Database → Except Fault α × Database) (s : Session) :
    (onDatabase f).exec s = ((f s.database).1, { s with database := (f s.database).2 }) := rfl

end Act

/-- A session in which nothing has happened yet. -/
def Session.resting : Session where
  environment := ⟨DateTime.first, .zero, .zero⟩
  database := ⟨[], [], true, 0, 0, none⟩
  line := .empty
  telemetry := ⟨.empty, none, [], .empty "licensing"⟩

end Entitlement
