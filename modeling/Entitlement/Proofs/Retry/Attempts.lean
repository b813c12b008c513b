import Entitlement.Proofs.Session.Run
import Entitlement.Retry.Basic

/-! # The attempts of a run

A run makes its attempts one after another, each in the state that the pause after the attempt
before left (`Retry.Setting.Attempt`). From any attempt on, the run goes on as the loop does
(`Setting.run_exec_of_attempt`), so it can be cut at the attempt that decides. It fails in three
ways (`Setting.run_eq_error_iff`): the last attempt fails, an attempt fails with a fault that is not
tried again, or the pause after an attempt cannot be told. A property that goes through what is done
one after another holds of the run if it holds of its parts (`Setting.run_of_parts`). -/

namespace Entitlement

open Entitlement.Task

namespace Retry.Setting

variable {σ α : Type} {setting : Setting σ α} {s : σ}

/-- An attempt that is made, with the number of further attempts, its own number, and the state that
it is made in. -/
inductive Attempt (setting : Setting σ α) (s : σ) : (left number : Nat) → σ → Prop where
  | first : Attempt setting s (setting.policy.limit - 1) 1 s
  | again {left number : Nat} {s₁ s₂ s₃ : σ} {fault : Fault}
    (h : Attempt setting s (left + 1) number s₁)
    (failed : setting.task.exec s₁ = (.error fault, s₂))
    (retried : fault.isOneOf setting.families = true)
    (paused : (setting.pause number fault).exec s₂ = (.ok (), s₃)) :
    Attempt setting s left (number + 1) s₃

/-- How a run fails. -/
inductive Fails (setting : Setting σ α) (s : σ) : Fault → Prop where
  /-- The last attempt failed. -/
  | exhausted {number : Nat} {s₁ : σ} {cause : Fault} (h : setting.Attempt s 0 number s₁)
    (failed : (setting.task.exec s₁).1 = .error cause)
    (retried : cause.isOneOf setting.families = true) :
    Fails setting s (.exhausted setting.name number cause)
  /-- An attempt failed with a fault that is not tried again. -/
  | escaped {left number : Nat} {s₁ : σ} {fault : Fault} (h : setting.Attempt s left number s₁)
    (failed : (setting.task.exec s₁).1 = .error fault)
    (untried : fault.isOneOf setting.families = false) : Fails setting s fault
  /-- The pause after an attempt cannot be told. -/
  | unpaused {left number : Nat} {s₁ s₂ : σ} {cause fault : Fault}
    (h : setting.Attempt s (left + 1) number s₁)
    (failed : setting.task.exec s₁ = (.error cause, s₂))
    (retried : cause.isOneOf setting.families = true)
    (delay : setting.policy.delay (setting.hooks.random s₂) number = .error fault) :
    Fails setting s fault

/-! ### One attempt -/

theorem loop_exec_succeeded {left number : Nat} {s₁ : σ} {a : α}
    (h : setting.task.exec s = (.ok a, s₁)) :
    (setting.loop left number).exec s = (setting.succeeded number a).exec s₁ := by
  unfold loop
  rw [exec_outcome_bind, h]

theorem loop_exec_ok {left number : Nat} {s₁ : σ} {a : α}
    (h : setting.task.exec s = (.ok a, s₁)) :
    ((setting.loop left number).exec s).1 = .ok a := by
  rw [loop_exec_succeeded h]
  unfold succeeded
  split <;> rfl

theorem loop_exec_untried {left number : Nat} {s₁ : σ} {fault : Fault}
    (h : setting.task.exec s = (.error fault, s₁))
    (untried : fault.isOneOf setting.families = false) :
    (setting.loop left number).exec s = (.error fault, s₁) := by
  unfold loop
  rw [exec_outcome_bind, h]
  dsimp only
  rw [untried]
  rfl

theorem loop_exec_exhausted {number : Nat} {s₁ : σ} {fault : Fault}
    (h : setting.task.exec s = (.error fault, s₁))
    (retried : fault.isOneOf setting.families = true) :
    (setting.loop 0 number).exec s = (setting.exhausted number fault).exec s₁ := by
  unfold loop
  rw [exec_outcome_bind, h]
  dsimp only
  rw [retried]
  rfl

theorem loop_exec_last {number : Nat} {s₁ : σ} {fault : Fault}
    (h : setting.task.exec s = (.error fault, s₁))
    (retried : fault.isOneOf setting.families = true) :
    ((setting.loop 0 number).exec s).1 = .error (.exhausted setting.name number fault) := by
  rw [loop_exec_exhausted h retried]
  rfl

theorem loop_exec_again {left number : Nat} {s₁ : σ} {fault : Fault}
    (h : setting.task.exec s = (.error fault, s₁))
    (retried : fault.isOneOf setting.families = true) :
    (setting.loop (left + 1) number).exec s =
      (do setting.pause number fault; setting.loop left (number + 1) : Task σ α).exec s₁ := by
  rw [loop.eq_def, exec_outcome_bind, h]
  dsimp only
  rw [retried]
  rfl

theorem pause_error_iff {number : Nat} {cause fault : Fault} :
    ((setting.pause number cause).exec s).1 = .error fault ↔
      setting.policy.delay (setting.hooks.random s) number = .error fault := by
  unfold pause
  rw [exec_get_bind, exec_ofExcept_bind]
  cases setting.policy.delay (setting.hooks.random s) number with
  | error f =>
    constructor
    · intro h
      rw [Except.error.inj h]
    · intro h
      rw [Except.error.inj h]
  | ok delay => exact ⟨nofun, nofun⟩

/-! ### The run -/

theorem run_exec_of_attempt {left number : Nat} {s₁ : σ} (h : setting.Attempt s left number s₁) :
    setting.run.exec s = (setting.loop left number).exec s₁ := by
  induction h with
  | first => rfl
  | again _ failed retried paused ih => rw [ih, loop_exec_again failed retried, exec_bind_ok paused]

/-- From an attempt on, the loop fails in one of the three ways. -/
theorem fails_of_loop {left number : Nat} {s₁ : σ} {fault : Fault}
    (attempt : setting.Attempt s left number s₁)
    (h : ((setting.loop left number).exec s₁).1 = .error fault) : setting.Fails s fault := by
  -- On the attempts that are left; the pause before the next one hands its state on.
  induction left generalizing number s₁ with
  | zero =>
    rcases ht : setting.task.exec s₁ with ⟨cause | a, s₂⟩
    · cases hr : cause.isOneOf setting.families with
      | false =>
        rw [loop_exec_untried ht hr] at h
        obtain rfl := Except.error.inj h
        exact .escaped attempt (congrArg Prod.fst ht) hr
      | true =>
        rw [loop_exec_last ht hr] at h
        obtain rfl := Except.error.inj h
        exact .exhausted attempt (congrArg Prod.fst ht) hr
    · rw [loop_exec_ok ht] at h
      cases h
  | succ left ih =>
    rcases ht : setting.task.exec s₁ with ⟨cause | a, s₂⟩
    · cases hr : cause.isOneOf setting.families with
      | false =>
        rw [loop_exec_untried ht hr] at h
        obtain rfl := Except.error.inj h
        exact .escaped attempt (congrArg Prod.fst ht) hr
      | true =>
        rw [loop_exec_again ht hr] at h
        rcases hp : (setting.pause number cause).exec s₂ with ⟨pausing | u, s₃⟩
        · rw [exec_bind_error hp] at h
          obtain rfl := Except.error.inj h
          exact .unpaused attempt ht hr (pause_error_iff.mp (congrArg Prod.fst hp))
        · rw [exec_bind_ok hp] at h
          exact ih (attempt.again ht hr hp) h
    · rw [loop_exec_ok ht] at h
      cases h

/-- **How a run fails.** -/
theorem run_eq_error_iff {fault : Fault} :
    (setting.run.exec s).1 = .error fault ↔ setting.Fails s fault := by
  constructor
  · exact fails_of_loop .first
  · intro h
    cases h with
    | exhausted attempt failed retried =>
      rw [run_exec_of_attempt attempt]
      exact loop_exec_last (Prod.ext failed rfl) retried
    | escaped attempt failed untried =>
      rw [run_exec_of_attempt attempt, loop_exec_untried (Prod.ext failed rfl) untried]
    | @unpaused left number s₁ s₂ cause _ attempt failed retried delay =>
      have hpause : ((setting.pause number cause).exec s₂).1 = .error fault :=
        pause_error_iff.mpr delay
      rw [run_exec_of_attempt attempt, loop_exec_again failed retried,
        exec_bind_error (Prod.ext hpause rfl)]

/-! ### Properties of a run -/

/-- **A property of the parts is one of the run**, if it goes through what is done one after
another. -/
theorem run_of_parts {P : (β : Type) → Task σ β → Prop}
    (bind : ∀ {β : Type} {first : Task σ β} {next : β → Task σ α},
      P β first → (∀ b, P α (next b)) → P α (first >>= next))
    (throws : ∀ fault, P α (throw fault)) (task : P (Except Fault α) setting.task.outcome)
    (succeeded : ∀ number a, P α (setting.succeeded number a))
    (exhausted : ∀ number fault, P α (setting.exhausted number fault))
    (pause : ∀ number fault, P Unit (setting.pause number fault)) : P α setting.run := by
  have hloop : ∀ left number, P α (setting.loop left number) := by
    intro left
    induction left with
    | zero =>
      intro number
      unfold loop
      refine bind task fun result => ?_
      rcases result with fault | a
      · dsimp only
        split
        · exact exhausted number fault
        · exact throws fault
      · exact succeeded number a
    | succ left ih =>
      intro number
      unfold loop
      refine bind task fun result => ?_
      rcases result with fault | a
      · dsimp only
        split
        · exact bind (pause number fault) fun _ => ih (number + 1)
        · exact throws fault
      · exact succeeded number a
  exact hloop _ 1

end Retry.Setting

end Entitlement
