import Entitlement.Authority.Client
import Entitlement.Proofs.Outcome
import Entitlement.Proofs.Retry.Attempts
import Mathlib.Tactic.SplitIfs

/-! # How a call of the authority fails

A call is decided by a response or by the end of its attempts (`Client.perform_exec`), and then it
fails with a refusal, if it fails. Otherwise it *breaks off* (`Client.Breaks`): an attempt fails
with a fault that is neither tried again nor a refusal, or a pause cannot be told. These are the
ways that a call fails (`Client.perform_error_cases`). -/

namespace Entitlement

open Entitlement.Task

namespace Fault

/-- The fault is neither a refusal nor the end of the attempts at a task. -/
def Foreign : Fault → Prop
  | .refusal _ | .exhausted _ _ _ => False
  | .mismatch _ | .failure _ _ => True

end Fault

namespace Retry.Policy

theorem factor_error_foreign {policy : Policy} {attempt : Int} {fault : Fault}
    (h : policy.factor attempt = .error fault) : fault.Foreign := by
  unfold factor at h
  dsimp only at h
  split at h
  · cases h
    trivial
  · split at h
    · cases h
      trivial
    · split at h
      · cases h
        trivial
      · cases h

theorem delay_error_foreign {policy : Policy} {random : Binary64} {attempt : Int} {fault : Fault}
    (h : policy.delay random attempt = .error fault) : fault.Foreign := by
  unfold delay at h
  rcases Outcome.bind_eq_error_iff.mp h with hfactor | ⟨factor, -, h⟩
  · exact factor_error_foreign hfactor
  · cases h

end Retry.Policy

namespace Authority

theorem refusalOf_refusal (status : Int) (operation : Text) :
    ∃ r, refusalOf status operation = .refusal r := by
  unfold refusalOf
  dsimp only
  split_ifs <;> exact ⟨_, rfl⟩

namespace Client

variable {client : Client} {call : Call} {key : Text} {body : Bytes} {s : Session}

/-! ### What decides a call -/

/-- What a call makes of the outcome of its attempts. -/
def afterSend (call : Call) : Except Fault Response → Except Fault Bytes
  | .error (.exhausted _ _ last) => .error (unreachable call last)
  | .error fault => .error fault
  | .ok response =>
    if response.isSuccess then .ok response.body
    else .error (refusalOf response.status call.operation)

theorem count_exec (client : Client) (call : Call) (outcome : Text) (s : Session) :
    ∃ s', (client.count call outcome).exec s = (.ok (), s') := by
  unfold count
  split <;> exact ⟨_, rfl⟩

/-- **What a call comes to** is told by the outcome of its attempts. -/
theorem perform_exec (client : Client) (call : Call) (key : Text) (body : Bytes) (s : Session) :
    ((client.perform call key body).exec s).1 =
      afterSend call ((client.send call key body).exec s).1 := by
  unfold perform
  rw [exec_outcome_bind]
  rcases (client.send call key body).exec s with ⟨fault | response, s₁⟩
  · cases fault with
    | exhausted task attempts last =>
      obtain ⟨s₂, hcount⟩ := client.count_exec call "transport_error" s₁
      dsimp only
      rw [exec_bind_ok hcount]
      rfl
    | refusal r => rfl
    | mismatch issues => rfl
    | failure kind message => rfl
  · dsimp only [afterSend]
    split
    · obtain ⟨s₂, hcount⟩ := client.count_exec call "success" s₁
      rw [exec_bind_ok hcount]
      rfl
    · obtain ⟨s₂, hcount⟩ := client.count_exec call (Text.ofInt response.status) s₁
      rw [exec_bind_ok hcount]
      rfl

theorem afterSend_foreign {fault : Fault} (h : fault.Foreign) :
    afterSend call (.error fault) = .error fault := by
  cases fault with
  | refusal r => exact h.elim
  | exhausted task attempts last => exact h.elim
  | mismatch issues => rfl
  | failure kind message => rfl

/-! ### Calls that break off -/

/-- The attempts of a call. -/
def attempts (client : Client) (call : Call) (key : Text) (body : Bytes) :
    Retry.Setting Session Response where
  hooks := .session
  policy := client.policy
  families := [Kind.transportFamily]
  name := "_send_once"
  task := client.sendOnce call key body

theorem send_eq (client : Client) (call : Call) (key : Text) (body : Bytes) :
    client.send call key body = (client.attempts call key body).run := rfl

/-- A call that neither a response nor the end of its attempts decides. -/
inductive Breaks (client : Client) (call : Call) (key : Text) (body : Bytes) (s : Session) :
    Fault → Prop where
  /-- An attempt fails with a foreign fault that it is not tried again for. -/
  | attempt {left number : Nat} {s₁ : Session} {fault : Fault}
    (h : (client.attempts call key body).Attempt s left number s₁)
    (failed : ((client.sendOnce call key body).exec s₁).1 = .error fault)
    (untried : fault.isOneOf [Kind.transportFamily] = false) (foreign : fault.Foreign) :
    Breaks client call key body s fault
  /-- The pause after an attempt cannot be told. -/
  | pause {left number : Nat} {s₁ s₂ : Session} {cause fault : Fault}
    (h : (client.attempts call key body).Attempt s (left + 1) number s₁)
    (failed : (client.sendOnce call key body).exec s₁ = (.error cause, s₂))
    (retried : cause.isOneOf [Kind.transportFamily] = true)
    (delay : client.policy.delay s₂.environment.random number = .error fault) :
    Breaks client call key body s fault

theorem Breaks.foreign {fault : Fault} (h : client.Breaks call key body s fault) :
    fault.Foreign := by
  cases h with
  | attempt _ _ _ foreign => exact foreign
  | pause _ _ _ delay => exact Retry.Policy.delay_error_foreign delay

theorem Breaks.fails {fault : Fault} (h : client.Breaks call key body s fault) :
    (client.attempts call key body).Fails s fault := by
  cases h with
  | attempt h failed untried _ => exact .escaped h failed untried
  | pause h failed retried delay => exact .unpaused h failed retried delay

theorem breaks_of_fails {fault : Fault} (h : (client.attempts call key body).Fails s fault)
    (foreign : fault.Foreign) : client.Breaks call key body s fault := by
  cases h with
  | exhausted _ _ _ => exact foreign.elim
  | escaped h failed untried => exact .attempt h failed untried foreign
  | unpaused h failed retried delay => exact .pause h failed retried delay

theorem perform_of_breaks {fault : Fault} (h : client.Breaks call key body s fault) :
    ((client.perform call key body).exec s).1 = .error fault := by
  rw [perform_exec, send_eq, Retry.Setting.run_eq_error_iff.mpr h.fails,
    afterSend_foreign h.foreign]

/-- **A call fails with a refusal, or it breaks off.** -/
theorem perform_error_cases {fault : Fault}
    (h : ((client.perform call key body).exec s).1 = .error fault) :
    (∃ r, fault = .refusal r) ∨ client.Breaks call key body s fault := by
  rw [perform_exec, send_eq] at h
  rcases hs : ((client.attempts call key body).run.exec s).1 with failed | response
  · rw [hs] at h
    have breaks (foreign : failed.Foreign) : client.Breaks call key body s failed :=
      breaks_of_fails (Retry.Setting.run_eq_error_iff.mp hs) foreign
    cases failed with
    | exhausted task attempts last =>
      cases h
      exact .inl ⟨_, rfl⟩
    | refusal r =>
      cases h
      exact .inl ⟨r, rfl⟩
    | mismatch issues =>
      cases h
      exact .inr (breaks trivial)
    | failure kind message =>
      cases h
      exact .inr (breaks trivial)
  · rw [hs] at h
    dsimp only [afterSend] at h
    split at h
    · cases h
    · cases h
      exact .inl (refusalOf_refusal _ _)

/-! ### Attempts that can be sent -/

/-- A request of the call can be made and has an address to go to. -/
def isSendable (client : Client) (call : Call) (key : Text) (body : Bytes) : Bool :=
  match client.address call with
  | .ok url =>
    (client.checkHeaders url (client.request url call key body)).isOk && url.scheme ≠ []
  | .error _ => false

theorem sendOnce_exec (sendable : client.isSendable call key body = true) (s : Session) :
    ∃ request, (client.sendOnce call key body).exec s =
      (((s.line.connect client.timeout).exchange request).1,
        { s with line := ((s.line.connect client.timeout).exchange request).2 }) := by
  unfold isSendable at sendable
  cases ha : client.address call with
  | error fault =>
    rw [ha] at sendable
    cases sendable
  | ok url =>
    rw [ha] at sendable
    dsimp only at sendable
    obtain ⟨hcheck, hscheme⟩ := Bool.and_eq_true_iff.mp sendable
    have hscheme : url.scheme ≠ [] := of_decide_eq_true hscheme
    refine ⟨client.request url call key body, ?_⟩
    unfold sendOnce
    rw [exec_bind, exec_modify]
    dsimp only
    rw [ha, exec_ofExcept_bind]
    dsimp only
    cases hc : client.checkHeaders url (client.request url call key body) with
    | error fault =>
      rw [hc] at hcheck
      cases hcheck
    | ok u =>
      rw [exec_ofExcept_bind]
      dsimp only
      rw [exec_bind, exec_step]
      dsimp only
      rcases ((s.line.connect client.timeout).exchange
        (client.request url call key body)) with ⟨fault | response, line⟩
      · rfl
      · dsimp only
        rw [if_neg hscheme]
        rfl

end Client

end Authority

end Entitlement
