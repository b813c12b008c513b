import Entitlement.Retry.Delay
import Entitlement.Session

/-!
# Trying again

`Retry.run` tries a task up to the limit of a policy.  Only faults of the listed families are tried
again, after a pause; any other fault, and a value, ends it at once.  The last failure is reported
as exhaustion.

The task works on any state; `Hooks` say how that state throws the dice, pauses and takes log
entries.
-/

namespace Entitlement

namespace Retry

/-- What trying again needs from a state. -/
structure Hooks (σ : Type) where
  random : σ → Binary64
  pause : Binary64 → σ → σ
  log : Log.Entry → σ → σ

/-- The hooks of a session. -/
def Hooks.session : Hooks Session where
  random s := s.environment.random
  pause := Session.sleep
  log := Session.log

/-- The parts that stay the same over the attempts. -/
structure Setting (σ α : Type) where
  hooks : Hooks σ
  policy : Policy
  families : List Text
  name : Text
  task : Task σ α

namespace Setting

variable {σ α : Type}

def logger (setting : Setting σ α) : Text := "retry." ++ setting.name

def note (setting : Setting σ α) (level : Log.Level) (event : Text) (fields : Members) :
    Task σ Unit :=
  modify (setting.hooks.log ⟨setting.logger, level, event, fields⟩)

/-- A value at the first attempt is no news. -/
def succeeded (setting : Setting σ α) (attempt : Nat) (a : α) : Task σ α := do
  if 1 < attempt then
    setting.note .info "Retry succeeded"
      [("attempt", .int attempt), ("function", .string setting.name)]
  return a

/-- The last attempt failed. -/
def exhausted (setting : Setting σ α) (attempt : Nat) (fault : Fault) : Task σ α := do
  setting.note .error "All retry attempts exhausted"
    [("attempts", .int attempt), ("function", .string setting.name),
      ("error", .string fault.text)]
  throw (.exhausted setting.name attempt fault)

/-- Pauses after a failed attempt. -/
def pause (setting : Setting σ α) (attempt : Nat) (fault : Fault) : Task σ Unit := do
  let delay ← Task.ofExcept (setting.policy.delay (setting.hooks.random (← get)) attempt)
  setting.note .warning "Retry attempt failed, waiting before next attempt"
    [("attempt", .int attempt), ("delay", .float delay), ("function", .string setting.name),
      ("error", .string fault.text)]
  modify (setting.hooks.pause delay)

/-- Tries, with `left` further attempts after the present one. -/
def loop (setting : Setting σ α) : (left attempt : Nat) → Task σ α
  | left, attempt => do
    match ← setting.task.outcome with
    | .ok a => setting.succeeded attempt a
    | .error fault =>
      if fault.isOneOf setting.families then
        match left with
        | 0 => setting.exhausted attempt fault
        | left + 1 => do
          setting.pause attempt fault
          setting.loop left (attempt + 1)
      else throw fault

/-- Tries up to the limit of the policy. -/
def run (setting : Setting σ α) : Task σ α := setting.loop (setting.policy.limit - 1) 1

end Setting

/-! ## Scripts -/

/-- A state with a script of outcomes to come and the calls made so far. -/
structure Rehearsal (α γ : Type) where
  session : Session
  script : List (Except Fault α)
  calls : List γ

namespace Rehearsal

variable {α γ : Type}

/-- The hooks of the session inside. -/
def hooks : Hooks (Rehearsal α γ) where
  random r := r.session.environment.random
  pause delay r := { r with session := r.session.sleep delay }
  log entry r := { r with session := r.session.log entry }

/-- The fault of a call beyond the script. -/
def scriptEnd : Fault := .failure (Kind.indexError) "pop from empty list"

/-- A call with arguments; the script says how it ends. -/
def play (arguments : γ) : Task (Rehearsal α γ) α :=
  Task.step fun r =>
    let r := { r with calls := r.calls ++ [arguments] }
    match r.script with
    | [] => (.error scriptEnd, r)
    | result :: script => (result, { r with script })

end Rehearsal

end Retry

end Entitlement
