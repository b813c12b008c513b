import Entitlement.Fault.Basic
import Entitlement.Numeric.Power

/-!
# Pauses between attempts

A policy limits the attempts at a task and sets the pauses between them.  The pause after an attempt
grows by a constant factor from one attempt to the next up to a limit, is moved by up to a tenth in
either direction when jitter is on, and is never negative.
-/

namespace Entitlement

namespace Retry

/-- How often and after which pauses a task is tried again. -/
structure Policy where
  maxAttempts : Int
  baseDelay : Binary64
  maxDelay : Binary64
  exponentialBase : Binary64
  jitter : Bool

namespace Policy

/-- Three attempts, half a second and twice as long each time, at most ten seconds, with jitter. -/
def standard : Policy where
  maxAttempts := 3
  baseDelay := .ofDecimal false 5 (-1)
  maxDelay := .ofInt 10
  exponentialBase := .ofInt 2
  jitter := true

/-- The number of attempts, at least one. -/
def limit (policy : Policy) : Nat := max 1 policy.maxAttempts.toNat

/-- The factor of the pause after an attempt.  A finite base must not lead out of the finite
numbers, and zero has no negative powers. -/
def factor (policy : Policy) (attempt : Int) : Except Fault Binary64 :=
  let exponent := Binary64.ofInt (attempt - 1)
  let base := policy.exponentialBase
  if !exponent.isFinite then .error (.failure Kind.overflow "int too large to convert to float")
  else if (base = .zeroOf false || base = .zeroOf true) && attempt - 1 < 0 then
    .error (.failure Kind.zeroDivision "0.0 cannot be raised to a negative power")
  else
    match base, base.pow exponent with
    | .finite .., .infinite _ =>
      .error (.failure Kind.overflow "(34, 'Numerical result out of range')")
    | _, power => .ok power

/-- The pause moved by a tenth at most, in proportion to the throw. -/
def jittered (random delay : Binary64) : Binary64 :=
  let most := delay * .ofDecimal false 1 (-1)
  let least := -most
  delay + (least + (most - least) * random)

/-- The pause after an attempt. -/
def delay (policy : Policy) (random : Binary64) (attempt : Int) : Except Fault Binary64 := do
  let factor ← policy.factor attempt
  let delay := (policy.baseDelay * factor).least policy.maxDelay
  let delay := if policy.jitter then jittered random delay else delay
  return Binary64.zero.greatest delay

end Policy

end Retry

end Entitlement
