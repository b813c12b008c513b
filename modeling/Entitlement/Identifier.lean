import Entitlement.Text.Numeral

/-!
# UUIDs

Reading is lenient in two layers.  `Uuid.core` drops the marks `urn:` and `uuid:` wherever they
stand, braces at both ends, and hyphens; 32 code points must be left.  These are read by
`Uuid.integer?` as an integer in base sixteen, where the mark `0x` may follow the sign.

`Uuid.text` writes the canonical form, five groups in lower case.
-/

namespace Entitlement

/-- A UUID, as its 128-bit value. -/
structure Uuid where
  value : Fin (Nat.pow 2 128)
  deriving DecidableEq

namespace Uuid

/-- The UUID of value zero. -/
def nil : Uuid := ⟨⟨0, Nat.two_pow_pos 128⟩⟩

/-- The first UUID of version 4 after the one whose other bits are zero. -/
def first : Uuid := ⟨⟨0x40008000000000000001, by decide⟩⟩

/-- Five groups of 8, 4, 4, 4 and 12 digits. -/
def text (u : Uuid) : Text :=
  let digits := Text.hex 32 u.value.val
  let group (first count : Nat) : Text := (digits.drop first).take count
  Text.joinWith "-" [group 0 8, group 8 4, group 12 4, group 16 4, group 20 12]

/-- What is left of a text without marks, braces and hyphens. -/
def core (t : Text) : Text :=
  let t := Text.dropEvery "uuid:" (Text.dropEvery "urn:" t)
  let t := Text.strip (fun c => c = '\x7b' ∨ c = '\x7d') t
  t.filter (· ≠ '-')

/-- Drops the mark of base sixteen and an underscore right after it. -/
def dropBase (t : Text) : Text :=
  match t with
  | z :: x :: rest =>
    if z = '0' ∧ (x = 'x' ∨ x = 'X') then
      match rest with
      | u :: rest' => if u = '_' then rest' else rest
      | [] => rest
    else t
  | _ => t

/-- The integer that a text writes in base sixteen. -/
def integer? (t : Text) : Option Int := do
  let (negative, digits) := Text.splitSign (← Text.numeral? t)
  let n : Int := ← Text.digitsIn? 16 true 0 (dropBase digits)
  return if negative then -n else n

/-- Reads a UUID. -/
def read? (t : Text) : Option Uuid := do
  let t := core t
  if t.length ≠ 32 then none
  let i ← integer? t
  if h : 0 ≤ i ∧ i.toNat < Nat.pow 2 128 then some ⟨⟨i.toNat, h.2⟩⟩ else none

end Uuid

end Entitlement
