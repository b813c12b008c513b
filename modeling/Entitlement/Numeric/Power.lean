import Entitlement.Numeric.Binary64

/-!
# Powers in hardware arithmetic

The power of two double precision numbers has no exact rule that is worth stating: its last bit is
the machine's.  So it is taken from the machine, through the 64 bits of a number.
-/

namespace Entitlement

namespace Binary64

/-- The interchange bits of a number. -/
def toBits : Binary64 → UInt64
  | .finite negative exponent fraction =>
    .ofNat ((if negative then Nat.pow 2 63 else 0) + exponent.val * Nat.pow 2 52 + fraction.val)
  | .infinite negative => .ofNat ((if negative then Nat.pow 2 63 else 0) + 2047 * Nat.pow 2 52)
  | .nan => .ofNat (2047 * Nat.pow 2 52 + Nat.pow 2 51)

/-- The number with the given interchange bits. -/
def ofBits (bits : UInt64) : Binary64 :=
  let n := bits.toNat
  let negative : Bool := Nat.pow 2 63 ≤ n
  let exponent := n / Nat.pow 2 52 % Nat.pow 2 11
  let fraction := fractionOf n
  if h : exponent < 2047 then .finite negative ⟨exponent, h⟩ fraction
  else if fraction.val = 0 then .infinite negative
  else .nan

/-- `x` to the power `y`. -/
def pow (x y : Binary64) : Binary64 :=
  ofBits (Float.pow (Float.ofBits x.toBits) (Float.ofBits y.toBits)).toBits

end Binary64

end Entitlement
