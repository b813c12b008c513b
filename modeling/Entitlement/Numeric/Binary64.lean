/-!
# Double precision numbers

A number is held by its three fields, so each value has one form: a finite one of exponent `0` is
`fraction · 2 ^ -1074`, one of exponent `e > 0` is `(2 ^ 52 + fraction) · 2 ^ (e - 1075)`.  There is
one value that is not a number.

`Binary64.ofRatio` rounds a fraction of natural numbers to the nearest value, a tie to the even
one.  Decimal numerals, integers, sums and products are read through it, so each of them is the
exact result rounded once.
-/

namespace Entitlement

/-- A double precision number. -/
inductive Binary64 where
  | finite (negative : Bool) (exponent : Fin 2047) (fraction : Fin (Nat.pow 2 52))
  | infinite (negative : Bool)
  | nan
  deriving DecidableEq

namespace Binary64

/-- The last 52 bits of an integer. -/
def fractionOf (n : Nat) : Fin (Nat.pow 2 52) :=
  ⟨n % Nat.pow 2 52, Nat.mod_lt _ (Nat.two_pow_pos 52)⟩

/-- Zero of a sign. -/
def zeroOf (negative : Bool) : Binary64 := .finite negative 0 (fractionOf 0)

def zero : Binary64 := zeroOf false

/-- The integer `m` in the magnitude `m · 2 ^ scale`. -/
def significand (exponent : Fin 2047) (fraction : Fin (Nat.pow 2 52)) : Nat :=
  if exponent.val = 0 then fraction.val else Nat.pow 2 52 + fraction.val

/-- The power of two that goes with `significand`. -/
def scale (exponent : Fin 2047) : Int :=
  if exponent.val = 0 then -1074 else (exponent.val : Int) - 1075

/-- The number `m · 2 ^ q`, for `m ≤ 2 ^ 53` and `q ≥ -1074` with `q = -1074` when `m < 2 ^ 52`. -/
def pack (negative : Bool) (m : Nat) (q : Int) : Binary64 :=
  let (m, q) := if m = Nat.pow 2 53 then (Nat.pow 2 52, q + 1) else (m, q)
  let exponent := if m < Nat.pow 2 52 then 0 else (q + 1075).toNat
  if h : exponent < 2047 then
    .finite negative ⟨exponent, h⟩ (fractionOf m)
  else .infinite negative

/-- The quotient rounded to the nearest integer, a tie to the even one. -/
def roundQuotient (num den : Nat) : Nat :=
  let k := num / den
  let r := num % den
  if den < 2 * r || (2 * r = den && k % 2 = 1) then k + 1 else k

/-- `n · 2 ^ k` for a natural `k`, and `n` for a negative one. -/
def shiftUp (n : Nat) (k : Int) : Nat := n <<< k.toNat

/-- The power of two by which `num / den` is divided, so that 53 bits remain before the point, or
fewer where the numbers end. -/
def scaleOf (num den : Nat) : Int :=
  let q : Int := (num.log2 : Int) - (den.log2 : Int) - 53
  let q := if shiftUp num (-q) < shiftUp den q * Nat.pow 2 53 then q else q + 1
  max q (-1074)

/-- The number nearest to `num / den`, for a positive `den`. -/
def ofRatio (negative : Bool) (num den : Nat) : Binary64 :=
  if num = 0 then zeroOf negative
  else
    let q := scaleOf num den
    pack negative (roundQuotient (shiftUp num (-q)) (shiftUp den q)) q

/-- The number nearest to `digits · 10 ^ exponent`.  Far beyond both ends the answer is plain, and
no large power is formed. -/
def ofDecimal (negative : Bool) (digits : Nat) (exponent : Int) : Binary64 :=
  if digits = 0 then zeroOf negative
  else if 400 < exponent then .infinite negative
  else if exponent < -(400 + (digits.log2 : Int)) then zeroOf negative
  else ofRatio negative (digits * Nat.pow 10 exponent.toNat) (Nat.pow 10 (-exponent).toNat)

def ofInt (i : Int) : Binary64 := ofRatio (i < 0) i.natAbs 1

/-- The magnitude of a finite number as a fraction. -/
def ratio (exponent : Fin 2047) (fraction : Fin (Nat.pow 2 52)) : Nat × Nat :=
  let m := significand exponent fraction
  let q := scale exponent
  (shiftUp m q, shiftUp 1 (-q))

def isFinite : Binary64 → Bool
  | .finite .. => true
  | _ => false

/-- The integer part of a finite number, cut toward zero. -/
def truncate? : Binary64 → Option Int
  | .finite negative exponent fraction =>
    let (num, den) := ratio exponent fraction
    let n : Int := (num / den : Nat)
    some (if negative then -n else n)
  | _ => none

/-- The integer that a finite number is, when it is one. -/
def toInt? : Binary64 → Option Int
  | .finite negative exponent fraction =>
    let (num, den) := ratio exponent fraction
    if num % den = 0 then
      let n : Int := (num / den : Nat)
      some (if negative then -n else n)
    else none
  | _ => none

/-! ## Order -/

/-- A key that is ordered as the numbers are. -/
def orderKey? : Binary64 → Option Int
  | .finite negative exponent fraction =>
    let n : Int := (exponent.val * Nat.pow 2 52 + fraction.val : Nat)
    some (if negative then -n else n)
  | .infinite negative =>
    let n : Int := (2047 * Nat.pow 2 52 : Nat)
    some (if negative then -n else n)
  | .nan => none

/-- The order of numbers; what is not a number is below nothing. -/
def lt (x y : Binary64) : Bool :=
  match x.orderKey?, y.orderKey? with
  | some a, some b => a < b
  | _, _ => false

def le (x y : Binary64) : Bool :=
  match x.orderKey?, y.orderKey? with
  | some a, some b => a ≤ b
  | _, _ => false

/-- The second number if it is below the first one, and else the first. -/
def least (x y : Binary64) : Binary64 := if lt y x then y else x

/-- The second number if it is above the first one, and else the first. -/
def greatest (x y : Binary64) : Binary64 := if lt x y then y else x

/-! ## Arithmetic -/

def neg : Binary64 → Binary64
  | .finite negative exponent fraction => .finite (!negative) exponent fraction
  | .infinite negative => .infinite (!negative)
  | .nan => .nan

/-- The sum of two signed magnitudes, rounded once.  A sum of zero is negative only if both terms
are. -/
def add : Binary64 → Binary64 → Binary64
  | .nan, _ | _, .nan => .nan
  | .infinite a, .infinite b => if a = b then .infinite a else .nan
  | .infinite a, .finite .. | .finite .., .infinite a => .infinite a
  | .finite a e f, .finite b g h =>
    let q := min (scale e) (scale g)
    let term (negative : Bool) (m : Nat) (p : Int) : Int :=
      let n : Int := shiftUp m (p - q)
      if negative then -n else n
    let sum := term a (significand e f) (scale e) + term b (significand g h) (scale g)
    if sum = 0 then zeroOf (a && b)
    else ofRatio (sum < 0) (shiftUp sum.natAbs q) (shiftUp 1 (-q))

def sub (x y : Binary64) : Binary64 := add x (neg y)

/-- The product, rounded once. -/
def mul : Binary64 → Binary64 → Binary64
  | .nan, _ | _, .nan => .nan
  | .infinite a, .infinite b => .infinite (a != b)
  | .infinite a, .finite b e f | .finite b e f, .infinite a =>
    if significand e f = 0 then .nan else .infinite (a != b)
  | .finite a e f, .finite b g h =>
    let q := scale e + scale g
    ofRatio (a != b) (shiftUp (significand e f * significand g h) q) (shiftUp 1 (-q))

instance : Add Binary64 := ⟨add⟩
instance : Sub Binary64 := ⟨sub⟩
instance : Mul Binary64 := ⟨mul⟩
instance : Neg Binary64 := ⟨neg⟩

end Binary64

end Entitlement
