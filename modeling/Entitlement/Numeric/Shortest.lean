import Entitlement.Text.Basic
import Entitlement.Numeric.Binary64

/-!
# The shortest decimal numeral

A number is written with the fewest digits that read back as that number.  `Shortest.decimal` tries
one digit, two digits and so on up to seventeen; on each grid it looks at the two neighbours of the
value, and takes the nearer one of those that read back.  Should none read back, the exact decimal
expansion is taken, so the numeral always reads back.

How digits become text is a `NumberLayout`.
-/

namespace Entitlement

/-- The number `digits · 10 ^ exponent`. -/
structure Decimal where
  digits : Nat
  exponent : Int
  deriving DecidableEq

namespace Decimal

/-- Drops the zeros at the end of the digits, at most `fuel` of them. -/
def trimmed : (fuel : Nat) → Decimal → Decimal
  | 0, d => d
  | fuel + 1, d =>
    if d.digits ≠ 0 ∧ d.digits % 10 = 0 then trimmed fuel ⟨d.digits / 10, d.exponent + 1⟩ else d

end Decimal

namespace Shortest

/-- The power of ten `k` for which `num / den` lies in `[10 ^ (k - 1), 10 ^ k)`.  The binary
logarithms give it up to one or two steps. -/
def magnitude (num den : Nat) : Int :=
  let e : Int := (num.log2 : Int) - (den.log2 : Int)
  let k := (e - 1) * 30103 / 100000
  let below (k : Int) : Bool := num * Nat.pow 10 (-k).toNat < den * Nat.pow 10 k.toNat
  if below (k - 1) then k - 1
  else if below k then k
  else if below (k + 1) then k + 1
  else k + 2

/-- The better neighbour of `num / den` on the grid of the multiples of `10 ^ unit`: of two that
read back the nearer one, or the even one in a tie. -/
def onGrid? (num den : Nat) (unit : Int) : Option Decimal :=
  let n := num * Nat.pow 10 (-unit).toNat
  let d := den * Nat.pow 10 unit.toNat
  let low := n / d
  let target := Binary64.ofRatio false num den
  let reads (digits : Nat) : Bool := Binary64.ofDecimal false digits unit = target
  match reads low, reads (low + 1) with
  | true, true => some ⟨Binary64.roundQuotient n d, unit⟩
  | true, false => some ⟨low, unit⟩
  | false, true => some ⟨low + 1, unit⟩
  | false, false => none

/-- The first grid with a hit, from `17 - fuel + 1` digits on. -/
def search (num den : Nat) (magnitude : Int) : (fuel : Nat) → Option Decimal
  | 0 => none
  | fuel + 1 =>
    match onGrid? num den (magnitude - (17 - fuel : Int)) with
    | some d => some d
    | none => search num den magnitude fuel

/-- All digits of `m · 2 ^ q`. -/
def expansion (m : Nat) (q : Int) : Decimal :=
  ⟨m * Nat.pow 2 q.toNat * Nat.pow 5 (-q).toNat, min q 0⟩

/-- The shortest decimal of a finite magnitude. -/
def decimal (exponent : Fin 2047) (fraction : Fin (Nat.pow 2 52)) : Decimal :=
  let (num, den) := Binary64.ratio exponent fraction
  if num = 0 then ⟨0, 0⟩
  else
    let d := (search num den (magnitude num den) 17).getD
      (expansion (Binary64.significand exponent fraction) (Binary64.scale exponent))
    d.trimmed (d.digits.log2 + 1)

end Shortest

/-- How a number is laid out: the places of the point, counted from the first digit, between which
there is no exponent, and the width of the exponent. -/
structure NumberLayout where
  lowest : Int
  highest : Int
  exponentWidth : Nat

namespace NumberLayout

/-- The digits with a point after the first `point` of them. -/
def positional (digits : Text) (point : Int) : Text :=
  if point ≤ 0 then "0." ++ List.replicate (-point).toNat ('0' : CodePoint) ++ digits
  else
    let n := point.toNat
    if digits.length ≤ n then
      digits ++ List.replicate (n - digits.length) ('0' : CodePoint) ++ (".0" : Text)
    else digits.take n ++ ('.' : CodePoint) :: digits.drop n

/-- One digit before the point, and an exponent. -/
def scientific (layout : NumberLayout) (digits : Text) (point : Int) : Text :=
  let front : Text :=
    match digits with
    | [] => []
    | [d] => [d]
    | d :: rest => d :: ('.' : CodePoint) :: rest
  let e := point - 1
  let sign : Text := if e < 0 then "-" else "+"
  front ++ ('e' : CodePoint) :: (sign ++ Text.padded layout.exponentWidth e.natAbs)

/-- The text of a finite number. -/
def write (layout : NumberLayout) (negative : Bool) (exponent : Fin 2047)
    (fraction : Fin (Nat.pow 2 52)) : Text :=
  let d := Shortest.decimal exponent fraction
  let digits := Text.decimal d.digits
  let point := d.exponent + digits.length
  let magnitude :=
    if layout.lowest < point ∧ point ≤ layout.highest then positional digits point
    else layout.scientific digits point
  if negative then ('-' : CodePoint) :: magnitude else magnitude

/-- No exponent from `0.0001` to below `10 ^ 16`; an exponent has a sign and two digits. -/
def standard : NumberLayout := ⟨-4, 16, 2⟩

/-- No exponent from `0.00001` to below `10 ^ 16`; an exponent has a sign and no zero in front. -/
def terse : NumberLayout := ⟨-5, 16, 1⟩

end NumberLayout

/-- The text of a number in the standard layout, infinities and all. -/
def Binary64.text : Binary64 → Text
  | .finite negative exponent fraction =>
    NumberLayout.standard.write negative exponent fraction
  | .infinite negative => if negative then "-inf" else "inf"
  | .nan => "nan"

end Entitlement
