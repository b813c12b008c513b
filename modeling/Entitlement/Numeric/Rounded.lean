import Entitlement.Numeric.Shortest

/-!
# Numerals of a given precision

A magnitude `num / den` is rounded once, a tie to the even digit: to a number of places after the
point (`Rounded.fixed`), or to a number of digits in all, which are laid out with an exponent
(`Rounded.scientific`) or in the form that suits the magnitude (`Rounded.general`).

A point with nothing after it is left out, unless it is to be kept.
-/

namespace Entitlement

namespace Rounded

/-- The magnitude rounded to `count` digits: the digits, and the power of ten of the first one. -/
def digits (count num den : Nat) : Text × Int :=
  if num = 0 then (List.replicate count '0', 0)
  else
    let first := Shortest.magnitude num den - 1
    let unit := first + 1 - count
    let n := Binary64.roundQuotient (num * Nat.pow 10 (-unit).toNat) (den * Nat.pow 10 unit.toNat)
    if n = Nat.pow 10 count then (Text.decimal (n / 10), first + 1) else (Text.decimal n, first)

/-- The two sides of a point. -/
def pointed (keepPoint : Bool) (whole fraction : Text) : Text :=
  if fraction = [] && !keepPoint then whole else whole ++ ('.' : CodePoint) :: fraction

/-- The sign and the two or more digits of an exponent. -/
def exponentText (e : Int) : Text :=
  ('e' : CodePoint) :: ((if e < 0 then '-' else '+') :: Text.padded 2 e.natAbs)

/-- `places` digits after the point. -/
def fixed (keepPoint : Bool) (places num den : Nat) : Text :=
  let digits := Text.padded (places + 1) (Binary64.roundQuotient (num * Nat.pow 10 places) den)
  let whole := digits.length - places
  pointed keepPoint (digits.take whole) (digits.drop whole)

/-- One digit before the point, `places` digits after it, and an exponent. -/
def scientific (keepPoint : Bool) (places num den : Nat) : Text :=
  let (digits, first) := digits (places + 1) num den
  pointed keepPoint (digits.take 1) (digits.drop 1) ++ exponentText first

/-- `count` digits, at least one.  There is an exponent when the first digit stands more than four
places behind the point or the digits do not reach the point.  Zeros at the end of the fraction are
dropped, unless the point is to be kept. -/
def general (keepPoint : Bool) (count num den : Nat) : Text :=
  let count := max 1 count
  let (digits, first) := digits count num den
  let bare (fraction : Text) : Text :=
    if keepPoint then fraction else Text.stripEnd (· = '0') fraction
  if first < -4 ∨ (count : Int) ≤ first then
    pointed keepPoint (digits.take 1) (bare (digits.drop 1)) ++ exponentText first
  else if first < 0 then
    let zeros : Text := List.replicate (-first - 1).toNat '0'
    pointed keepPoint ['0'] (bare (zeros ++ digits))
  else
    let whole := first.toNat + 1
    pointed keepPoint (digits.take whole) (bare (digits.drop whole))

end Rounded

end Entitlement
