import Entitlement.Text.Basic

/-!
# Classes and shifts of code points

A Unicode property is kept as a list of ranges, and a simple case mapping as a list of shifts.  The
tables of the library state Unicode 14 in these two shapes.
-/

namespace Entitlement

namespace CodePoint

/-- Whether one of the ranges, ends included, holds the code point. -/
def inRanges (ranges : List (Nat × Nat)) (c : CodePoint) : Bool :=
  ranges.any fun (first, last) => first ≤ c.val && c.val ≤ last

/-- A run of code points that a mapping moves by one distance: the first, the last, the step from
one to the next, and the distance. -/
structure Shift where
  first : Nat
  last : Nat
  step : Nat
  distance : Int

/-- Whether the run holds the number. -/
def Shift.moves (s : Shift) (n : Nat) : Bool :=
  s.first ≤ n && n ≤ s.last && (n - s.first) % s.step == 0

/-- Moves the code point by the first run that holds it, and keeps it when none does. -/
def shiftBy (shifts : List Shift) (c : CodePoint) : CodePoint :=
  match shifts.find? (·.moves c.val) with
  | some s => .ofNat (c.val + s.distance).toNat
  | none => c

/-- The entry of a table of special cases, or else the shifted code point alone. -/
def mapBy (special : List (Nat × List Nat)) (shifts : List Shift) (c : CodePoint) : Text :=
  match special.lookup c.val with
  | some ns => ns.map .ofNat
  | none => [shiftBy shifts c]

end CodePoint

end Entitlement
