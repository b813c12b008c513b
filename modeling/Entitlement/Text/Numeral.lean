import Entitlement.Text.Blank
import Entitlement.Text.Digit

/-!
# Integers in texts

A text that writes an integer may have blanks around it, a sign, and single underscores between its
digits.  A text with code points beyond ASCII may use blanks and decimal digits of any script.
-/

namespace Entitlement

namespace Text

/-- The ASCII form of a blank or decimal digit of another script; nothing for other code points
beyond ASCII. -/
def toAscii? (c : CodePoint) : Option CodePoint :=
  if c.isAscii then some c
  else if c.isBlank then some ' '
  else c.digitValue?.map fun n => .ofNat (0x30 + n)

/-- A text in ASCII without blanks at its ends. -/
def numeral? (t : Text) : Option Text :=
  (t.mapM toAscii?).map (strip CodePoint.isAsciiBlank)

/-- Whether a minus stands in front, and what follows the sign. -/
def splitSign (t : Text) : Bool × Text :=
  match t with
  | c :: rest => if c = '-' then (true, rest) else if c = '+' then (false, rest) else (false, t)
  | [] => (false, t)

/-- The value of a digit in a base up to sixteen. -/
def digitIn? (base : Nat) (c : CodePoint) : Option Nat := c.hexValue?.filter (· < base)

/-- The number that digits in a base write, with single underscores allowed between them. -/
def digitsIn? (base : Nat) : (first : Bool) → (n : Nat) → Text → Option Nat
  | first, n, [] => if first then none else some n
  | first, n, c :: rest =>
    if c = '_' then
      match rest with
      | [] => none
      | d :: rest =>
        if first then none
        else (digitIn? base d).bind fun k => digitsIn? base false (n * base + k) rest
    else (digitIn? base c).bind fun k => digitsIn? base false (n * base + k) rest

/-- The integer that a text writes in base ten. -/
def integer? (t : Text) : Option Int := do
  let (negative, digits) := splitSign (← numeral? t)
  if numeralLimit < (digits.filter CodePoint.isDigit).length then none
  let n : Int := ← digitsIn? 10 true 0 digits
  return if negative then -n else n

end Text

end Entitlement
