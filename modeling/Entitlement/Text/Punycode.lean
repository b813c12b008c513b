import Entitlement.Text.Basic

/-!
# Punycode

A text is written in ASCII as its ASCII code points, a hyphen, and a list of numerals that insert
the others, in ascending order.  Each numeral counts the places that are passed over before the next
insertion: in every round for one code point there are as many places as the text so far has gaps.

* A numeral has its lowest digit first; a digit below the threshold of its place ends it.  The
  thresholds depend on a bias, which follows the size of the numerals (`Punycode.adapted`).
* `Punycode.encode` and `Punycode.decode?` go through the same states: what is handled, the count so
  far, the bias.
-/

namespace Entitlement

namespace Punycode

/-! ## Numerals -/

/-- A digit: letters for the values below 26, then decimal digits. -/
def digit (n : Nat) : CodePoint := if n < 26 then .ofNat (0x61 + n) else .ofNat (0x30 + n - 26)

/-- The value of a digit; the case of a letter does not matter. -/
def digitValue? (c : CodePoint) : Option Nat :=
  let n := c.lowerAscii.val
  if 0x61 ≤ n ∧ n ≤ 0x7A then some (n - 0x61) else if c.isDigit then some (n - 0x30 + 26) else none

/-- The threshold of a place, from 1 to 26. -/
def threshold (bias place : Nat) : Nat := max 1 (min 26 (36 * (place + 1) - bias))

theorem threshold_pos (bias place : Nat) : 0 < threshold bias place := by
  unfold threshold; omega

/-- The numeral of `n` from a place on. -/
def numeral (bias place n : Nat) : Text :=
  let t := threshold bias place
  if n < t then [digit n]
  else digit (t + (n - t) % (36 - t)) :: numeral bias (place + 1) ((n - t) / (36 - t))
termination_by n
decreasing_by
  have := threshold_pos bias place
  exact Nat.lt_of_le_of_lt (Nat.div_le_self _ _) (by omega)

/-! ## The bias -/

/-- Divides by 35 until at most 455 is left, and counts 36 for every time. -/
def reduced (n count : Nat) : Nat × Nat :=
  if 455 < n then reduced (n / 35) (count + 36) else (n, count)
termination_by n
decreasing_by exact Nat.div_lt_self (by omega) (by omega)

/-- The bias after the number `n`, when `count` code points are handled.  The first number is large
and counts less. -/
def adapted (first : Bool) (n count : Nat) : Nat :=
  let n := if first then n / 700 else n / 2
  let (n, base) := reduced (n + n / count) 0
  base + 36 * n / (n + 38)

/-- The bias before the first number. -/
def firstBias : Nat := 72

/-- The first code point that is inserted. -/
def firstPoint : Nat := 0x80

/-! ## Writing -/

/-- A text half written. -/
structure Encoder where
  written : Text
  /-- The places that were passed over. -/
  passed : Nat
  bias : Nat
  /-- How many code points are handled. -/
  count : Nat
  first : Bool

namespace Encoder

/-- Passes one code point of the text in the round for `point`. -/
def pass (point : Nat) (e : Encoder) (c : CodePoint) : Encoder :=
  if c.val < point then { e with passed := e.passed + 1 }
  else if c.val = point then
    ⟨e.written ++ numeral e.bias 0 e.passed, 0, adapted e.first e.passed (e.count + 1), e.count + 1,
      false⟩
  else e

/-- The rounds from `point` on, of which only those for the given code points insert any. -/
def rounds (t : Text) : (point : Nat) → List CodePoint → Encoder → Encoder
  | _, [], e => e
  | point, c :: rest, e =>
    let e := { e with passed := e.passed + (c.val - point) * (e.count + 1) }
    let e := t.foldl (pass c.val) e
    rounds t (c.val + 1) rest { e with passed := e.passed + 1 }

end Encoder

/-- The code points of a text in ascending order, each one once. -/
def ascending (t : Text) : List CodePoint := (t.mergeSort fun a b => a ≤ b).eraseDups

def encode (t : Text) : Text :=
  let basic := t.filter CodePoint.isAscii
  let others := ascending (t.filter fun c => !c.isAscii)
  let start : Text := if basic = [] then [] else basic ++ ("-" : Text)
  (Encoder.rounds t firstPoint others ⟨start, 0, firstBias, basic.length, true⟩).written

/-! ## Reading -/

/-- A text half read, with the numeral that is under way. -/
structure Decoder where
  read : Text
  /-- The round, and the place in it. -/
  point : Nat
  place : Nat
  bias : Nat
  first : Bool
  /-- The digits so far, their value, and the weight of the next one. -/
  digits : Nat
  value : Nat
  weight : Nat

namespace Decoder

/-- Nothing inserted yet. -/
def start (basic : Text) : Decoder := ⟨basic, firstPoint, 0, firstBias, true, 0, 0, 1⟩

/-- Inserts the code point at which the finished numeral arrives. -/
def insert? (d : Decoder) : Option Decoder :=
  let gaps := d.read.length + 1
  let passed := d.place + d.value
  let point := d.point + passed / gaps
  let place := passed % gaps
  if h : point < 0x110000 then
    some ⟨d.read.insertIdx place ⟨point, h⟩, point, place + 1, adapted d.first d.value gaps, false,
      0, 0, 1⟩
  else none

/-- Reads one digit. -/
def step? (d : Decoder) (c : CodePoint) : Option Decoder := do
  let n ← digitValue? c
  let t := threshold d.bias d.digits
  let d := { d with value := d.value + n * d.weight }
  if n < t then d.insert?
  else return { d with digits := d.digits + 1, weight := d.weight * (36 - t) }

end Decoder

/-- The ASCII code points in front of the last hyphen, and the numerals. -/
def parts (t : Text) : Text × Text :=
  match t.reverse.span fun (c : CodePoint) => c ≠ '-' with
  | (_, []) => ([], t)
  | (numerals, _ :: basic) => (basic.reverse, numerals.reverse)

def decode? (t : Text) : Option Text := do
  let (basic, numerals) := parts t
  let d ← numerals.foldlM Decoder.step? (Decoder.start basic)
  if d.digits = 0 then return d.read else none

end Punycode

end Entitlement
