/-!
# Text as a list of code points

Texts here may hold lone surrogates: a payload can spell one with an escape, and it has to survive
storage.  So a text is a list of code points below `0x110000`, surrogates included, and not a list
of scalar values.

* `CodePoint.ofChar`, `Text.ofString`: literals, used as coercions;
* `Text.decimal`, `Text.hex`: numerals;
* `Text.dropPrefix?`, `Text.dropEvery`, `Text.strip`, `Text.splitAt`, `Text.joinWith`: the cutting
  and joining that the readers and writers of the library share.
-/

namespace Entitlement

/-- A Unicode code point, surrogates included. -/
abbrev CodePoint := Fin 0x110000

instance CodePoint.neZero : @NeZero Nat Zero.ofOfNat0 0x110000 := ⟨by decide⟩

/-- A text, as the list of its code points. -/
abbrev Text := List CodePoint

namespace CodePoint

/-- The code point of a scalar value. -/
def ofChar (c : Char) : CodePoint :=
  ⟨c.toNat, by
    have h := c.valid
    simp only [UInt32.isValidChar, Nat.isValidChar] at h
    show c.val.toNat < 0x110000
    omega⟩

instance : Coe Char CodePoint := ⟨ofChar⟩

/-- The code point with a number, the replacement character beyond the last one. -/
def ofNat (n : Nat) : CodePoint := if h : n < 0x110000 then ⟨n, h⟩ else ⟨0xFFFD, by decide⟩

def isHighSurrogate (c : CodePoint) : Bool := 0xD800 ≤ c.val && c.val < 0xDC00

def isLowSurrogate (c : CodePoint) : Bool := 0xDC00 ≤ c.val && c.val < 0xE000

def isSurrogate (c : CodePoint) : Bool := 0xD800 ≤ c.val && c.val < 0xE000

/-- The code point that a surrogate pair stands for. -/
def ofPair (high low : CodePoint) : CodePoint :=
  ofNat (0x10000 + (high.val % 0x400) * 0x400 + low.val % 0x400)

def isDigit (c : CodePoint) : Bool := 0x30 ≤ c.val && c.val ≤ 0x39

def isAscii (c : CodePoint) : Bool := c.val < 0x80

/-- The value of an ASCII hexadecimal digit of either case. -/
def hexValue? (c : CodePoint) : Option Nat :=
  if 0x30 ≤ c.val ∧ c.val ≤ 0x39 then some (c.val - 0x30)
  else if 0x61 ≤ c.val ∧ c.val ≤ 0x66 then some (c.val - 0x61 + 10)
  else if 0x41 ≤ c.val ∧ c.val ≤ 0x46 then some (c.val - 0x41 + 10)
  else none

/-- The lower-case digit for a value below sixteen. -/
def hexDigit (n : Nat) : CodePoint := if n < 10 then ofNat (0x30 + n) else ofNat (0x61 + n - 10)

/-- Lower case for the ASCII letters; every other code point is kept. -/
def lowerAscii (c : CodePoint) : CodePoint :=
  if 0x41 ≤ c.val ∧ c.val ≤ 0x5A then ofNat (c.val + 0x20) else c

/-- Upper case for the ASCII letters; every other code point is kept. -/
def upperAscii (c : CodePoint) : CodePoint :=
  if 0x61 ≤ c.val ∧ c.val ≤ 0x7A then ofNat (c.val - 0x20) else c

end CodePoint

namespace Text

/-- The text of a string literal. -/
def ofString (s : String) : Text := s.toList.map CodePoint.ofChar

instance : Coe String Text := ⟨ofString⟩

/-! ## Numerals -/

/-- The digits of `n` in base ten, put before `tail`; `fuel` bounds their number. -/
def decimalOnto : (fuel n : Nat) → (tail : Text) → Text
  | 0, _, tail => tail
  | fuel + 1, n, tail =>
    let tail := CodePoint.ofNat (0x30 + n % 10) :: tail
    if n < 10 then tail else decimalOnto fuel (n / 10) tail

/-- The decimal numeral of a natural number.  A number has no more decimal digits than bits. -/
def decimal (n : Nat) : Text := decimalOnto (n.log2 + 1) n []

/-- The decimal numeral of an integer. -/
def ofInt (i : Int) : Text :=
  if i < 0 then ('-' : CodePoint) :: decimal i.natAbs else decimal i.natAbs

/-- The last `width` hexadecimal digits of `n`, zeros in front. -/
def hex : (width n : Nat) → Text
  | 0, _ => []
  | width + 1, n => hex width (n / 16) ++ [CodePoint.hexDigit (n % 16)]

/-- The digits of `n` in a base up to sixteen, put before `tail`; `fuel` bounds their number. -/
def inBaseOnto (base : Nat) : (fuel n : Nat) → (tail : Text) → Text
  | 0, _, tail => tail
  | fuel + 1, n, tail =>
    let tail := CodePoint.hexDigit (n % base) :: tail
    if n < base then tail else inBaseOnto base fuel (n / base) tail

/-- The numeral of a natural number in a base from two to sixteen. -/
def inBase (base n : Nat) : Text := inBaseOnto base (n.log2 + 1) n []

/-- A numeral filled with zeros in front up to `width` digits. -/
def padded (width n : Nat) : Text :=
  let digits := decimal n
  List.replicate (width - digits.length) ('0' : CodePoint) ++ digits

/-- The number that a list of decimal digits stands for. -/
def digitsValue (digits : Text) : Nat := digits.foldl (fun n c => n * 10 + (c.val - 0x30)) 0

/-- The number of digits of the longest decimal numeral that is read. -/
def numeralLimit : Nat := 4300

/-! ## Cutting and joining -/

/-- What follows `head` in `t`, when `t` starts with it. -/
def dropPrefix? : (head t : Text) → Option Text
  | [], t => some t
  | _ :: _, [] => none
  | a :: head, b :: t => if a = b then dropPrefix? head t else none

/-- Drops every occurrence of `word`, read from the left without overlaps; the first argument counts
the code points still to be skipped. -/
def dropEveryFrom (word : Text) : Nat → Text → Text
  | _, [] => []
  | skip + 1, _ :: r => dropEveryFrom word skip r
  | 0, c :: r =>
    if word.isPrefixOf (c :: r) then dropEveryFrom word (word.length - 1) r
    else c :: dropEveryFrom word 0 r

def dropEvery (word t : Text) : Text := if word = [] then t else dropEveryFrom word 0 t

/-- Drops the code points of a class at the end. -/
def stripEnd (p : CodePoint → Bool) (t : Text) : Text := (t.reverse.dropWhile p).reverse

/-- Drops the code points of a class at the start. -/
def stripStart (p : CodePoint → Bool) (t : Text) : Text := t.dropWhile p

/-- Drops the code points of a class at both ends. -/
def strip (p : CodePoint → Bool) (t : Text) : Text := stripEnd p (stripStart p t)

/-- The part before the first `c`, and the part after it when there is one. -/
def splitAt (c : CodePoint) (t : Text) : Text × Option Text :=
  match t.span (· != c) with
  | (front, []) => (front, none)
  | (front, _ :: rest) => (front, some rest)

/-- The pieces between the occurrences of `c`. -/
def splitOn (c : CodePoint) : Text → List Text
  | [] => [[]]
  | d :: r =>
    if d = c then [] :: splitOn c r
    else
      match splitOn c r with
      | [] => [[d]]
      | piece :: pieces => (d :: piece) :: pieces

def joinWith (separator : Text) : List Text → Text
  | [] => []
  | [t] => t
  | t :: ts => t ++ separator ++ joinWith separator ts

def lowerAscii (t : Text) : Text := t.map CodePoint.lowerAscii

def upperAscii (t : Text) : Text := t.map CodePoint.upperAscii

/-- Whether every code point is a scalar value, so that the text has a strict UTF-8 form. -/
def isScalar (t : Text) : Bool := t.all fun c => !c.isSurrogate

end Text

end Entitlement
