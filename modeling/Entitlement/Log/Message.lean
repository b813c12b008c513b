import Entitlement.Fault.Basic
import Entitlement.Numeric.Rounded

/-!
# Messages with places for arguments

A message may hold places, each a percent sign with directives and a letter for the kind of text
that goes there.  `Message.fill` puts the values of a `Supply` into the places: one after another,
or by their names.  Too few values, too many of them and unfit ones are faults.

A place is read from the left, and a width or a precision that a star leaves open is taken from the
supply as soon as its star is met; so of two faults the one further to the left is told.
-/

namespace Entitlement

namespace Log

/-! ## Values as numbers -/

/-- The fault of an argument that a place cannot show. -/
def unfitArgument : Fault := .silent Kind.typeError

/-- An integer or a truth value. -/
def integerOf : Json → Except Fault Int
  | .int i => .ok i
  | .bool b => .ok (if b then 1 else 0)
  | _ => .error unfitArgument

/-- A number cut to an integer. -/
def wholeOf : Json → Except Fault Int
  | .float .nan => .error (.failure Kind.valueError "cannot convert float NaN to integer")
  | .float x => x.truncate?.elim (.error (.silent Kind.overflow)) .ok
  | json => integerOf json

/-- A number; an integer has to be within the range of the floating point numbers. -/
def numberOf : Json → Except Fault Binary64
  | .float x => .ok x
  | json => do
    let x := Binary64.ofInt (← integerOf json)
    if x.isFinite then return x else throw (.silent Kind.overflow)

/-- A single code point, as a text or by its number. -/
def pointOf : Json → Except Fault CodePoint
  | .string [c] => .ok c
  | json => do
    let i ← integerOf json
    if h : 0 ≤ i ∧ i.toNat < 0x110000 then return ⟨i.toNat, h.2⟩ else throw (.silent Kind.overflow)

/-! ## Places -/

/-- What a place shows of its argument. -/
inductive Conversion where
  | plain
  | shown
  | ascii
  | point
  | decimal
  | octal
  | hexadecimal
  | fixed
  | scientific
  | general
  deriving DecidableEq

/-- The conversions by their letters.  The capital of a letter asks for capitals in the text. -/
def Conversion.letters : List (CodePoint × Conversion) :=
  [('s', plain), ('r', shown), ('a', ascii), ('c', point), ('d', decimal), ('i', decimal),
    ('u', decimal), ('o', octal), ('x', hexadecimal), ('X', hexadecimal), ('f', fixed),
    ('F', fixed), ('e', scientific), ('E', scientific), ('g', general), ('G', general)]

/-- A place of a message. -/
structure Place where
  flags : Text
  width : Nat
  precision : Option Nat
  letter : CodePoint

namespace Place

def has (p : Place) (flag : CodePoint) : Bool := p.flags.contains flag

/-- No text is made longer than this on the word of a place. -/
def lengthBound : Nat := Nat.pow 2 30

/-- The fault of a place that asks for a longer text. -/
def tooLong : Fault := .failure Kind.outOfMemory []

/-- Fills up to the width: at the end when asked for, with zeros between the sign and the digits of
a number when asked for, and else in front. -/
def pad (p : Place) (numeric : Bool) (sign body : Text) : Except Fault Text :=
  let gap := p.width - (sign.length + body.length)
  let fill (c : CodePoint) : Text := List.replicate gap c
  if lengthBound < p.width then .error tooLong
  else if p.has '-' then .ok (sign ++ body ++ fill ' ')
  else if numeric && p.has '0' then .ok (sign ++ fill '0' ++ body)
  else .ok (fill ' ' ++ sign ++ body)

def sign (p : Place) (negative : Bool) : Text :=
  if negative then "-" else if p.has '+' then "+" else if p.has ' ' then " " else ""

/-- Capitals for the letter that asks for them. -/
def cased (p : Place) (t : Text) : Text :=
  if p.letter.lowerAscii = p.letter then t else t.upperAscii

/-- A text, cut to the precision. -/
def writeText (p : Place) (t : Text) : Except Fault Text :=
  p.pad false [] (p.precision.elim t t.take)

/-- The greatest number of digits that an integer can be asked for. -/
def digitBound : Nat := Nat.pow 2 31 - 4

/-- An integer in a base, with at least as many digits as the precision.  The mark of the base
stands before the digits when asked for. -/
def writeInteger (p : Place) (base : Nat) (mark : Text) (i : Int) : Except Fault Text :=
  let count := p.precision.getD 1
  if digitBound < count then .error (.silent Kind.overflow)
  else if lengthBound < count then .error tooLong
  else
    let digits := Text.inBase base i.natAbs
    let zeros : Text := List.replicate (count - digits.length) '0'
    let mark : Text := if p.has '#' then mark else ""
    p.pad true (p.sign (i < 0) ++ p.cased mark) (zeros ++ p.cased digits)

/-- A number in a form that takes a precision, six unless given. -/
def writeNumber (p : Place) (form : (keepPoint : Bool) → (precision num den : Nat) → Text)
    (x : Binary64) : Except Fault Text :=
  let precision := p.precision.getD 6
  if lengthBound < precision then .error tooLong
  else
    match x with
    | .nan => p.pad true (p.sign false) (p.cased "nan")
    | .infinite negative => p.pad true (p.sign negative) (p.cased "inf")
    | .finite negative exponent fraction =>
      let (num, den) := Binary64.ratio exponent fraction
      p.pad true (p.sign negative) (p.cased (form (p.has '#') precision num den))

/-- The fault of a letter that names no conversion; `position` is its place in the message. -/
def unknown (p : Place) (position : Nat) : Fault :=
  let c := p.letter
  .failure Kind.valueError
    ("unsupported format character '" ++ (if 0x1F ≤ c.val ∧ c.val ≤ 0x7E then [c] else "?")
      ++ "' (0x" ++ Text.inBase 16 c.val ++ ") at index " ++ Text.decimal position)

/-- The text of an argument in a place. -/
def write (p : Place) (position : Nat) (argument : Json) : Except Fault Text := do
  match Conversion.letters.lookup p.letter with
  | none => throw (p.unknown position)
  | some .plain => p.writeText argument.told
  | some .shown => p.writeText argument.shown
  | some .ascii => p.writeText argument.shownInAscii
  | some .point => p.pad false [] [← pointOf argument]
  | some .decimal => p.writeInteger 10 "" (← wholeOf argument)
  | some .octal => p.writeInteger 8 "0o" (← integerOf argument)
  | some .hexadecimal => p.writeInteger 16 "0x" (← integerOf argument)
  | some .fixed => p.writeNumber Rounded.fixed (← numberOf argument)
  | some .scientific => p.writeNumber Rounded.scientific (← numberOf argument)
  | some .general => p.writeNumber Rounded.general (← numberOf argument)

end Place

/-! ## Supplies -/

/-- The values that a message is filled with. -/
structure Supply where
  /-- The value whose members have names for places; a list stands here too, but names none. -/
  names : Option Json
  /-- What the next places take. -/
  left : List Json

namespace Supply

/-- Values in a row, which have to be used up; a single object with members names these. -/
def ofRow : List Json → Supply
  | [.object (m :: members)] => ⟨some (.object (m :: members)), [.object (m :: members)]⟩
  | row => ⟨none, row⟩

/-- A single value: a text has to be used, a list and an object of several members need not be.  An
object of one member is looked into for the member zero. -/
def ofValue : Json → Except Fault Supply
  | .array [.object (m :: members)] => .ok (ofRow [.object (m :: members)])
  | .array items => .ok ⟨some (.array items), [.array items]⟩
  | .object [_] => .error (.failure Kind.keyError "0")
  | .object members => .ok ⟨some (.object members), [.object members]⟩
  | .string s => .ok ⟨none, [.string s]⟩
  | _ => .error unfitArgument

/-- The next value. -/
def next (supply : Supply) : Except Fault (Json × Supply) :=
  match supply.left with
  | json :: left => .ok (json, { supply with left })
  | [] => .error unfitArgument

/-- The supply of a place with a name is the one member of that name. -/
def named (supply : Supply) (name : Text) : Except Fault Supply :=
  match supply.names with
  | some (.object members) =>
    match Members.get? members name with
    | some json => .ok { supply with left := [json] }
    | none => .error (.missingKey name)
  | _ => .error unfitArgument

/-- Values without names have to be used up. -/
def finish (supply : Supply) : Except Fault Unit :=
  if supply.names.isNone && !supply.left.isEmpty then .error unfitArgument else .ok ()

end Supply

/-! ## Filling -/

/-- A message that is being filled: what is left of it and of the supply. -/
structure Filling where
  text : Text
  supply : Supply

/-- A step of filling. -/
abbrev Fill := StateT Filling (Except Fault)

namespace Fill

/-- Takes the code points of a class at the front. -/
def takeWhile (p : CodePoint → Bool) : Fill Text :=
  modifyGet fun f => ((f.text.span p).1, { f with text := (f.text.span p).2 })

/-- Takes a code point if it stands at the front. -/
def take? (c : CodePoint) : Fill Bool :=
  modifyGet fun f =>
    match f.text with
    | d :: rest => if d = c then (true, { f with text := rest }) else (false, f)
    | [] => (false, f)

/-- Takes the next value. -/
def argument : Fill Json := do
  let f ← get
  let (json, supply) ← f.supply.next
  set { f with supply }
  return json

/-- A name and the parenthesis that closes it, where `open` parentheses have been opened. -/
def closing : (depth : Nat) → Text → Option (Text × Text)
  | _, [] => none
  | depth, c :: rest =>
    if c = ')' then
      match depth with
      | 0 => some ([], rest)
      | depth + 1 => (closing depth rest).map fun (name, rest) => (c :: name, rest)
    else
      (closing (if c = '(' then depth + 1 else depth) rest).map
        fun (name, rest) => (c :: name, rest)

/-- A name between parentheses, which may hold parentheses in pairs. -/
def name : Fill Unit := do
  if ← take? '(' then
    let f ← get
    if f.supply.names.isNone then throw unfitArgument
    match closing 0 f.text with
    | some (name, text) => set (Filling.mk text (← f.supply.named name))
    | none => throw (.failure Kind.valueError "incomplete format key")

/-- A number: in digits, below a bound, or left to the supply by a star. -/
def measure (bound : Nat) (excess : Text) : Fill Int := do
  if ← take? '*' then
    let i ← integerOf (← argument)
    if -(bound : Int) ≤ i ∧ i < bound then return i else throw (.silent Kind.overflow)
  else
    let n := Text.digitsValue (← takeWhile CodePoint.isDigit)
    if n < bound then return n else throw (.failure Kind.valueError excess)

/-- A point and a precision; a negative one counts as zero. -/
def precision : Fill (Option Nat) := do
  if ← take? '.' then return some (← measure (Nat.pow 2 31) "precision too big").toNat
  else return none

/-- A mark of size, which says nothing. -/
def sizeMark : Fill Unit :=
  modify fun f =>
    match f.text with
    | c :: rest => if c = 'h' ∨ c = 'l' ∨ c = 'L' then { f with text := rest } else f
    | [] => f

/-- The letter of a place. -/
def letter : Fill CodePoint := do
  match (← get).text with
  | c :: rest =>
    modify fun f => { f with text := rest }
    return c
  | [] => throw (.failure Kind.valueError "incomplete format")

/-- Reads a place, of a message of `total` code points, after its percent sign, and writes it. -/
def place (total : Nat) : Fill Text := do
  name
  let flags ← takeWhile (Text.ofString "-+ #0").contains
  let width ← measure (Nat.pow 2 63) "width too big"
  let flags := if width < 0 then ('-' : CodePoint) :: flags else flags
  let precision ← precision
  sizeMark
  let letter ← letter
  let argument ← argument
  let position := total - (← get).text.length - 1
  (Place.mk flags width.natAbs precision letter).write position argument

end Fill

namespace Message

/-- Fills the places of a message of `total` code points.  A percent sign written twice stands for
itself. -/
def fillFrom (total : Nat) : (fuel : Nat) → Filling → Except Fault Text
  | 0, f | _, f@⟨[], _⟩ => f.supply.finish.map fun _ => []
  | fuel + 1, ⟨c :: rest, supply⟩ => do
    if c ≠ '%' then return c :: (← fillFrom total fuel ⟨rest, supply⟩)
    match Text.dropPrefix? "%" rest with
    | some rest => return c :: (← fillFrom total fuel ⟨rest, supply⟩)
    | none =>
      let (text, f) ← (Fill.place total).run ⟨rest, supply⟩
      return text ++ (← fillFrom total fuel f)

/-- A message with its places filled. -/
def fill (message : Text) (supply : Supply) : Except Fault Text :=
  fillFrom message.length message.length ⟨message, supply⟩

end Message

end Log

end Entitlement
