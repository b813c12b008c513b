import Entitlement.Shape.Issue
import Entitlement.Json.Reader
import Entitlement.Text.Blank
import Entitlement.Text.Unencodable

/-!
# Reading values into shapes

A shape turns a JSON value into a value of some type, or says every place where it does not fit:
`Checked` collects the issues of all fields, in the order of the fields.  Scalars are read with some
leniency: an integer may come as a text, a truth value as a word.
-/

namespace Entitlement

/-- A value of the shape asked for, or the issues. -/
inductive Checked (α : Type) where
  | pass (a : α)
  | fail (issues : List Issue)

namespace Checked

def map {α β : Type} (f : α → β) : Checked α → Checked β
  | .pass a => .pass (f a)
  | .fail issues => .fail issues

/-- The issues of both sides, the left ones first. -/
def seq {α β : Type} : Checked (α → β) → Checked α → Checked β
  | .pass f, .pass a => .pass (f a)
  | .pass _, .fail issues => .fail issues
  | .fail issues, .pass _ => .fail issues
  | .fail issues, .fail more => .fail (issues ++ more)

instance : Applicative Checked where
  pure := .pass
  map := map
  seq f a := seq f (a ())

/-- The same issues one step further out. -/
def under {α : Type} (step : PlaceStep) : Checked α → Checked α
  | .pass a => .pass a
  | .fail issues => .fail (issues.map (·.under step))

/-- A single issue at the place itself. -/
def reject {α : Type} (kind message : Text) (input : Json) : Checked α :=
  .fail [⟨kind, [], message, input, none⟩]

end Checked

/-- A reading of values as an `α`. -/
abbrev Shape (α : Type) := Json → Checked α

namespace Shape

/-! ## Scalars -/

def text : Shape Text
  | .string s => .pass s
  | json => .reject "string_type" "Input should be a valid string" json

/-- A scalar that is written as a text, which has to be strict UTF-8. -/
def written {α : Type} (read : Text → Checked α) (t : Text) : Checked α :=
  if t.isScalar then read t
  else
    .reject "string_unicode"
      "Input should be a valid string, unable to parse raw data as a unicode string" (.string t)

/-- The words for a truth value. -/
def truthWords : List (Text × Bool) := [
  ("0", false), ("off", false), ("f", false), ("false", false), ("n", false), ("no", false),
  ("1", true), ("on", true), ("t", true), ("true", true), ("y", true), ("yes", true)]

/-- The integers of 64 bits end before this one. -/
def wordBound : Int := .ofNat (Nat.pow 2 63)

/-- The integer that a floating point number stands for. -/
def wordInteger? (x : Binary64) : Option Int :=
  x.toInt?.filter fun i => -wordBound < i ∧ i < wordBound

/-- A truth value, zero or one, or a word for it in either case.  Numbers are of 64 bits. -/
def truth : Shape Bool := fun json =>
  let unclear : Checked Bool :=
    .reject "bool_parsing" "Input should be a valid boolean, unable to interpret input" json
  let ofInt (i : Int) : Checked Bool :=
    if i = 0 then .pass false else if i = 1 then .pass true else unclear
  let wrong : Checked Bool := .reject "bool_type" "Input should be a valid boolean" json
  match json with
  | .bool b => .pass b
  | .int i => if -wordBound ≤ i ∧ i < wordBound then ofInt i else wrong
  | .float x => (wordInteger? x).elim wrong ofInt
  | .string s => written (fun s => ((truthWords.lookup s.lowerAscii).map .pass).getD unclear) s
  | _ => wrong

/-! ## Integers in texts

A text that writes an integer may have blanks around it, a sign, zeros in front, single underscores
between digits and zeros after a point. -/

/-- The blanks that may stand around a numeral. -/
def isNumeralBlank (c : CodePoint) : Bool :=
  c.isAsciiBlank || (c.isBlank && 0x80 ≤ c.val)

/-- Drops single underscores between other characters. -/
def dropUnderscores? (t : Text) : Option Text :=
  let isUnderscore (c : CodePoint) : Bool := c = '_'
  let pieces := Text.splitOn '_' t
  if t.any isUnderscore && pieces.any List.isEmpty then none
  else some (t.filter (!isUnderscore ·))

/-- What is left of a text after zeros and underscores in front, of which `last` was the last one.
It starts with another digit or a sign, or with `last` and a point; where nothing is left, `last`
is. -/
def afterZeros? : (last : CodePoint) → Text → Option Text
  | last, [] => some [last]
  | last, c :: rest =>
    if c = '0' ∨ c = '_' then afterZeros? c rest
    else if c.isDigit ∨ c = '-' then some (c :: rest)
    else if c = '.' then some (last :: c :: rest)
    else none

/-- A numeral without zeros in front, but for a single one. -/
def dropLeadingZeros? : Text → Option Text
  | [] => none
  | c :: rest =>
    if c = '0' then afterZeros? c rest
    else if c.isDigit ∨ c = '-' then some (c :: rest)
    else none

/-- A numeral without blanks around it, a plus sign and zeros in front. -/
def bareNumeral? (t : Text) : Option Text :=
  let t := Text.strip isNumeralBlank t
  match t with
  | [] => none
  | sign :: rest =>
    if sign = '+' then if rest.head? = some ('-' : CodePoint) then none else dropLeadingZeros? rest
    else if sign = '-' then (dropLeadingZeros? rest).map (sign :: ·)
    else dropLeadingZeros? t

/-- Drops a point with zeros after it. -/
def dropDecimalZeros (t : Text) : Text :=
  match Text.splitAt '.' t with
  | (whole, some (c :: zeros)) => if (c :: zeros).all (· = '0') then whole else t
  | _ => t

/-- A minus sign, if there is one, and the rest. -/
def splitSign (t : Text) : Bool × Text :=
  match Text.dropPrefix? "-" t with
  | some rest => (true, rest)
  | none => (false, t)

/-- Whether a text starts with more digits than a numeral may have, its sign counted. -/
def isOverlong (t : Text) : Bool :=
  let (negative, digits) := splitSign t
  let count := (digits.takeWhile CodePoint.isDigit).length + (if negative then 1 else 0)
  digits.head? ≠ some ('0' : CodePoint) && Text.numeralLimit < count

/-- An integer in plain digits, with no zero in front. -/
def plainInteger? (t : Text) : Option Int :=
  let (negative, digits) := splitSign t
  let plain :=
    match digits with
    | [] => false
    | [c] => c.isDigit
    | c :: rest => c.isDigit && c ≠ '0' && rest.all CodePoint.isDigit
  if plain && t.length ≤ Text.numeralLimit then
    let n : Int := Text.digitsValue digits
    some (if negative then -n else n)
  else none

/-- The integer that a text writes. -/
def integerText? (t : Text) : Option Int := do
  plainInteger? (← dropUnderscores? (dropDecimalZeros (← bareNumeral? t)))

/-- An integer, a truth value, a number without a fraction, or a text that writes an integer. -/
def integer : Shape Int := fun json =>
  let tooLarge : Checked Int :=
    .reject "int_parsing_size"
      "Unable to parse input string as an integer, exceeded maximum size" json
  let unclear : Checked Int :=
    .reject "int_parsing"
      "Input should be a valid integer, unable to parse string as an integer" json
  match json with
  | .int i => .pass i
  | .bool b => .pass (if b then 1 else 0)
  | .float x =>
    if !x.isFinite then .reject "finite_number" "Input should be a finite number" json
    else
      match x.toInt? with
      | some _ => (wordInteger? x).elim tooLarge .pass
      | none =>
        .reject "int_from_float"
          "Input should be a valid integer, got a number with a fractional part" json
  | .string s =>
    written (fun s => if isOverlong s then tooLarge else (integerText? s).elim unclear .pass) s
  | _ => .reject "int_type" "Input should be a valid integer" json

/-! ## Numbers in texts -/

/-- The words for the numbers beyond the finite ones. -/
def extremeWords : List (Text × Binary64) :=
  [("inf", .infinite false), ("infinity", .infinite false), ("nan", .nan)]

/-- A decimal numeral with digits on at least one side of the point, or a word for an extreme. -/
def unsignedNumber? (negative : Bool) (t : Text) : Option Binary64 :=
  match extremeWords.lookup t.lowerAscii with
  | some x => some (if negative then -x else x)
  | none =>
    let (whole, rest) := t.span CodePoint.isDigit
    let (fraction, rest) :=
      match Text.dropPrefix? "." rest with
      | some rest => rest.span CodePoint.isDigit
      | none => ([], rest)
    if whole = [] ∧ fraction = [] then none
    else
      let (exponent, rest) := Json.Reader.Numeral.readExponent rest
      if rest = [] then
        some (.ofDecimal negative (Text.digitsValue (whole ++ fraction))
          (exponent.getD 0 - fraction.length))
      else none

def plainNumber? (t : Text) : Option Binary64 :=
  match t with
  | [] => none
  | c :: rest =>
    if c = '-' then unsignedNumber? true rest
    else if c = '+' then unsignedNumber? false rest
    else unsignedNumber? false t

/-- The number that a text writes, with blanks around it or with single underscores in it. -/
def numberText? (t : Text) : Option Binary64 :=
  match plainNumber? (Text.strip isNumeralBlank t) with
  | some x => some x
  | none => (dropUnderscores? t).bind plainNumber?

/-- A number, a truth value, or a text that writes a number. -/
def number : Shape Binary64 := fun json =>
  let wrong : Checked Binary64 := .reject "float_type" "Input should be a valid number" json
  match json with
  | .float x => .pass x
  | .int i =>
    let x := Binary64.ofInt i
    if x.isFinite then .pass x else wrong
  | .bool b => .pass (.ofInt (if b then 1 else 0))
  | .string s =>
    let unclear : Checked Binary64 :=
      .reject "float_parsing"
        "Input should be a valid number, unable to parse string as a number" json
    written (fun s => (numberText? s).elim unclear .pass) s
  | _ => wrong

/-! ## Maps and records -/

/-- The entries of a map, each value of the same shape.  A place is told in strict UTF-8. -/
def entries {α : Type} (shape : Shape α) : Members → Checked (List (Text × α))
  | [] => .pass []
  | (name, json) :: rest =>
    (fun a entries => (name, a) :: entries) <$> (shape json).under (.member name.patched)
      <*> entries shape rest

/-- An object of any members. -/
def members : Shape Members
  | .object members => .pass members
  | json => .reject "dict_type" "Input should be a valid dictionary" json

/-- A map with values of one shape. -/
def mapOf {α : Type} (shape : Shape α) : Shape (List (Text × α)) := fun json =>
  match members json with
  | .pass members => entries shape members
  | .fail issues => .fail issues

/-- A field that must be there. -/
def required {α : Type} (members : Members) (name : Text) (shape : Shape α) : Checked α :=
  match Members.get? members name with
  | some json => (shape json).under (.member name)
  | none => .fail [⟨"missing", [.member name], "Field required", .object members, none⟩]

/-- A field with a default. -/
def optional {α : Type} (members : Members) (name : Text) (shape : Shape α) (default : α) :
    Checked α :=
  match Members.get? members name with
  | some json => (shape json).under (.member name)
  | none => .pass default

/-- A record of a name. -/
def record {α : Type} (name : Text) (fields : Members → Checked α) : Shape α
  | .object members => fields members
  | json =>
    .reject "model_type" ("Input should be a valid dictionary or instance of " ++ name) json

end Shape

end Entitlement
