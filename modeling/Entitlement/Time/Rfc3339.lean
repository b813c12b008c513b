import Entitlement.Time.DateTime
import Entitlement.Text.Digit
import Entitlement.Text.Quoted

/-!
# Reading date-times of RFC 3339

Reading has two steps.  `Form.read?` takes the text apart: `YYYY-MM-DDTHH:MM:SS`, a fraction that
may be left out, and `Z` or a signed `HH:MM`.  It takes decimal digits of any script, and lets one
line feed stand at the end.  `Form.value?` then asks for a real moment written in ASCII digits
without the line feed; beyond the six digits of a fraction that count, any digit passes.

`Rfc3339.read` keeps the two failures apart: only a text of the wrong form is quoted.
-/

namespace Entitlement

namespace Rfc3339

/-- The offset as written. -/
inductive Zone where
  | utc
  | offset (negative : Bool) (hours minutes : Text)
  deriving DecidableEq

/-- A text taken apart. -/
structure Form where
  year : Text
  month : Text
  day : Text
  hour : Text
  minute : Text
  second : Text
  fraction : Text
  zone : Zone
  lineFeed : Bool
  deriving DecidableEq

/-- The `n` decimal digits at the front. -/
def digits? : (n : Nat) → Text → Option (Text × Text)
  | 0, text => some ([], text)
  | _ + 1, [] => none
  | n + 1, c :: rest =>
    if c.isDecimal then (digits? n rest).map fun (digits, rest) => (c :: digits, rest) else none

/-- What follows `mark` at the front. -/
def after? (mark : CodePoint) : Text → Option Text
  | c :: rest => if c = mark then some rest else none
  | [] => none

/-- A point with decimal digits after it, or nothing. -/
def fraction? (text : Text) : Option (Text × Text) :=
  match after? '.' text with
  | none => some ([], text)
  | some rest =>
    match rest.span CodePoint.isDecimal with
    | ([], _) => none
    | (digits, rest) => some (digits, rest)

def zone? (text : Text) : Option (Zone × Text) :=
  match text with
  | [] => none
  | c :: rest =>
    if c = 'Z' then some (.utc, rest)
    else if c = '+' ∨ c = '-' then do
      let (hours, rest) ← digits? 2 rest
      let rest ← after? ':' rest
      let (minutes, rest) ← digits? 2 rest
      return (.offset (c = '-') hours minutes, rest)
    else none

namespace Form

def read? (text : Text) : Option Form := do
  let (year, text) ← digits? 4 text
  let text ← after? '-' text
  let (month, text) ← digits? 2 text
  let text ← after? '-' text
  let (day, text) ← digits? 2 text
  let text ← after? 'T' text
  let (hour, text) ← digits? 2 text
  let text ← after? ':' text
  let (minute, text) ← digits? 2 text
  let text ← after? ':' text
  let (second, text) ← digits? 2 text
  let (fraction, text) ← fraction? text
  let (zone, text) ← zone? text
  match text with
  | [] => return ⟨year, month, day, hour, minute, second, fraction, zone, false⟩
  | [c] =>
    if c = '\n' then return ⟨year, month, day, hour, minute, second, fraction, zone, true⟩ else none
  | _ => none

/-- The number written in ASCII digits. -/
def number? (digits : Text) : Option Nat :=
  if digits.all CodePoint.isDigit then some (Text.digitsValue digits) else none

/-- The microseconds of a fraction: its first six digits, filled up with zeros. -/
def microseconds? (fraction : Text) : Option Nat :=
  let counted := fraction.take 6
  (number? counted).map (· * Nat.pow 10 (6 - counted.length))

/-- The offset in microseconds.  The minutes may be more than an hour's. -/
def offset? : Zone → Option Int
  | .utc => some 0
  | .offset negative hours minutes => do
    let hours ← number? hours
    let minutes ← number? minutes
    let n : Int := ((hours * 3600 + minutes * 60) * DateTime.secondLength : Nat)
    return if negative then -n else n

/-- The moment that the form names. -/
def value? (f : Form) : Option DateTime := do
  if f.lineFeed then none
  let year ← number? f.year
  let month ← number? f.month
  let day ← number? f.day
  let hour ← number? f.hour
  let minute ← number? f.minute
  let second ← number? f.second
  let microsecond ← microseconds? f.fraction
  let offset ← offset? f.zone
  let t : DateTime := ⟨⟨year, month, day⟩, hour, minute, second, microsecond, some offset⟩
  if t.Valid then some t else none

end Form

/-- Why a text is not read: its form is another one, or it names no real moment. -/
inductive Fault where
  | form (text : Text)
  | moment
  deriving DecidableEq

namespace Fault

/-- The message for a text of another form. -/
def message? : Fault → Option Text
  | .form text => some ("not an RFC3339 date-time: " ++ text.quoted)
  | .moment => none

end Fault

def read (text : Text) : Except Fault DateTime :=
  match Form.read? text with
  | none => .error (.form text)
  | some form =>
    match form.value? with
    | some t => .ok t
    | none => .error .moment

def read? (text : Text) : Option DateTime := (Form.read? text).bind Form.value?

end Rfc3339

end Entitlement
