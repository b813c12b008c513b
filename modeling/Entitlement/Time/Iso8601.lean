import Entitlement.Time.DateTime

/-!
# Reading times of ISO 8601

A time is written as a date, any code point, and a time of day; a date alone is its midnight.

* The date is a day of a month or a day of a week, both with hyphens or both without; a week alone
  is its Monday.  `Iso8601.dateLength` finds the end of the date, where the code point between the
  two parts may be a digit or a hyphen itself.
* The time of day has hours, minutes and seconds, the later ones optional, with colons or without,
  and a fraction.  After it comes `Z`, or a sign and an offset written like a time of day, or
  nothing.
-/

namespace Entitlement

namespace Iso8601

/-- The number that `n` ASCII digits at the front write after the ones of `value`, and the rest. -/
def number? : (n value : Nat) → Text → Option (Nat × Text)
  | 0, value, t => some (value, t)
  | _ + 1, _, [] => none
  | n + 1, value, c :: rest =>
    if c.isDigit then number? n (value * 10 + (c.val - 0x30)) rest else none

/-! ## Dates -/

/-- The weekday of the first of January, with `0` for Monday. -/
def firstWeekday (year : Nat) : Nat :=
  let n := year - 1
  (365 * n + n / 4 - n / 100 + n / 400) % 7

/-- The weeks of a year: 53 when it begins on a Thursday, or on a Wednesday and is a leap year. -/
def weeks (year : Nat) : Nat :=
  let weekday := firstWeekday year
  if weekday = 3 || (weekday = 2 && Calendar.isLeapYear year) then 53 else 52

/-- A day of a week, both counted from one.  The first week is the one with the first Thursday. -/
def weekDate? (year week day : Nat) : Option Date :=
  if 1 ≤ year ∧ 1 ≤ week ∧ week ≤ weeks year ∧ 1 ≤ day ∧ day ≤ 7 then
    let weekday := firstWeekday year
    let days := (week - 1) * 7 + (day - 1)
    let newYear : Date := ⟨year, 1, 1⟩
    if 3 < weekday then newYear.later? (days + 7 - weekday)
    else if weekday ≤ days then newYear.later? (days - weekday)
    else newYear.earlier? (weekday - days)
  else none

/-- What follows a hyphen, when there has to be one. -/
def hyphen? (hyphens : Bool) (t : Text) : Option Text :=
  match t with
  | c :: rest => if !hyphens then some t else if c = '-' then some rest else none
  | [] => if hyphens then none else some t

/-- Reads a date. -/
def date? (t : Text) : Option Date := do
  let (year, t) ← number? 4 0 t
  let hyphens := t.head? = some ('-' : CodePoint)
  let t ← hyphen? hyphens t
  if t.head? = some ('W' : CodePoint) then
    let (week, t) ← number? 2 0 (t.drop 1)
    if t = [] then weekDate? year week 1
    else
      let (day, t) ← number? 1 0 (← hyphen? hyphens t)
      if t = [] then weekDate? year week day else none
  else
    let (month, t) ← number? 2 0 t
    let (day, t) ← number? 2 0 (← hyphen? hyphens t)
    if t = [] then return ⟨year, month, day⟩ else none

/-- How long the date is at the front of a text.  After a week with hyphens, another hyphen belongs
to the date unless two digits follow it.  After a week without, a digit belongs to it if it stands
alone or begins an even number of them, as times have digits in pairs. -/
def dateLength (t : Text) : Nat :=
  if t.length = 7 then 7
  else if t[4]? = some ('-' : CodePoint) then
    if t[5]? ≠ some ('W' : CodePoint) then 10
    else if t[8]? = some ('-' : CodePoint) && !t[10]?.any CodePoint.isDigit then 10
    else 8
  else if t[4]? = some ('W' : CodePoint) then
    let digits := ((t.drop 7).takeWhile CodePoint.isDigit).length
    if digits < 2 then 7 + digits else if digits % 2 = 0 then 8 else 7
  else 8

/-! ## Times of day -/

/-- A time of day as far as it was read. -/
structure Clock where
  /-- Hours, minutes and seconds, as many as there are. -/
  fields : List Nat
  microsecond : Nat
  /-- Whether nothing was left over. -/
  complete : Bool

namespace Clock

/-- A fraction; beyond the six digits that count, other digits are passed over. -/
def fraction? (t : Text) : Option Clock :=
  let counted := t.take 6
  if counted.all CodePoint.isDigit then
    some ⟨[], Text.digitsValue counted * Nat.pow 10 (6 - counted.length),
      (t.drop 6).dropWhile CodePoint.isDigit = []⟩
  else none

/-- At most `left` fields and a fraction.  What follows the first field says whether there are
colons; a single code point after a field is left over. -/
def fields? : (left : Nat) → (colons : Option Bool) → Text → Option Clock
  | 0, _, t => fraction? t
  | left + 1, colons, t => do
    let (n, t) ← number? 2 0 t
    match t with
    | [] => return ⟨[n], 0, true⟩
    | c :: rest =>
      let colons := colons.getD (c = ':')
      let more ←
        if rest = [] then some ⟨[], 0, false⟩
        else if colons ∧ c = ':' then fields? left (some colons) rest
        else if c = '.' ∨ c = ',' then fraction? rest
        else if colons then none
        else fields? left (some colons) t
      return { more with fields := n :: more.fields }

def read? (t : Text) : Option Clock := fields? 3 none t

def hour (clock : Clock) : Nat := clock.fields.getD 0 0

def minute (clock : Clock) : Nat := clock.fields.getD 1 0

def second (clock : Clock) : Nat := clock.fields.getD 2 0

/-- The whole seconds. -/
def seconds (clock : Clock) : Nat := clock.hour * 3600 + clock.minute * 60 + clock.second

end Clock

/-- Whether an offset may begin here. -/
def startsZone (c : CodePoint) : Bool := c = '+' || c = '-' || c = 'Z'

/-- The offset in microseconds.  One of less than a second is none. -/
def zone? : Text → Option (Option Int)
  | [] => some none
  | c :: rest =>
    if c = 'Z' then if rest = [] then some (some 0) else none
    else
      match Clock.read? rest with
      | some clock =>
        if !clock.complete then none
        else if clock.seconds = 0 then some (some 0)
        else
          let n : Int := (clock.seconds * DateTime.secondLength + clock.microsecond : Nat)
          some (some (if c = '-' then -n else n))
      | none => none

/-- A date at a time of day.  What was left over is passed over before an offset. -/
def at? (date : Date) (t : Text) : Option DateTime := do
  let (front, rest) := t.span fun c => !startsZone c
  let clock ← Clock.read? front
  let offset ← zone? rest
  if offset = none ∧ !clock.complete then none
  else return ⟨date, clock.hour, clock.minute, clock.second, clock.microsecond, offset⟩

/-! ## Both -/

/-- Reads a time. -/
def read? (t : Text) : Option DateTime := do
  if t.length < 7 then none
  let length := dateLength t
  let date ← date? (t.take length)
  let time ←
    match t.drop length with
    | [] => some ⟨date, 0, 0, 0, 0, none⟩
    | _ :: rest => at? date rest
  if time.Valid then some time else none

end Iso8601

end Entitlement
