import Entitlement.Text.Basic

/-!
# Dates and times

A `DateTime` is a local date and time of the Gregorian calendar together with its offset from UTC,
if that is known.  `DateTime.Valid` says that its fields name a real moment.  `DateTime.text` writes
it with its own offset, and `DateTime.toUtc?` moves it to offset zero, which fails only where the
years end.
-/

namespace Entitlement

namespace Calendar

def isLeapYear (year : Nat) : Bool :=
  year % 4 = 0 && (year % 100 ≠ 0 || year % 400 = 0)

def daysInMonth (year month : Nat) : Nat :=
  if month = 2 then if isLeapYear year then 29 else 28
  else if month = 4 ∨ month = 6 ∨ month = 9 ∨ month = 11 then 30
  else 31

/-- The last year. -/
def lastYear : Nat := 9999

end Calendar

/-- A day of the calendar. -/
structure Date where
  year : Nat
  month : Nat
  day : Nat
  deriving DecidableEq

namespace Date

/-- The date is one of the calendar, in the years from `1` to `9999`. -/
def Valid (d : Date) : Prop :=
  1 ≤ d.year ∧ d.year ≤ Calendar.lastYear ∧ 1 ≤ d.month ∧ d.month ≤ 12 ∧ 1 ≤ d.day ∧
    d.day ≤ Calendar.daysInMonth d.year d.month

instance (d : Date) : Decidable d.Valid := inferInstanceAs (Decidable (_ ∧ _))

/-- The day after, if the years go on. -/
def next? (d : Date) : Option Date :=
  if d.day < Calendar.daysInMonth d.year d.month then some { d with day := d.day + 1 }
  else if d.month < 12 then some ⟨d.year, d.month + 1, 1⟩
  else if d.year < Calendar.lastYear then some ⟨d.year + 1, 1, 1⟩
  else none

/-- The day before, if there is one. -/
def previous? (d : Date) : Option Date :=
  if 1 < d.day then some { d with day := d.day - 1 }
  else if 1 < d.month then
    some ⟨d.year, d.month - 1, Calendar.daysInMonth d.year (d.month - 1)⟩
  else if 1 < d.year then some ⟨d.year - 1, 12, 31⟩
  else none

/-- The day a number of days later. -/
def later? (d : Date) : Nat → Option Date
  | 0 => some d
  | n + 1 => (later? d n).bind next?

/-- The day a number of days earlier. -/
def earlier? (d : Date) : Nat → Option Date
  | 0 => some d
  | n + 1 => (earlier? d n).bind previous?

end Date

/-- A local date and time: the fields on the clock and at most a fixed offset, no time zone and
nothing to tell the two runs of a repeated hour apart. Equality is that of the fields and the
offset. -/
structure DateTime where
  date : Date
  hour : Nat
  minute : Nat
  second : Nat
  microsecond : Nat
  /-- The microseconds that local time is ahead of UTC. -/
  offset : Option Int
  deriving DecidableEq

namespace DateTime

/-- The microseconds of a second. -/
def secondLength : Nat := 1000000

/-- The microseconds of a day. -/
def dayLength : Nat := 86400 * secondLength

/-- The fields name a real moment, less than a day away from UTC. -/
def Valid (t : DateTime) : Prop :=
  t.date.Valid ∧ t.hour < 24 ∧ t.minute < 60 ∧ t.second < 60 ∧ t.microsecond < secondLength ∧
    ∀ offset ∈ t.offset, -(dayLength : Int) < offset ∧ offset < dayLength

instance (t : DateTime) : Decidable t.Valid := inferInstanceAs (Decidable (_ ∧ _))

/-- The beginning of the first day, in UTC. -/
def first : DateTime := ⟨⟨1, 1, 1⟩, 0, 0, 0, 0, some 0⟩

/-- The microseconds from the beginning of the day. -/
def dayTime (t : DateTime) : Nat :=
  (t.hour * 3600 + t.minute * 60 + t.second) * secondLength + t.microsecond

/-- The moment with offset zero; there is none beyond the first and the last year.  A time without
an offset counts as one of UTC. -/
def toUtc? (t : DateTime) : Option DateTime :=
  let time : Int := t.dayTime - t.offset.getD 0
  let date? :=
    if time < 0 then t.date.previous?
    else if time < dayLength then some t.date
    else t.date.next?
  date?.map fun date =>
    let n := (time % dayLength).toNat
    let s := n / secondLength
    ⟨date, s / 3600, s / 60 % 60, s % 60, n % secondLength, some 0⟩

/-- A field of two digits. -/
def two (n : Nat) : Text := Text.padded 2 n

/-- A fraction of six digits, unless it is zero. -/
def fractionText (microsecond : Nat) : Text :=
  if microsecond = 0 then "" else "." ++ Text.padded 6 microsecond

/-- The sign, hours and minutes of an offset, and its seconds unless they are zero. -/
def offsetText (offset : Int) : Text :=
  let n := offset.natAbs
  let s := n / secondLength
  let sign : Text := if offset < 0 then "-" else "+"
  let seconds : Text :=
    if n % (60 * secondLength) = 0 then ""
    else ":" ++ two (s % 60) ++ fractionText (n % secondLength)
  sign ++ two (s / 3600) ++ (":" : Text) ++ two (s / 60 % 60) ++ seconds

/-- Date, `T`, time and offset, with six digits of fraction unless it is zero. -/
def text (t : DateTime) : Text :=
  let zone : Text := t.offset.elim "" offsetText
  Text.padded 4 t.date.year ++ (("-" : Text) ++ (two t.date.month ++ (("-" : Text)
    ++ (two t.date.day ++ (("T" : Text) ++ (two t.hour ++ ((":" : Text) ++ (two t.minute
    ++ ((":" : Text) ++ (two t.second ++ (fractionText t.microsecond ++ zone)))))))))))

end DateTime

end Entitlement
