import Entitlement.Fault.Basic
import Entitlement.Shape.Coercion
import Entitlement.Text.Unencodable

/-!
# Written records

A record is written as compact JSON in UTF-8, so its texts must not hold lone surrogates, and it
must not be nested too deeply; `Record.obstacle?` finds the first of these in the order of writing.
The names of its members and of their members are no obstacle: a surrogate in them is replaced.

`Refusal.answer` is the written record of a refusal.
-/

namespace Entitlement

namespace Record

/-! ## Obstacles -/

/-- The greatest nesting of a value inside a record. -/
def depthBound : Nat := 255

/-- What is said of a value that is nested too deeply. -/
def tooDeep : Text := "ValueError: Maximum serialization depth exceeded"

/-- What is said of a text that has no strict UTF-8 form. -/
def textObstacle? (t : Text) : Option Text :=
  t.utf8Obstacle?.map fun message => "UnicodeEncodeError: " ++ message

/-- The obstacle in the name of a member whose value may be nested `depth` more levels.  The names
of the two outer levels are replaced where they need it. -/
def nameObstacle? (depth : Nat) (name : Text) : Option Text :=
  if depth + 1 < depthBound then textObstacle? name else none

mutual

/-- The first obstacle in a value that may be nested `depth` more levels. -/
def obstacle? : (depth : Nat) → Json → Option Text
  | _, .string t => textObstacle? t
  | 0, .array _ | 0, .object _ => some tooDeep
  | depth + 1, .array items => itemsObstacle? depth items
  | depth + 1, .object members => membersObstacle? depth members
  | _, _ => none

def itemsObstacle? : (depth : Nat) → List Json → Option Text
  | _, [] => none
  | depth, x :: rest => (obstacle? depth x).or (itemsObstacle? depth rest)

def membersObstacle? : (depth : Nat) → List (Text × Json) → Option Text
  | _, [] => none
  | depth, (name, x) :: rest =>
    (nameObstacle? depth name).or ((obstacle? depth x).or (membersObstacle? depth rest))

end

/-! ## Names -/

mutual

/-- A value with the names of its members patched. -/
def patched : Json → Json
  | .array items => .array (patchedItems items)
  | .object members => .object (patchedMembers members)
  | json => json

def patchedItems : List Json → List Json
  | [] => []
  | x :: rest => patched x :: patchedItems rest

def patchedMembers : List (Text × Json) → List (Text × Json)
  | [] => []
  | (name, x) :: rest => (name.patched, patched x) :: patchedMembers rest

end

/-! ## Writing -/

/-- The fault of a record that cannot be written. -/
def fault (obstacle : Text) : Fault :=
  .failure Kind.serialization ("Error serializing to JSON: " ++ obstacle)

/-- A record that can be written. -/
def check (record : Json) : Except Fault Unit :=
  match obstacle? (depthBound + 1) record with
  | some obstacle => .error (fault obstacle)
  | none => .ok ()

/-- The text of a record. -/
def write (record : Json) : Except Fault Text := do
  check record
  return (patched record).write .record

end Record

namespace Refusal

/-- The text of the record of a refusal. -/
def answer (r : Refusal) (trace : Option Text) : Except Fault Text := Record.write (r.record trace)

/-- A refusal whose message and details are given as any values, to be written in a record. -/
def shape (category : Category) (message details : Json) : Checked Refusal :=
  let details := if details.isTruthy then details else .object []
  Refusal.mk category <$> (Shape.text message).under (.member "message")
    <*> (Shape.members details).under (.member "details")

/-- A refusal whose message and details are given as any values, to be wrapped into another one.
Details that are not empty have to have members. -/
def asCause (category : Category) (message details : Json) : Except Fault Refusal :=
  match details with
  | .object members => .ok ⟨category, message.told, members⟩
  | details =>
    if details.isTruthy then .error (.silent Kind.attributeError)
    else .ok ⟨category, message.told, []⟩

end Refusal

end Entitlement
