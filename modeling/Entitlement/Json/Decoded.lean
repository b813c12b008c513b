import Entitlement.Fault.Basic
import Entitlement.Json.Reader

/-!
# Decoded texts

A text that should be JSON is decoded with every liberty of the reader.  What keeps it from being read
becomes a failure of its own kind: a text of another form, an integer that is too long, or values
nested too deeply.  An integer that is too long and values nested too deeply keep a value from being
written as well; writing goes through the value in the order of its text and fails at the first
obstacle.
-/

namespace Entitlement

namespace Json

/-- The failure of a text that is not read. -/
def decodingFault (t : Text) (fault : Reader.Fault) : Fault :=
  let kind :=
    match fault.cause with
    | .deepNesting _ => Kind.recursion
    | .longInteger _ => Kind.valueError
    | _ => Kind.jsonDecode
  .failure kind (fault.message t)

def decode (t : Text) : Except Fault Json :=
  (read Reader.lenient t).mapError (decodingFault t)

/-- The failure of writing an integer that is too long. -/
def unwritable : Fault :=
  .failure Kind.valueError ("Exceeds the limit (" ++ Text.decimal Text.numeralLimit
    ++ " digits) for integer string conversion; use sys.set_int_max_str_digits() to increase"
    ++ (" the limit" : Text))

/-- The failure of writing values that are nested too deeply. -/
def tooDeep : Fault :=
  .failure Kind.recursion "maximum recursion depth exceeded while encoding a JSON object"

mutual

/-- The first obstacle to writing a value, where values may be nested `depth` deep. -/
def obstacle? : (depth : Nat) → Json → Option Fault
  | _, .int i => if (Json.int i).isWritable then none else some unwritable
  | 0, .array _ | 0, .object _ => some tooDeep
  | depth + 1, .array items => itemsObstacle? depth items
  | depth + 1, .object members => membersObstacle? depth members
  | _, _ => none

def itemsObstacle? : (depth : Nat) → List Json → Option Fault
  | _, [] => none
  | depth, x :: rest => (obstacle? depth x).or (itemsObstacle? depth rest)

def membersObstacle? : (depth : Nat) → List (Text × Json) → Option Fault
  | _, [] => none
  | depth, (_, x) :: rest => (obstacle? depth x).or (membersObstacle? depth rest)

end

/-- Checks that a value can be written. -/
def checkWritable (json : Json) : Except Fault Unit :=
  match json.obstacle? Reader.depthLimit with
  | none => .ok ()
  | some fault => .error fault

end Json

end Entitlement
