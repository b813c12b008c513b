import Entitlement.Json.Basic
import Entitlement.Numeric.Shortest
import Entitlement.Text.Quoted

/-!
# Values in messages

A message shows a value in a notation of its own, with texts between quotes.  A text by itself is
told as it is.
-/

namespace Entitlement

namespace Json

mutual

/-- A value as a message shows it. -/
def shown : Json → Text
  | .null => "None"
  | .bool b => if b then "True" else "False"
  | .int i => Text.ofInt i
  | .float x => x.text
  | .string s => s.quoted
  | .array items => "[" ++ shownItems [] items ++ ("]" : Text)
  | .object members => "\x7b" ++ shownMembers [] members ++ ("\x7d" : Text)

def shownItems : (separator : Text) → List Json → Text
  | _, [] => []
  | separator, x :: rest => separator ++ shown x ++ shownItems ", " rest

def shownMembers : (separator : Text) → List (Text × Json) → Text
  | _, [] => []
  | separator, (name, x) :: rest =>
    separator ++ name.quoted ++ (": " : Text) ++ shown x ++ shownMembers ", " rest

end

/-- A value by itself. -/
def told : Json → Text
  | .string s => s
  | json => shown json

/-- A value as it is shown, with all but ASCII by number. -/
def shownInAscii (json : Json) : Text :=
  (shown json).flatMap fun c => if c.isAscii then [c] else Text.numberEscape c

end Json

end Entitlement
