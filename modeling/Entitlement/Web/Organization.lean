import Entitlement.Session

/-!
# The organization of a request

A request names the organization that it acts for in a header.  A text that is read as a UUID sets
the organization at work, in its canonical form; any other text is refused and changes nothing.
-/

namespace Entitlement

namespace Web

def organizationHeader : Text := "X-Organization-Id"

/-- The refusal of a header. -/
def organizationRefusal (what : Text) : Fault :=
  .invalidInput (organizationHeader ++ what) [("header", .string organizationHeader)]

/-- The organization that a header names; an empty header is missing. -/
def organizationOf : (header : Option Text) → Except Fault Uuid
  | none | some [] => .error (organizationRefusal " header is missing")
  | some t =>
    match Uuid.read? t with
    | some id => .ok id
    | none => .error (organizationRefusal " header is not a valid uuid")

/-- Reads the header and sets the organization at work. -/
def enterOrganization (header : Option Text) : Act Uuid := do
  let id ← Task.ofExcept (organizationOf header)
  modify (Session.mapContext fun c => { c with organization := some id.text })
  return id

end Web

end Entitlement
