import Entitlement.Fault.Basic
import Entitlement.Json.Reader

/-!
# Redirects in the answers of the authority

The authority answers the opening of a session with a document whose member `url` is the address to
go to.  An answer without one means no address; an address that is no text is taken as its JSON
text.
-/

namespace Entitlement

namespace Redirect

/-- The address in a value. -/
def ofJson (json : Json) : Text :=
  match json.get? "url" with
  | none | some .null => []
  | some (.string url) => url
  | some other => other.storedText

/-- The address in a document; a document that cannot be read has none. -/
def ofDocument (document : Document) : Except Fault Text :=
  match document.read Json.Reader.lenient with
  | .ok json => .ok (ofJson json)
  | .error fault =>
    if fault.isDeepNesting then .error (.failure Kind.recursion fault.message) else .ok []

end Redirect

end Entitlement
