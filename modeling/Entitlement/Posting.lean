import Entitlement.Fault.Record
import Entitlement.Text.Utf8

/-!
# What is posted and what is got

The bodies of the requests that change something, and the answer to the opening of a session.  Each
has a shape, which tells what does not fit, and a written form.
-/

namespace Entitlement

/-- The request to activate a license. -/
structure Activation where
  key : Text
  deriving DecidableEq

namespace Activation

/-- A key of a license; the empty one is refused. -/
def keyShape : Shape Text := fun json =>
  match Shape.text json with
  | .pass [] =>
    .fail [⟨"value_error", [], "Value error, license key cannot be empty", json,
      some (.object [("error", .object [])])⟩]
  | other => other

def shape : Shape Activation :=
  Shape.record "PostableLicense" fun members =>
    Activation.mk <$> Shape.required members "key" keyShape

def json (a : Activation) : Json := .object [("key", .string a.key)]

end Activation

/-- The request to open a session. -/
structure Subscription where
  /-- The address to come back to. -/
  url : Text
  deriving DecidableEq

namespace Subscription

def shape : Shape Subscription :=
  Shape.record "PostableSubscription" fun members =>
    Subscription.mk <$> Shape.optional members "url" Shape.text []

def json (s : Subscription) : Json := .object [("url", .string s.url)]

/-- The body that is sent to the authority. -/
def body (s : Subscription) : Except Fault Bytes := Utf8.encode <$> Record.write s.json

end Subscription

/-- The answer to the opening of a session. -/
structure Redirection where
  url : Text
  deriving DecidableEq

namespace Redirection

def shape : Shape Redirection :=
  Shape.record "GettableSubscription" fun members =>
    Redirection.mk <$> Shape.required members "redirect_url" Shape.text

def json (r : Redirection) : Json := .object [("redirect_url", .string r.url)]

/-- The form that is handed out. -/
def publicJson (r : Redirection) : Json := .object [("redirectURL", .string r.url)]

end Redirection

end Entitlement
