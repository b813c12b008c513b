import Entitlement.Fault.Kind
import Entitlement.Json.Shown
import Entitlement.Json.Writer
import Entitlement.Shape.Issue
import Entitlement.Text.Quoted

/-!
# Faults

Every way in which an operation can fail.  A `Refusal` is a failure in the terms of licensing: it
has a category, which gives the code and the HTTP status, a message, and details.  The other faults
are a value of the wrong shape, a task that was tried too often, and a failure of some other `Kind`.

`Refusal.wrap` puts an internal error around a fault.  It names the cause and keeps the details of
the cause, except the ones that would hide the name.
-/

namespace Entitlement

/-- The categories of refusal. -/
inductive Category where
  | invalidInput
  | unauthenticated
  | forbidden
  | notFound
  | alreadyExists
  | internal
  | other (code : Text) (status : Int)
  deriving DecidableEq

namespace Category

/-- The code that a program reads. -/
def code : Category → Text
  | .invalidInput => "INVALID_INPUT"
  | .unauthenticated => "UNAUTHENTICATED"
  | .forbidden => "FORBIDDEN"
  | .notFound => "NOT_FOUND"
  | .alreadyExists => "ALREADY_EXISTS"
  | .internal => "INTERNAL"
  | .other code _ => code

/-- The HTTP status of an answer. -/
def status : Category → Int
  | .invalidInput => 400
  | .unauthenticated => 401
  | .forbidden => 403
  | .notFound => 404
  | .alreadyExists => 409
  | .internal => 500
  | .other _ status => status

/-- The message when none is given. -/
def defaultMessage : Category → Text
  | .invalidInput => "Invalid input"
  | .unauthenticated => "Unauthenticated"
  | .forbidden => "Forbidden"
  | .notFound => "Not found"
  | .alreadyExists => "Already exists"
  | .internal => "Internal error"
  | .other _ _ => ""

/-- The family of all refusals. -/
def family : Text := "LicensingException"

/-- The name of the category among the kinds of failure. -/
def name : Category → Text
  | .invalidInput => "InvalidInputError"
  | .unauthenticated => "AuthenticationError"
  | .forbidden => "AuthorizationError"
  | .notFound => "NotFoundError"
  | .alreadyExists => "AlreadyExistsError"
  | .internal => "InternalError"
  | .other _ _ => family

def kind (category : Category) : Kind := Kind.within [family] category.name

/-- The category of a name, but for the one that carries its own code. -/
def ofName? (name : Text) : Option Category :=
  [invalidInput, unauthenticated, forbidden, notFound, alreadyExists, internal].find?
    (·.name = name)

end Category

/-- A failure in the terms of licensing. -/
structure Refusal where
  category : Category
  message : Text
  details : Members
  deriving DecidableEq

namespace Refusal

def code (r : Refusal) : Text := r.category.code

def status (r : Refusal) : Int := r.category.status

/-- The record that answers a request; the trace is left out when none is recorded. -/
def record (r : Refusal) (trace : Option Text) : Json :=
  .object [("trace_id", trace.elim .null .string), ("code", .string r.code),
    ("message", .string r.message), ("details", .object r.details)]

end Refusal

/-- A failure of an operation. -/
inductive Fault where
  /-- A failure in the terms of licensing. -/
  | refusal (r : Refusal)
  /-- A value does not have the shape asked for. -/
  | mismatch (issues : List Issue)
  /-- The last of several attempts at a task failed as well. -/
  | exhausted (task : Text) (attempts : Nat) (last : Fault)
  /-- A failure of another kind. -/
  | failure (kind : Kind) (message : Text)

namespace Fault

def kind : Fault → Kind
  | .refusal r => r.category.kind
  | .mismatch _ => Kind.within ["ValueError"] "ValidationError"
  | .exhausted _ _ _ => Kind.within [] "RetryError"
  | .failure kind _ => kind

/-- The text of a fault. -/
def text : Fault → Text
  | .refusal r => r.message
  | .mismatch issues => Text.decimal issues.length ++ (" validation errors" : Text)
  | .exhausted task attempts _ =>
    task ++ (" failed after " : Text) ++ Text.decimal attempts ++ (" attempts" : Text)
  | .failure _ message => message

/-- Whether the fault belongs to one of the families. -/
def isOneOf (f : Fault) (families : List Text) : Bool := families.any f.kind.isA

/-- A failure of a kind that is told without a message. -/
def silent (kind : Kind) : Fault := .failure kind []

/-- The fault of a missing key, which is told between quotes. -/
def missingKey (key : Text) : Fault := .failure Kind.keyError key.quoted

/-- Why a kind cannot be raised about one value, or about nothing, if it cannot: it is raised with
several facts, or only without any. -/
def raisingObstacle? (kind : Kind) (about : Option Json) : Option Text :=
  let given : Text := if about.isSome then "1" else "0"
  let counted (maker count : Text) : Option Text :=
    some (maker ++ " takes exactly " ++ count ++ " arguments (" ++ given ++ (" given)" : Text))
  let isAny (names : List Text) : Bool := names.contains kind.name
  if isAny ["UnicodeDecodeError", "UnicodeEncodeError"] then counted "function" "5"
  else if isAny ["UnicodeTranslateError"] then counted "function" "4"
  else if isAny ["ExceptionGroup", "BaseExceptionGroup"] then
    counted "BaseExceptionGroup.__new__()" "2"
  else if isAny ["HTTPStatusError"] then
    some (kind.name ++ (".__init__() missing 2 required keyword-only arguments: " : Text)
      ++ ("'request' and 'response'" : Text))
  else if about.isSome && isAny Kind.bare then
    some (kind.name ++ (".__init__() takes 1 positional argument but 2 were given" : Text))
  else none

/-- The failure of a kind that is raised about a value or about nothing, or the fault of raising it
so. -/
def raised (kind : Kind) (about : Option Json) : Except Fault Fault :=
  match raisingObstacle? kind about with
  | some message => .error (.failure Kind.typeError message)
  | none =>
    match about with
    | some json => .ok (.failure kind (if kind = Kind.keyError then json.shown else json.told))
    | none => .ok (.failure kind (if kind.isA "SyntaxError" then "None" else []))

/-- A fault as it leaves a task.  The end of an iteration cannot leave one. -/
def leavingTask (fault : Fault) : Fault :=
  if fault.isOneOf ["StopIteration"] then
    .failure Kind.runtimeError "coroutine raised StopIteration"
  else fault

def invalidInput (message : Text) (details : Members) : Fault :=
  .refusal ⟨.invalidInput, message, details⟩

def notFound (message : Text) (details : Members) : Fault := .refusal ⟨.notFound, message, details⟩

def alreadyExists (message : Text) (details : Members) : Fault :=
  .refusal ⟨.alreadyExists, message, details⟩

def internal (message : Text) (details : Members) : Fault := .refusal ⟨.internal, message, details⟩

end Fault

namespace Refusal

/-- The details of an internal error around a fault: its text, the code of a refusal, and those
details of a refusal whose names are not taken. -/
def wrappedDetails : Fault → Members
  | .refusal r =>
    let own : Members := [("cause", .string r.message), ("cause_code", .string r.code)]
    own ++ r.details.filter fun m => (Members.get? own m.1).isNone
  | fault => [("cause", .string fault.text)]

/-- An internal error around a fault. -/
def wrap (cause : Fault) (message : Text) : Refusal := ⟨.internal, message, wrappedDetails cause⟩

end Refusal

end Entitlement
