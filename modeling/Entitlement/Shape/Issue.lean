import Entitlement.Json.Basic

/-!
# Issues

An issue says at which place a value does not have the shape asked for.  It has the kind of the
mismatch, a message, the value found there and, for some kinds, a context.
-/

namespace Entitlement

/-- A step on the way to a place inside a value. -/
inductive PlaceStep where
  | member (name : Text)
  | index (n : Nat)
  deriving DecidableEq

/-- The step as a value. -/
def PlaceStep.json : PlaceStep → Json
  | .member name => .string name
  | .index n => .int n

/-- The step in a dotted place. -/
def PlaceStep.text : PlaceStep → Text
  | .member name => name
  | .index n => Text.decimal n

/-- A mismatch at a place. -/
structure Issue where
  kind : Text
  place : List PlaceStep
  message : Text
  input : Json
  context : Option Json
  deriving DecidableEq

namespace Issue

/-- The same issue one step further out. -/
def under (step : PlaceStep) (issue : Issue) : Issue := { issue with place := step :: issue.place }

/-- Kind, place and message. -/
def summary (issue : Issue) : Json :=
  .object [("type", .string issue.kind), ("loc", .array (issue.place.map PlaceStep.json)),
    ("msg", .string issue.message)]

/-- The whole issue, as it is reported to a caller. -/
def report (issue : Issue) : Json :=
  let own : Members := [("type", .string issue.kind),
    ("loc", .array (issue.place.map PlaceStep.json)), ("msg", .string issue.message),
    ("input", issue.input)]
  .object (own ++ issue.context.toList.map fun context => (("ctx" : Text), context))

end Issue

end Entitlement
