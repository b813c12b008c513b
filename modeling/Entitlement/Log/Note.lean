import Entitlement.Log
import Entitlement.Log.Message

/-!
# Notes

A note is what a caller hands to a logger: an event, arguments for the places of the event, and
fields.  `Note.entry` turns it into an entry of the log: the arguments are put into the event, and
the fields that only steer the writing of the entry are dropped.

Arguments may also come as the field `positional_args`, which counts when the note has none itself.
-/

namespace Entitlement

namespace Log

/-- What is handed to a logger. -/
structure Note where
  logger : Text
  level : Level
  event : Json
  arguments : List Json
  fields : Members

namespace Note

/-- Names that a note uses itself, so that no field can have them. -/
def takenNames : List Text := ["self", "event", "method_name"]

/-- The field that may hold the arguments. -/
def argumentsField : Text := "positional_args"

/-- The fields that ask for the trace of a failure. -/
def traceFields : List Text := ["exc_info", "stack_info"]

/-- The field under which the record of another logger would be found. -/
def foreignField : Text := "_record"

/-- No field has a name that is taken, and there is no record of another logger. -/
def checkFields (note : Note) : Except Fault Unit :=
  if note.fields.any fun m => takenNames.contains m.1 then .error (.silent Kind.typeError)
  else
    match Members.get? note.fields foreignField with
    | none | some .null => .ok ()
    | some _ => .error (.silent Kind.attributeError)

/-- What the places of the event are filled with, if there is anything. -/
def supply? (note : Note) : Except Fault (Option Supply) :=
  match note.arguments, Members.get? note.fields argumentsField with
  | [], none => .ok none
  | [], some json => if json.isTruthy then some <$> Supply.ofValue json else .ok none
  | row, _ => .ok (some (.ofRow row))

/-- The event with its places filled; only a text has places. -/
def filledEvent (note : Note) : Except Fault Json := do
  match ← note.supply?, note.event with
  | none, event => return event
  | some supply, .string message => return .string (← Message.fill message supply)
  | some _, .null => throw (.missingKey "event")
  | some _, _ => throw unfitArgument

/-- The fields that are kept.  A field for the arguments that holds null is kept, unless the note
has arguments. -/
def keptFields (note : Note) : Members :=
  note.fields.filter fun (name, json) =>
    !traceFields.contains name
      && (name ≠ argumentsField || (note.arguments.isEmpty && json = .null))

/-- The entry of a note. -/
def entry (note : Note) : Except Fault Entry := do
  note.checkFields
  return ⟨note.logger, note.level, ← note.filledEvent, note.keptFields⟩

end Note

end Log

end Entitlement
