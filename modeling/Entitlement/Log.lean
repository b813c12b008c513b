import Entitlement.Fault.Basic

/-!
# Structured log

A log is a list of records, each a set of members.  A record is made of the fields of an `Entry` and
of what is known around it: the logger and level, the service that the logger belongs to, the span
that is recorded, and the request and organization at work.

A request in the context always marks a record; an organization does so unless the entry names one
itself.
-/

namespace Entitlement

namespace Log

/-- How grave an entry is. -/
inductive Level where
  | debug
  | info
  | warning
  | error
  | critical
  deriving DecidableEq

namespace Level

def name : Level → Text
  | .debug => "debug"
  | .info => "info"
  | .warning => "warning"
  | .error => "error"
  | .critical => "critical"

/-- The levels by the names under which entries are written. -/
def methods : List (Text × Level) := [("debug", debug), ("info", info), ("warning", warning),
  ("warn", warning), ("error", error), ("exception", error), ("critical", critical),
  ("fatal", critical)]

/-- The names, in capitals, that a configured level may have. -/
def configurable : List Text := ["CRITICAL", "FATAL", "ERROR", "WARNING", "WARN", "INFO", "DEBUG",
  "NOTSET", "BASIC_FORMAT", "_STYLES"]

end Level

/-- What is to be logged; an event of null is none. -/
structure Entry where
  logger : Text
  level : Level
  event : Json
  fields : Members

/-- The request and the organization at work. -/
structure Context where
  request : Option Text
  organization : Option Text
  deriving DecidableEq

/-- Nothing is at work. -/
def Context.empty : Context := ⟨none, none⟩

/-- A span of a trace. -/
structure Span where
  trace : Int
  span : Int
  recording : Bool

namespace Span

/-- An id in base sixteen, filled with zeros in front up to `width` code points; the one of zero is
none. -/
def idText? (s : Span) (width : Nat) (id : Int) : Option Text :=
  if s.recording ∧ id ≠ 0 then
    let digits := Text.inBase 16 id.natAbs
    let sign : Text := if id < 0 then "-" else ""
    some (sign ++ List.replicate (width - sign.length - digits.length) ('0' : CodePoint) ++ digits)
  else none

/-- The id of the trace, if it is recorded. -/
def traceText? (s : Span) : Option Text := s.idText? 32 s.trace

/-- The id of the span, if it is recorded. -/
def spanText? (s : Span) : Option Text := s.idText? 16 s.span

end Span

/-- Sets a member if there is a value for it. -/
def insertText (members : Members) (name : Text) : Option Text → Members
  | some t => Members.insert members name (.string t)
  | none => members

/-- The name of a logger; the empty name is the one of the root. -/
def loggerName (logger : Text) : Text := if logger = [] then "root" else logger

/-- The service of a dotted logger name is its first part. -/
def withService (members : Members) : Members :=
  match Members.get? members "logger" with
  | some (.string logger) =>
    match Text.splitAt '.' logger with
    | (service, some _) => Members.insert members "service" (.string service)
    | (_, none) => members
  | _ => members

/-- Whether a logger can be searched for a dot and cut there.  A list or an object is searched among
its items or names, but not cut. -/
def checkLogger (members : Members) : Except Fault Unit :=
  let found (names : List Json) : Except Fault Unit :=
    if names.contains (Json.text ".") then .error (.silent Kind.attributeError) else .ok ()
  match Members.get? members "logger" with
  | none | some (.string _) => .ok ()
  | some (.array items) => found items
  | some (.object inner) => found (inner.map fun m => .string m.1)
  | some _ => .error (.silent Kind.typeError)

/-- Marks a record with the span that is recorded. -/
def withSpan (members : Members) : Option Span → Members
  | some s => insertText (insertText members "trace_id" s.traceText?) "span_id" s.spanText?
  | none => members

/-- The text, unless it is missing or empty. -/
def present? : Option Text → Option Text
  | some (c :: t) => some (c :: t)
  | _ => none

/-- Marks a record with the request and the organization at work. -/
def withContext (members : Members) (context : Context) : Members :=
  let members := insertText members "request_id" (present? context.request)
  if (Members.get? members "organization_id").isSome then members
  else insertText members "organization_id" (present? context.organization)

/-- The record of an entry. -/
def record (context : Context) (span : Option Span) (entry : Entry) : Members :=
  let members :=
    if entry.event = .null then entry.fields else Members.insert entry.fields "event" entry.event
  let members := Members.insert members "logger" (.string (loggerName entry.logger))
  let members := Members.insert members "level" (.string entry.level.name)
  withContext (withSpan (withService members) span) context

end Log

end Entitlement
