import Entitlement.Identifier
import Entitlement.Log
import Entitlement.Proofs.Json.Members

/-! # Which request and which organization a record names

A record is made of the fields of an entry and of marks that are set around them. The marks of the
logger, the event and the span leave the request and the organization alone, so a record names the
request of the context (`Log.get?_record_request`), and the organization that the entry names or
else the one of the context (`Log.get?_record_organization`). An entry *concerns* an organization if
it names no other one, and no request (`Log.Entry.Concerns`); written in the context of a request of
that organization it gives a record that *bears* both (`Log.Context.Serves.bears`). -/

namespace Entitlement

namespace Log

/-! ### Marks -/

theorem get?_insertText (members : Members) (name other : Text) (value : Option Text) :
    Members.get? (insertText members name value) other =
      if name = other then (value.map Json.string).or (Members.get? members other)
      else Members.get? members other := by
  cases value with
  | none => exact (ite_self _).symm
  | some t => exact Members.get?_insert members name other (.string t)

/-- The names that a record sets itself, apart from the request and the organization. -/
def markNames : List Text := ["event", "logger", "level", "service", "trace_id", "span_id"]

theorem get?_withService {members : Members} {name : Text} (h : name ∉ markNames) :
    Members.get? (withService members) name = Members.get? members name := by
  have hservice : ("service" : Text) ≠ name := by
    rintro rfl
    exact h (by decide)
  unfold withService
  split
  · split
    · rw [Members.get?_insert, if_neg hservice]
    · rfl
  · rfl

theorem get?_withSpan {members : Members} {span : Option Span} {name : Text}
    (h : name ∉ markNames) :
    Members.get? (withSpan members span) name = Members.get? members name := by
  have htrace : ("trace_id" : Text) ≠ name := by
    rintro rfl
    exact h (by decide)
  have hspan : ("span_id" : Text) ≠ name := by
    rintro rfl
    exact h (by decide)
  cases span with
  | none => rfl
  | some s => rw [withSpan, get?_insertText, get?_insertText, if_neg hspan, if_neg htrace]

/-- The members of a record before the request and the organization are marked. -/
def unplaced (span : Option Span) (entry : Entry) : Members :=
  let members :=
    if entry.event = .null then entry.fields else Members.insert entry.fields "event" entry.event
  let members := Members.insert members "logger" (.string (loggerName entry.logger))
  let members := Members.insert members "level" (.string entry.level.name)
  withSpan (withService members) span

theorem get?_unplaced (span : Option Span) (entry : Entry) {name : Text} (h : name ∉ markNames) :
    Members.get? (unplaced span entry) name = Members.get? entry.fields name := by
  have hne : ∀ mark ∈ markNames, mark ≠ name := by
    rintro mark hmark rfl
    exact h hmark
  have hevent : Members.get? (if entry.event = .null then entry.fields
      else Members.insert entry.fields "event" entry.event) name =
        Members.get? entry.fields name := by
    split
    · rfl
    · rw [Members.get?_insert, if_neg (hne _ (by decide))]
  unfold unplaced
  dsimp only
  rw [get?_withSpan h, get?_withService h, Members.get?_insert, if_neg (hne _ (by decide)),
    Members.get?_insert, if_neg (hne _ (by decide)), hevent]

theorem record_eq (context : Context) (span : Option Span) (entry : Entry) :
    record context span entry = withContext (unplaced span entry) context := rfl

theorem get?_record_request (context : Context) (span : Option Span) (entry : Entry) :
    Members.get? (record context span entry) "request_id" =
      ((present? context.request).map Json.string).or (Members.get? entry.fields "request_id") := by
  rw [record_eq, withContext]
  split
  · rw [get?_insertText, if_pos rfl, get?_unplaced span entry (by decide)]
  · rw [get?_insertText, if_neg (by decide), get?_insertText, if_pos rfl,
      get?_unplaced span entry (by decide)]

theorem get?_record_organization (context : Context) (span : Option Span) (entry : Entry) :
    Members.get? (record context span entry) "organization_id" =
      (Members.get? entry.fields "organization_id").or
        ((present? context.organization).map Json.string) := by
  have hget : Members.get? (insertText (unplaced span entry) "request_id"
      (present? context.request)) "organization_id" =
        Members.get? entry.fields "organization_id" := by
    rw [get?_insertText, if_neg (by decide), get?_unplaced span entry (by decide)]
  rw [record_eq, withContext]
  cases hown : Members.get? entry.fields "organization_id" with
  | some v =>
    rw [hown] at hget
    rw [hget]
    exact hget
  | none =>
    rw [hown] at hget
    rw [hget]
    dsimp only [Option.isSome]
    rw [if_neg Bool.false_ne_true, get?_insertText, if_pos rfl, hget]
    cases (present? context.organization) <;> rfl

/-! ### Records of a request -/

/-- An entry that names no request, and no organization but the given one. -/
structure Entry.Concerns (entry : Entry) (organization : Option Uuid) : Prop where
  request : Members.get? entry.fields "request_id" = none
  organization : Members.get? entry.fields "organization_id" = none ∨
    Members.get? entry.fields "organization_id" = organization.map fun o => .string o.text

/-- The context of a request: its id, and no organization but its own. -/
structure Context.Serves (context : Context) (request : Text) (organization : Option Uuid) :
    Prop where
  request : context.request = some request
  organization : context.organization = none ∨ context.organization = organization.map Uuid.text

/-- A record that names the request, where it has a name, and no organization but the given one. -/
structure Bears (request : Text) (organization : Option Uuid) (record : Members) : Prop where
  request : Members.get? record "request_id" = (present? (some request)).map Json.string
  organization : Members.get? record "organization_id" = none ∨
    Members.get? record "organization_id" = organization.map fun o => .string o.text

theorem Entry.Concerns.of_none {entry : Entry} (h : entry.Concerns none)
    (organization : Option Uuid) : entry.Concerns organization :=
  ⟨h.request, .inl (h.organization.elim id id)⟩

/-- **An entry that is written in the context of a request** gives a record that bears it. -/
theorem Context.Serves.bears {context : Context} {request : Text} {organization : Option Uuid}
    {entry : Entry} (h : context.Serves request organization) (he : entry.Concerns organization)
    (span : Option Span) : Bears request organization (record context span entry) where
  request := by
    rw [get?_record_request, he.request, h.request, Option.or_none]
  organization := by
    rw [get?_record_organization]
    rcases he.organization with hown | hown
    · rw [hown, Option.none_or]
      rcases h.organization with hc | hc
      · rw [hc]
        exact .inl rfl
      · rw [hc]
        cases organization with
        | none => exact .inl rfl
        | some o =>
          cases ht : o.text with
          | nil =>
            rw [Option.map_some, ht]
            exact .inl rfl
          | cons c t =>
            rw [Option.map_some, Option.map_some, ht]
            exact .inr rfl
    · rw [hown]
      cases organization with
      | none =>
        rcases h.organization with hc | hc <;> rw [hc] <;> exact .inl rfl
      | some o => exact .inr rfl

end Log

end Entitlement
