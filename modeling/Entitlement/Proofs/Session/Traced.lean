import Entitlement.Proofs.Session.Closed
import Entitlement.Proofs.Session.Keeps

/-! # What is logged on behalf of a request

Between two sessions a request is *traced* if no request was counted in between and if, starting in
a context of the request, everything that was logged bears the request and names no organization but
its own, and the context still is one of the request (`Session.Traced`). The relation holds over
nothing and over two steps in a row, so acts keep it if their parts do; a call of the authority
does, for any organization (`Authority.Client.perform_traced`). -/

namespace Entitlement

open Act

namespace Session

variable {request : Text} {organization : Option Uuid}

/-- What was logged bears the request, and the context is still one of it. -/
structure Extends (request : Text) (organization : Option Uuid) (s s' : Session) : Prop where
  context : s'.telemetry.context.Serves request organization
  records : ∃ records, s'.telemetry.records = s.telemetry.records ++ records ∧
    ∀ r ∈ records, Log.Bears request organization r

/-- No request was counted, and what was logged in a context of the request bears it. -/
structure Traced (request : Text) (organization : Option Uuid) (s s' : Session) : Prop where
  requests : s'.telemetry.metrics.httpRequests = s.telemetry.metrics.httpRequests
  logged : s.telemetry.context.Serves request organization → Extends request organization s s'

theorem Extends.of_records {s s' : Session}
    (hs : s'.telemetry.context.Serves request organization)
    (h : s'.telemetry.records = s.telemetry.records) : Extends request organization s s' :=
  ⟨hs, [], by rw [h, List.append_nil], fun _ hr => absurd hr List.not_mem_nil⟩

theorem Extends.trans {s t u : Session} (h : Extends request organization s t)
    (h' : Extends request organization t u) : Extends request organization s u := by
  obtain ⟨-, first, hfirst, hbears⟩ := h
  obtain ⟨hu, second, hsecond, hbears'⟩ := h'
  refine ⟨hu, first ++ second, ?_, fun r hr => ?_⟩
  · rw [hsecond, hfirst, List.append_assoc]
  · exact (List.mem_append.mp hr).elim (hbears r) (hbears' r)

instance : IsPreorder Session (Traced request organization) where
  refl _ := ⟨rfl, fun hs => .of_records hs rfl⟩
  trans _ _ _ h h' :=
    ⟨h'.requests.trans h.requests, fun hs =>
      (h.logged hs).trans (h'.logged (h.logged hs).context)⟩

theorem traced_log (s : Session) {entry : Log.Entry} (h : entry.Concerns organization) :
    Traced request organization s (s.log entry) :=
  ⟨rfl, fun hs => ⟨hs, [_], rfl, List.forall_mem_singleton.mpr (hs.bears h s.telemetry.span)⟩⟩

theorem traced_of_telemetry {s s' : Session} (h : s'.telemetry = s.telemetry) :
    Traced request organization s s' :=
  ⟨by rw [h], fun hs => .of_records (h ▸ hs) (by rw [h])⟩

theorem traced_mapMetrics (s : Session) {f : Metrics → Metrics}
    (h : (f s.telemetry.metrics).httpRequests = s.telemetry.metrics.httpRequests) :
    Traced request organization s (s.mapMetrics f) :=
  ⟨h, fun hs => .of_records hs rfl⟩

end Session

open Session

variable {α : Type} {request : Text} {organization : Option Uuid}

theorem Act.log_traced {logger : Text} {level : Log.Level} {event : Text} {fields : Members}
    (h : Log.Entry.Concerns ⟨logger, level, event, fields⟩ organization) :
    Keeps (Traced request organization) (Act.log logger level event fields) :=
  .of_log fun s => traced_log s h

theorem Act.onDatabase_traced (f : Database → Except Fault α × Database) :
    Keeps (Traced request organization) (onDatabase f) :=
  .of_onDatabase f fun _ _ => traced_of_telemetry rfl

theorem Act.traced_closed : Closed fun _ => Keeps (Traced request organization) where
  of_pure := .of_pure
  of_throw := .of_throw
  outcome := .outcome
  bind := .bind
  get_bind _ := .get_bind
  of_line _ _ := traced_of_telemetry rfl
  of_log h := log_traced (h.of_none organization)
  of_record h := .of_record fun s => traced_mapMetrics s (h s.telemetry.metrics)

theorem Authority.Client.perform_traced (client : Client) (call : Call) (key : Text)
    (body : Bytes) : Keeps (Traced request organization) (client.perform call key body) :=
  Act.traced_closed.perform client call key body

end Entitlement
