import Entitlement.Proofs.Web.Visits

/-! # Which request and which organization the log names

A request that finds the log without a context is answered in a context of its own, so all that is
logged meanwhile bears the request and names no organization but the one of its header
(`App.served_extends`). So does the entry about the response that leaves. The entry about a fault
that nothing answers for is written when the context is gone already, and bears neither
(`App.visit_log`). A request may also bring an empty id, which is kept and which no record shows.
Hence all that is logged for a request names it if it is answered and brings no empty id, and only
then (`App.visit_correlated`). Whatever happens, no context is left for the next request
(`App.logs_are_correlated_iff`). -/

namespace Entitlement

theorem Uuid.text_ne_nil (u : Uuid) : u.text ≠ [] := by
  have hjoin : ∀ a b : Text, ∀ rest : List Text, Text.joinWith "-" (a :: b :: rest) ≠ [] := by
    intro a b rest h
    have hpieces : a ++ ("-" : Text) ++ Text.joinWith "-" (b :: rest) = [] := h
    have hhyphen : ("-" : Text) = [] :=
      (List.append_eq_nil_iff.mp (List.append_eq_nil_iff.mp hpieces).1).2
    cases hhyphen
  exact hjoin _ _ _

namespace Web

open Entitlement.Task Entitlement.Session

/-! ### What is logged for a request -/

/-- A record that names no request and no organization. -/
structure Unmarked (record : Members) : Prop where
  request : Members.get? record "request_id" = none
  organization : Members.get? record "organization_id" = none

namespace App

variable (app : App) (request : HttpRequest) (s : Session)

/-- The id that a request is entered with. -/
def enteredId : Text := (request.header? "X-Request-Id").getD s.fresh.text

theorem served_extends (idle : s.telemetry.context = .empty) :
    Extends (enteredId request s) request.organization? (entered request s)
      (app.served request s) := by
  have serves : (entered request s).telemetry.context.Serves (enteredId request s)
      request.organization? := by
    refine ⟨rfl, .inl ?_⟩
    change s.telemetry.context.organization = none
    rw [idle]
    rfl
  have traced : Act.Keeps (Traced (enteredId request s) request.organization?)
      (app.respond request) := app.respond_traced request
  exact ⟨serves, ((traced (entered request s)).logged serves).records⟩

/-- **What a request adds to the log**: records that bear the request, and a last one, about the
response that leaves or about a fault that nothing answers for. -/
theorem visit_log (idle : s.telemetry.context = .empty) : ∃ earlier last,
    (app.visit request s).after.telemetry.records = s.telemetry.records ++ (earlier ++ [last]) ∧
      (∀ r ∈ earlier, Log.Bears (enteredId request s) request.organization? r) ∧
      ((app.visit request s).isAnswered app = true →
        Log.Bears (enteredId request s) request.organization? last) ∧
      ((app.visit request s).isAnswered app = false → Unmarked last) := by
  obtain ⟨serves, earlier, hrecords, hbears⟩ := app.served_extends request s idle
  have hentered : (entered request s).telemetry.records = s.telemetry.records := rfl
  rw [hentered] at hrecords
  rw [visit_after, ← conclusion_isOk]
  let log := (app.served request s).telemetry
  cases app.conclusion request s with
  | ok response =>
    rw [conclude_ok]
    have hlast : Log.Bears (enteredId request s) request.organization?
        (Log.record log.context log.span (app.departure request response)) :=
      serves.bears ⟨rfl, .inl rfl⟩ log.span
    refine ⟨earlier, _, ?_, hbears, fun _ => hlast, nofun⟩
    rw [← List.append_assoc, ← hrecords]
    rfl
  | error fault =>
    rw [conclude_error]
    have hlast : Unmarked (Log.record .empty log.span (app.mishap fault)) :=
      ⟨Log.get?_record_request _ _ _, Log.get?_record_organization _ _ _⟩
    refine ⟨earlier, _, ?_, hbears, nofun, fun _ => hlast⟩
    rw [← List.append_assoc, ← hrecords]
    rfl

theorem visit_context : (app.visit request s).after.telemetry.context = .empty := by
  rw [visit_after]
  cases app.conclusion request s with
  | ok response => rw [conclude_ok]; rfl
  | error fault => rw [conclude_error]; rfl

end App

/-! ### Correlation -/

namespace Visit

variable (v : Visit)

/-- The id of the request: the one that it brings, unless that is empty, or else the one that is
drawn for it. -/
def ownId : Text :=
  match v.request.header? "X-Request-Id" with
  | some (c :: t) => c :: t
  | _ => v.before.fresh.text

/-- What was logged from the arrival of the request until its response. -/
def emitted : List Members :=
  v.after.telemetry.records.drop v.before.telemetry.records.length

/-- The record names the request. -/
def Owns (record : Members) : Prop := Members.get? record "request_id" = some (.string v.ownId)

/-- What holds of the log of a request. -/
structure Correlated (app : App) : Prop where
  /-- Neither id is left in the context. -/
  cleared : v.after.telemetry.context = .empty
  /-- Records are only added. -/
  added : v.after.telemetry.records = v.before.telemetry.records ++ v.emitted
  /-- No record names another request. -/
  request : ∀ r ∈ v.emitted, Members.get? r "request_id" = none ∨ v.Owns r
  /-- No record names another organization than the one of the header. -/
  organization : ∀ r ∈ v.emitted, ∀ o, Members.get? r "organization_id" = some o →
    ∃ own, organizationOf (v.request.header? organizationHeader) = .ok own ∧ o = .string own.text
  /-- Every record names the request if it is answered and brings no empty id, and only then. -/
  complete_iff : (∀ r ∈ v.emitted, v.Owns r) ↔
    v.request.header? "X-Request-Id" ≠ some [] ∧ v.isAnswered app = true
  /-- Only the last record of a request that is not answered is unmarked, unless the id is empty. -/
  unanswered : v.isAnswered app = false → ∃ earlier last, v.emitted = earlier ++ [last] ∧
    Unmarked last ∧ (v.request.header? "X-Request-Id" ≠ some [] → ∀ r ∈ earlier, v.Owns r)
  /-- No record names a request that brings an empty id. -/
  empty : v.request.header? "X-Request-Id" = some [] →
    ∀ r ∈ v.emitted, Members.get? r "request_id" = none

end Visit

namespace App

variable (app : App) (request : HttpRequest) (s : Session)

variable {request s} in
theorem owns_of_bears {organization : Option Uuid} {r : Members}
    (given : request.header? "X-Request-Id" ≠ some [])
    (bears : Log.Bears (enteredId request s) organization r) : (app.visit request s).Owns r := by
  have hpresent : Log.present? (some (enteredId request s)) =
      some (app.visit request s).ownId := by
    unfold enteredId Visit.ownId visit
    dsimp only
    cases hid : request.header? "X-Request-Id" with
    | none =>
      cases hfresh : s.fresh.text with
      | nil => exact absurd hfresh s.fresh.text_ne_nil
      | cons c t => rfl
    | some id =>
      cases id with
      | nil => exact absurd hid given
      | cons c t => rfl
  rw [Visit.Owns, bears.request, hpresent]
  rfl

variable {request s} in
theorem unnamed_of_bears {organization : Option Uuid} {r : Members}
    (hid : request.header? "X-Request-Id" = some [])
    (bears : Log.Bears (enteredId request s) organization r) :
    Members.get? r "request_id" = none := by
  rw [bears.request, enteredId, hid]
  rfl

variable {request} in
theorem organization_of_bears {id : Text} {r : Members} {o : Json}
    (bears : Log.Bears id request.organization? r)
    (ho : Members.get? r "organization_id" = some o) :
    ∃ own, organizationOf (request.header? organizationHeader) = .ok own ∧
      o = .string own.text := by
  rcases bears.organization with h | h
  · rw [h] at ho
    cases ho
  · rw [h, HttpRequest.organization?] at ho
    cases hown : organizationOf (request.header? organizationHeader) with
    | error fault =>
      rw [hown] at ho
      cases ho
    | ok own =>
      rw [hown] at ho
      exact ⟨own, rfl, (Option.some.inj ho).symm⟩

theorem visit_correlated (idle : s.telemetry.context = .empty) :
    (app.visit request s).Correlated app := by
  obtain ⟨earlier, last, hrecords, hearlier, hanswered, hunanswered⟩ := app.visit_log request s idle
  have hemitted : (app.visit request s).emitted = earlier ++ [last] := by
    rw [Visit.emitted, hrecords]
    exact List.drop_left
  have hmarks : ∀ r ∈ (app.visit request s).emitted,
      Log.Bears (enteredId request s) request.organization? r ∨ Unmarked r := by
    rw [hemitted]
    intro r hr
    rcases List.mem_append.mp hr with hr | hr
    · exact .inl (hearlier r hr)
    · obtain rfl := List.mem_singleton.mp hr
      cases h : (app.visit request s).isAnswered app with
      | true => exact .inl (hanswered h)
      | false => exact .inr (hunanswered h)
  have hlast : last ∈ (app.visit request s).emitted := by
    rw [hemitted]
    exact List.mem_append_right _ List.mem_cons_self
  -- A record without the id of the request spoils completeness.
  have incomplete : ∀ r ∈ (app.visit request s).emitted, Members.get? r "request_id" = none →
      ¬ ∀ r ∈ (app.visit request s).emitted, (app.visit request s).Owns r := by
    intro r hr hnone hall
    have howns := hall r hr
    rw [Visit.Owns, hnone] at howns
    cases howns
  have hempty : request.header? "X-Request-Id" = some [] →
      ∀ r ∈ (app.visit request s).emitted, Members.get? r "request_id" = none :=
    fun hid r hr => (hmarks r hr).elim (unnamed_of_bears hid) Unmarked.request
  refine ⟨app.visit_context request s, ?_, fun r hr => ?_, fun r hr o ho => ?_,
    ⟨fun hall => ?_, ?_⟩, fun h => ⟨earlier, last, hemitted, hunanswered h, fun hid r hr => ?_⟩,
    hempty⟩
  · rw [hemitted, hrecords]
    rfl
  · by_cases hid : request.header? "X-Request-Id" = some []
    · exact .inl (hempty hid r hr)
    · exact (hmarks r hr).elim (fun h => .inr (app.owns_of_bears hid h)) fun h => .inl h.request
  · rcases hmarks r hr with h | h
    · exact organization_of_bears h ho
    · rw [h.organization] at ho
      cases ho
  · refine ⟨fun hid => incomplete last hlast (hempty hid last hlast) hall, ?_⟩
    by_contra h
    exact incomplete last hlast (hunanswered (Bool.eq_false_iff.mpr h)).request hall
  · rintro ⟨hid, h⟩ r hr
    rw [hemitted] at hr
    rcases List.mem_append.mp hr with hr | hr
    · exact app.owns_of_bears hid (hearlier r hr)
    · obtain rfl := List.mem_singleton.mp hr
      exact app.owns_of_bears hid (hanswered h)
  · exact app.owns_of_bears hid (hearlier r hr)

/-- **The log of requests one after another.** However many are handled, in whatever sessions, none
leaves a context behind, every record names the request that it was logged for or none, and the
organization of that request or none. All records of a request name it if it is answered and brings
no empty id; the last one names nothing if it is not answered, and none does if the id is empty. -/
theorem logs_are_correlated_iff (t : Telemetry) (arrivals : List Arrival) :
    ∀ v ∈ app.visits { t with context := .empty } arrivals, v.Correlated app :=
  app.forall_visits (I := fun context => context = .empty)
    (fun request s idle => ⟨app.visit_correlated request s idle, app.visit_context request s⟩)
    { t with context := .empty } rfl arrivals

/-- While the pool of the database goes down, the last record of a request does not name it. -/
theorem log_of_shutdownArrival :
    let v := plainApp.visit shutdownArrival.request
      (shutdownArrival.session Write.lateSession.telemetry)
    v ∈ plainApp.visits Write.lateSession.telemetry [shutdownArrival] ∧ v.Correlated plainApp ∧
      ∃ earlier last, v.emitted = earlier ++ [last] ∧ Unmarked last ∧ ∀ r ∈ earlier, v.Owns r := by
  intro v
  have hv : v ∈ plainApp.visits Write.lateSession.telemetry [shutdownArrival] := List.mem_cons_self
  have correlated : v.Correlated plainApp :=
    logs_are_correlated_iff plainApp Write.lateSession.telemetry [shutdownArrival] v hv
  obtain ⟨earlier, last, hemitted, hlast, hearlier⟩ :=
    correlated.unanswered shutdownArrival_unanswered
  have hid : shutdownArrival.request.header? "X-Request-Id" ≠ some [] := by decide +kernel
  exact ⟨hv, correlated, earlier, last, hemitted, hlast, hearlier hid⟩

/-- The fault of that pool is logged when the context is gone, in a record that names no request. -/
theorem not_every_record_names_its_request :
    ¬ ∀ (app : App) (t : Telemetry) (arrivals : List Arrival),
      ∀ v ∈ app.visits { t with context := .empty } arrivals, ∀ r ∈ v.emitted, v.Owns r := by
  intro named
  have h := named plainApp Write.lateSession.telemetry [shutdownArrival] _ List.mem_cons_self
  have correlated := plainApp.visit_correlated shutdownArrival.request
    (shutdownArrival.session Write.lateSession.telemetry) rfl
  have hanswered := (correlated.complete_iff.mp h).2
  rw [shutdownArrival_unanswered] at hanswered
  exact Bool.false_ne_true hanswered

end App

end Web

end Entitlement
