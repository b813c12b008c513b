import Entitlement.Proofs.Authority.Requests
import Entitlement.Proofs.Service.Failure
import Entitlement.Proofs.Service.Resolution
import Entitlement.Proofs.Text.Decimal

/-! # Calls of the authority, and how they are counted

Calls are made one after another, each in a session of its own: the line to the authority, the time
and the database are whatever they are by then, and only the metrics are carried on
(`Client.calls`). A call is *decided* by a response, or by the end of its attempts
(`Made.isDecided`). Then it is counted once, under its operation and its outcome; any other fault of
an attempt, or of a pause, leaves the call without a count (`Client.made_metrics`). So a call is
counted once just when it is decided, and the counts of an operation grow by the number of its
decided calls (`Client.calls_are_counted_iff`). -/

namespace Entitlement

open Entitlement.Task

namespace Counter

/-- The sum of the counts whose first label is given. -/
def totalOf (counter : Counter) (first : Text) : Nat :=
  total (counter.filter fun entry => entry.1.head? = some first)

theorem totalOf_cons (l : List Text) (n : Nat) (rest : Counter) (first : Text) :
    totalOf ((l, n) :: rest) first =
      (if l.head? = some first then n else 0) + totalOf rest first := by
  unfold totalOf
  rw [List.filter_cons]
  by_cases h : l.head? = some first
  · simp only [h, decide_true, if_true]
    exact total_cons _ _ _
  · simp only [h, decide_false, Bool.false_eq_true, if_false, Nat.zero_add]

theorem totalOf_count (counter : Counter) (labels : List Text) (first : Text) :
    (counter.count labels).totalOf first =
      counter.totalOf first + if labels.head? = some first then 1 else 0 := by
  induction counter with
  | nil =>
    unfold count
    rw [totalOf_cons]
    exact Nat.add_comm _ _
  | cons entry rest ih =>
    obtain ⟨l, n⟩ := entry
    unfold count
    split
    · next hl =>
      subst hl
      rw [totalOf_cons, totalOf_cons]
      split <;> omega
    · rw [totalOf_cons, totalOf_cons, ih]
      omega

end Counter

namespace Authority

/-! ### Calls one after another -/

/-- A call to be made, and the session that it finds apart from the metrics. -/
structure Enquiry where
  call : Call
  key : Text
  body : Bytes
  found : Session

/-- The session of a call, with the metrics as the calls before have left them. -/
def Enquiry.session (e : Enquiry) (m : Metrics) : Session := e.found.mapMetrics fun _ => m

/-- A call that was made: the session that it found, what came of it, and the session it left. -/
structure Made where
  call : Call
  key : Text
  body : Bytes
  before : Session
  result : Except Fault Bytes
  after : Session

namespace Client

variable (client : Client)

/-- Makes a call. -/
def made (e : Enquiry) (m : Metrics) : Made :=
  let run := (client.perform e.call e.key e.body).exec (e.session m)
  ⟨e.call, e.key, e.body, e.session m, run.1, run.2⟩

/-- Makes calls one after another. -/
def calls : Metrics → List Enquiry → List Made
  | _, [] => []
  | m, e :: rest => client.made e m :: calls (client.made e m).after.telemetry.metrics rest

/-- The metrics that calls leave one after another. -/
def metricsAfter (m : Metrics) (enquiries : List Enquiry) : Metrics :=
  enquiries.foldl (fun m e => (client.made e m).after.telemetry.metrics) m

theorem forall_calls {P : Made → Prop} (h : ∀ e m, P (client.made e m)) (m : Metrics)
    (enquiries : List Enquiry) : ∀ v ∈ client.calls m enquiries, P v := by
  induction enquiries generalizing m with
  | nil => exact fun v hv => absurd hv List.not_mem_nil
  | cons e rest ih =>
    intro v hv
    rcases List.mem_cons.mp hv with rfl | hv
    · exact h e m
    · exact ih _ v hv

end Client

/-! ### The outcome of a call -/

namespace Made

variable (client : Client) (v : Made)

/-- What the attempts of the call come to: the response that ends it, or a fault. -/
def ending : Except Fault Response := ((client.send v.call v.key v.body).exec v.before).1

/-- Whether a response, or the end of the attempts, decides the call. -/
def isDecided : Bool :=
  match v.ending client with
  | .ok _ | .error (.exhausted _ _ _) => true
  | .error _ => false

/-- The outcome that a call is to be counted under. -/
def outcome : Text :=
  match v.ending client with
  | .ok response => if response.isSuccess then "success" else Text.ofInt response.status
  | .error _ => "transport_error"

/-- The calls that were counted before this one. -/
def countsBefore : Counter := v.before.telemetry.metrics.authorityCalls

/-- The calls that were counted when this one had come to its end. -/
def countsAfter : Counter := v.after.telemetry.metrics.authorityCalls

/-- The call is counted once: one more for its operation, namely under its outcome. -/
structure Counted : Prop where
  operation : ∀ call : Call, v.countsAfter.totalOf call.operation =
    v.countsBefore.totalOf call.operation + if call = v.call then 1 else 0
  each : ∀ labels, v.countsAfter.get labels =
    v.countsBefore.get labels + if labels = [v.call.operation, v.outcome client] then 1 else 0

/-- What the outcomes tell: the call returned, a response without success ended it, or it ended
without a response. -/
structure Told : Prop where
  success : v.outcome client = "success" ↔ ∃ body, v.result = .ok body
  status : ∀ status, v.outcome client = Text.ofInt status ↔
    ∃ response, v.ending client = .ok response ∧ response.isSuccess = false ∧
      response.status = status
  transport : v.outcome client = "transport_error" ↔ ∃ fault, v.ending client = .error fault

/-- The call fails with a fault that is not the end of its attempts: an attempt fails with a fault
that it is not tried again for, or the pause after an attempt cannot be told. -/
def Escapes (fault : Fault) : Prop :=
  v.result = .error fault ∧ (client.attempts v.call v.key v.body).Fails v.before fault ∧
    ∀ task attempts last, fault ≠ .exhausted task attempts last

end Made

namespace Client

variable {client : Client}

theorem send_metrics (client : Client) (call : Call) (key : Text) (body : Bytes) (s : Session) :
    ((client.send call key body).exec s).2.telemetry.metrics = s.telemetry.metrics := by
  let R (s s' : Session) : Prop := s'.telemetry.metrics = s.telemetry.metrics
  have : IsPreorder Session R := { refl := fun _ => rfl, trans := fun _ _ _ h h' => h'.trans h }
  have hstep : Act.Keeps R (client.sendOnce call key body) := by
    unfold sendOnce
    refine .bind (fun s => rfl) fun _ => .bind (.of_ofExcept _) fun url => ?_
    refine .bind (.of_ofExcept _) fun _ => .bind (fun s => rfl) fun response => ?_
    split
    · exact .bind (.of_throw _) fun _ => .of_pure _
    · exact .of_pure _
  have hrun : Act.Keeps R (client.attempts call key body).run :=
    Retry.Setting.run_keeps rfl (fun _ _ => rfl) (fun _ _ => rfl) hstep
  exact hrun s

theorem count_counting (counts : client.counts = true) (call : Call) (outcome : Text)
    (s : Session) : (client.count call outcome).exec s =
      (.ok (), s.mapMetrics (·.recordAuthorityCall call.operation outcome)) := by
  unfold count
  rw [if_pos counts]
  rfl

/-- **A call that is decided is counted** under its operation and its outcome, and no other call is
counted at all. -/
theorem made_metrics (counts : client.counts = true) (e : Enquiry) (m : Metrics) :
    (client.made e m).after.telemetry.metrics =
      if (client.made e m).isDecided client then
        m.recordAuthorityCall e.call.operation ((client.made e m).outcome client)
      else m := by
  have hmade : (client.made e m).after =
      ((client.perform e.call e.key e.body).exec (e.session m)).2 := rfl
  have hmetrics := client.send_metrics e.call e.key e.body (e.session m)
  rw [hmade]
  unfold Made.isDecided Made.outcome Made.ending made perform
  dsimp only
  rw [exec_outcome_bind]
  rcases hsend : (client.send e.call e.key e.body).exec (e.session m) with ⟨fault | response, s⟩
  · have hm : s.telemetry.metrics = m := by rw [hsend] at hmetrics; exact hmetrics
    cases fault with
    | exhausted task attempts last =>
      dsimp only
      rw [exec_bind_ok (count_counting counts _ _ _), ← hm]
      rfl
    | refusal r => exact hm
    | mismatch issues => exact hm
    | failure kind message => exact hm
  · have hm : s.telemetry.metrics = m := by rw [hsend] at hmetrics; exact hmetrics
    dsimp only
    cases response.isSuccess with
    | true =>
      rw [if_pos rfl, exec_bind_ok (count_counting counts _ _ _), ← hm]
      rfl
    | false =>
      rw [if_neg Bool.false_ne_true, exec_bind_ok (count_counting counts _ _ _), ← hm]
      rfl

end Client

namespace Call

theorem operation_injective {call other : Call} (h : call.operation = other.operation) :
    call = other := by
  revert h
  cases call <;> cases other <;> decide

end Call

namespace Made

theorem ofInt_ne_word (status : Int) :
    Text.ofInt status ≠ "success" ∧ Text.ofInt status ≠ "transport_error" := by
  have hword : ∀ {c : CodePoint} {word : Text}, c ∈ word → c ≠ '-' → c.isDigit = false →
      Text.ofInt status ≠ word := by
    intro c word hc hminus hdigit heq
    rcases Text.mem_ofInt (heq ▸ hc) with rfl | h
    · exact hminus rfl
    · rw [h] at hdigit
      cases hdigit
  have hs : (('s' : Char) : CodePoint) ∈ ("success" : Text) := List.mem_cons_self
  have ht : (('t' : Char) : CodePoint) ∈ ("transport_error" : Text) := List.mem_cons_self
  exact ⟨hword hs (by decide) rfl, hword ht (by decide) rfl⟩

section Told

variable {client : Client} {v : Made}

theorem outcome_of_error {fault : Fault} (h : v.ending client = .error fault) :
    v.outcome client = "transport_error" := by
  rw [outcome, h]

theorem outcome_of_success {response : Response} (h : v.ending client = .ok response)
    (success : response.isSuccess = true) : v.outcome client = "success" := by
  rw [outcome, h]
  exact if_pos success

theorem outcome_of_status {response : Response} (h : v.ending client = .ok response)
    (failed : response.isSuccess = false) : v.outcome client = Text.ofInt response.status := by
  rw [outcome, h]
  exact if_neg (Bool.eq_false_iff.mp failed)

theorem told_of_error {fault failed : Fault} (h : v.ending client = .error fault)
    (result : v.result = .error failed) : v.Told client := by
  have hwords : ("transport_error" : Text) ≠ "success" := by decide
  refine ⟨?_, fun status => ?_, ?_⟩ <;> rw [outcome_of_error h]
  · exact iff_of_false hwords fun ⟨body, hbody⟩ => by rw [result] at hbody; cases hbody
  · refine iff_of_false (ofInt_ne_word status).2.symm ?_
    rintro ⟨response, hresponse, -⟩
    rw [h] at hresponse
    cases hresponse
  · exact iff_of_true rfl ⟨fault, h⟩

theorem not_error_of_ok {response : Response} (h : v.ending client = .ok response) :
    ¬ ∃ fault, v.ending client = .error fault := by
  rintro ⟨fault, hfault⟩
  rw [h] at hfault
  cases hfault

theorem told_of_success {response : Response} (h : v.ending client = .ok response)
    (success : response.isSuccess = true) {body : Bytes} (result : v.result = .ok body) :
    v.Told client := by
  have hwords : ("success" : Text) ≠ "transport_error" := by decide
  refine ⟨?_, fun status => ?_, ?_⟩ <;> rw [outcome_of_success h success]
  · exact iff_of_true rfl ⟨body, result⟩
  · refine iff_of_false (ofInt_ne_word status).1.symm ?_
    rintro ⟨response', h', failed, -⟩
    obtain rfl := Except.ok.inj (h.symm.trans h')
    rw [success] at failed
    cases failed
  · exact iff_of_false hwords (not_error_of_ok h)

theorem told_of_status {response : Response} (h : v.ending client = .ok response)
    (failed : response.isSuccess = false) {fault : Fault} (result : v.result = .error fault) :
    v.Told client := by
  refine ⟨?_, fun status => ?_, ?_⟩ <;> rw [outcome_of_status h failed]
  · exact iff_of_false (ofInt_ne_word _).1 fun ⟨body, hbody⟩ => by rw [result] at hbody; cases hbody
  · constructor
    · intro hstatus
      exact ⟨response, h, failed, Text.ofInt_injective hstatus⟩
    · rintro ⟨response', h', -, rfl⟩
      obtain rfl := Except.ok.inj (h.symm.trans h')
      rfl
  · exact iff_of_false (ofInt_ne_word _).2 (not_error_of_ok h)

end Told

theorem isDecided_eq_false_iff {client : Client} {v : Made} : v.isDecided client = false ↔
    ∃ fault, v.ending client = .error fault ∧
      ∀ task attempts last, fault ≠ .exhausted task attempts last := by
  unfold isDecided
  rcases v.ending client with fault | response
  · cases fault with
    | exhausted task attempts last => simp
    | _ => simp
  · simp

end Made

namespace Client

variable {client : Client}

theorem made_result (client : Client) (e : Enquiry) (m : Metrics) :
    (client.made e m).result = afterSend e.call ((client.made e m).ending client) :=
  client.perform_exec e.call e.key e.body (e.session m)

theorem afterSend_error (call : Call) (fault : Fault) :
    ∃ failed, afterSend call (.error fault) = .error failed := by
  cases fault <;> exact ⟨_, rfl⟩

theorem afterSend_of_escaping (call : Call) {fault : Fault}
    (h : ∀ task attempts last, fault ≠ .exhausted task attempts last) :
    afterSend call (.error fault) = .error fault := by
  cases fault with
  | exhausted task attempts last => exact absurd rfl (h task attempts last)
  | _ => rfl

theorem made_told (client : Client) (e : Enquiry) (m : Metrics) :
    (client.made e m).Told client := by
  have hresult := client.made_result e m
  cases hending : (client.made e m).ending client with
  | error fault =>
    obtain ⟨failed, hfailed⟩ := afterSend_error e.call fault
    rw [hending, hfailed] at hresult
    exact Made.told_of_error hending hresult
  | ok response =>
    rw [hending] at hresult
    cases hsuccess : response.isSuccess with
    | true => exact Made.told_of_success hending hsuccess (hresult.trans (if_pos hsuccess))
    | false =>
      exact Made.told_of_status hending hsuccess
        (hresult.trans (if_neg (Bool.eq_false_iff.mp hsuccess)))

/-- **What leaves a call undecided**: a fault that escapes from an attempt, or from a pause. -/
theorem made_undecided_iff (client : Client) (e : Enquiry) (m : Metrics) :
    (client.made e m).isDecided client = false ↔
      ∃ fault, (client.made e m).Escapes client fault := by
  have hfails : ∀ fault, (client.made e m).ending client = .error fault ↔
      (client.attempts e.call e.key e.body).Fails (e.session m) fault := fun fault => by
    unfold Made.ending
    rw [send_eq]
    exact Retry.Setting.run_eq_error_iff
  rw [Made.isDecided_eq_false_iff]
  constructor
  · rintro ⟨fault, hending, hunlike⟩
    have hresult := client.made_result e m
    rw [hending, afterSend_of_escaping e.call hunlike] at hresult
    exact ⟨fault, hresult, (hfails fault).mp hending, hunlike⟩
  · rintro ⟨fault, -, hfault, hunlike⟩
    exact ⟨fault, (hfails fault).mpr hfault, hunlike⟩

theorem made_counted_iff (counts : client.counts = true) (e : Enquiry) (m : Metrics) :
    (client.made e m).Counted client ↔ (client.made e m).isDecided client = true := by
  have hmetrics := made_metrics counts e m
  have hbefore : (client.made e m).countsBefore = m.authorityCalls := rfl
  have hafter : (client.made e m).countsAfter =
    (client.made e m).after.telemetry.metrics.authorityCalls := rfl
  have hcall : (client.made e m).call = e.call := rfl
  cases hdecided : (client.made e m).isDecided client with
  | true =>
    rw [hdecided, if_pos rfl] at hmetrics
    refine iff_of_true ⟨fun call => ?_, fun labels => ?_⟩ rfl
    · rw [hafter, hbefore, hmetrics, hcall]
      refine (Counter.totalOf_count _ _ _).trans (congrArg _ (if_congr ?_ rfl rfl))
      rw [List.head?_cons, Option.some_inj]
      exact ⟨fun h => (Call.operation_injective h).symm, fun h => by rw [h]⟩
    · rw [hafter, hbefore, hmetrics, hcall]
      exact Counter.get_count _ _ _
  | false =>
    rw [hdecided, if_neg Bool.false_ne_true] at hmetrics
    refine iff_of_false (fun counted => ?_) Bool.false_ne_true
    have hone := counted.operation e.call
    rw [hafter, hbefore, hmetrics, hcall, if_pos rfl] at hone
    omega

theorem made_totalOf (counts : client.counts = true) (e : Enquiry) (m : Metrics) (call : Call) :
    (client.made e m).after.telemetry.metrics.authorityCalls.totalOf call.operation =
      m.authorityCalls.totalOf call.operation +
        if (client.made e m).call = call ∧ (client.made e m).isDecided client then 1 else 0 := by
  cases hdecided : (client.made e m).isDecided client with
  | true =>
    have hone := ((made_counted_iff counts e m).mpr hdecided).operation call
    refine hone.trans (congrArg _ (if_congr ?_ rfl rfl))
    exact ⟨fun h => ⟨h.symm, rfl⟩, fun h => h.1.symm⟩
  | false =>
    rw [made_metrics counts, hdecided, if_neg Bool.false_ne_true, if_neg (by simp)]
    rfl

/-- **Calls one after another** are counted for their operation as often as they are decided. -/
theorem metricsAfter_totalOf (counts : client.counts = true) (m : Metrics)
    (enquiries : List Enquiry) (call : Call) :
    (client.metricsAfter m enquiries).authorityCalls.totalOf call.operation =
      m.authorityCalls.totalOf call.operation +
        (client.calls m enquiries).countP fun v => v.call = call ∧ v.isDecided client := by
  induction enquiries generalizing m with
  | nil => rfl
  | cons e rest ih =>
    have hrest := ih (client.made e m).after.telemetry.metrics
    have hfirst := made_totalOf counts e m call
    have hafter : client.metricsAfter m (e :: rest) =
      client.metricsAfter (client.made e m).after.telemetry.metrics rest := rfl
    rw [hafter, hrest, hfirst, calls, List.countP_cons]
    simp only [decide_eq_true_eq]
    omega

/-- **Calls of the authority are counted just as far as they are decided.** However many are made,
in whatever sessions: each is counted once, for its operation and under its outcome, exactly if a
response or the end of its attempts decides it. The outcome is success just if the call returned,
a status just if a response with this status and without success ended it, and a failed transport
just if no response did. Of any other call a fault escapes, and no count changes. In all, the counts
of an operation grow by the number of its calls that were decided. -/
theorem calls_are_counted_iff (counts : client.counts = true) (m : Metrics)
    (enquiries : List Enquiry) :
    (∀ v ∈ client.calls m enquiries,
      (v.Counted client ↔ v.isDecided client = true) ∧ v.Told client ∧
      (v.isDecided client = false ↔ ∃ fault, v.Escapes client fault) ∧
      (v.isDecided client = false → v.after.telemetry.metrics = v.before.telemetry.metrics)) ∧
    ∀ call : Call, (client.metricsAfter m enquiries).authorityCalls.totalOf call.operation =
      m.authorityCalls.totalOf call.operation +
        (client.calls m enquiries).countP fun v => v.call = call ∧ v.isDecided client := by
  refine ⟨client.forall_calls (fun e m => ?_) m enquiries, metricsAfter_totalOf counts m enquiries⟩
  refine ⟨made_counted_iff counts e m, client.made_told e m, client.made_undecided_iff e m, ?_⟩
  intro hdecided
  rw [made_metrics counts, hdecided]
  rfl

/-! ### A call that is not counted -/

/-- A client that counts its calls. -/
def countingClient : Client := .standard "http://a" true

/-- A call for a license whose answer cannot be unpacked. -/
def brokenEnquiry : Enquiry := ⟨.license, "K", [], Service.brokenSession⟩

/-- A call for a portal that is not found. -/
def strayEnquiry : Enquiry where
  call := .portal
  key := "K"
  body := []
  found := { Write.lateSession with
    line := { Line.empty with script := [.ok ⟨404, []⟩] } }

/-- Of the two calls, the one for the portal is counted. -/
theorem stray_call_is_counted_alone :
    countingClient.counts = true ∧ ∀ call : Call,
      (countingClient.metricsAfter (.empty "licensing")
        [strayEnquiry, brokenEnquiry]).authorityCalls.totalOf call.operation =
          if call = .portal then 1 else 0 := by
  have counts : countingClient.counts = true := rfl
  have hdecided : ∀ call : Call, ((countingClient.calls (.empty "licensing")
      [strayEnquiry, brokenEnquiry]).countP fun v => v.call = call ∧ v.isDecided countingClient) =
        if call = .portal then 1 else 0 := by
    intro call
    cases call <;> decide +kernel
  refine ⟨counts, fun call => ?_⟩
  rw [(calls_are_counted_iff counts (.empty "licensing") [strayEnquiry, brokenEnquiry]).2 call,
    hdecided]
  exact Nat.zero_add _

/-- A body that cannot be unpacked breaks the call off, and no outcome is counted for it. -/
theorem not_every_call_is_counted :
    ¬ ∀ (client : Client) (m : Metrics) (enquiries : List Enquiry), client.counts = true →
      ∀ v ∈ client.calls m enquiries, v.Counted client := by
  intro counted
  have h := counted countingClient (.empty "licensing") [brokenEnquiry] rfl _ List.mem_cons_self
  have hundecided : (countingClient.made brokenEnquiry (.empty "licensing")).isDecided
      countingClient = false := by
    decide +kernel
  rw [made_counted_iff rfl, hundecided] at h
  exact Bool.false_ne_true h

end Client

end Authority

end Entitlement
