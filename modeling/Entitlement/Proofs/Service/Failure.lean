import Entitlement.Proofs.Authority.Perform
import Entitlement.Proofs.License.Decision
import Entitlement.Proofs.License.Decoded
import Entitlement.Proofs.Service.FailedWrite

/-! # How an activation fails

An activation fails *as documented* (`Service.Documented`) with an internal error that names the
refusal which kept the payload from being fetched or read, or with the fault of the store as it is.
It can fail in three more ways (`Service.Escapes`), each with a fault that is no refusal: the call
of the authority breaks off, the payload is nested more deeply than the reader goes, or the license
is stored and its announcement fails. These are all (`Service.activation_fails_as_documented_iff`).
-/

namespace Entitlement

open Entitlement.Task Entitlement.Outcome

/-! ### Payloads that are not read -/

theorem Payload.Overruns.foreign {payload : Document} {fault : Fault}
    (h : Overruns payload fault) : fault.Foreign := by
  obtain ⟨f, -, -, rfl⟩ := h
  trivial

namespace License

open Payload

theorem parse_error_cases {payload : Document} {organization : Uuid} {catalog : Catalog}
    {now : DateTime} {fault : Fault} (h : parse payload organization catalog now = .error fault) :
    (∃ r, fault = .refusal r) ∨ Overruns payload fault := by
  unfold parse at h
  rcases bind_eq_error_iff.mp h with hdecode | ⟨members, -, h⟩
  · refine (unreadable_or_overruns hdecode).imp_left ?_
    rintro ⟨reason, rfl⟩
    exact ⟨_, rfl⟩
  · obtain ⟨r, -, rfl⟩ := firstUnmet_of_error h
    exact .inl ⟨_, rfl⟩

theorem parse_of_overruns {payload : Document} {fault : Fault} (h : Overruns payload fault)
    (organization : Uuid) (catalog : Catalog) (now : DateTime) :
    parse payload organization catalog now = .error fault := by
  rw [parse, h.decode]
  rfl

end License

/-! ### The ways an activation fails -/

namespace Fault

/-- An internal error whose details hold the text and the code of a refusal. -/
def NamesCause (message : Text) (cause : Refusal) (fault : Fault) : Prop :=
  ∃ details, fault = .refusal ⟨.internal, message, details⟩ ∧
    Members.get? details "cause" = some (.string cause.message) ∧
    Members.get? details "cause_code" = some (.string cause.code)

end Fault

namespace Service

theorem wrapRefusal_names (message : Text) (cause : Refusal) :
    (wrapRefusal message (.refusal cause)).NamesCause message cause :=
  ⟨_, rfl, rfl, rfl⟩

theorem wrapRefusal_foreign (message : Text) {fault : Fault} (h : fault.Foreign) :
    wrapRefusal message fault = fault := by
  cases fault with
  | refusal r => exact h.elim
  | exhausted _ _ _ => rfl
  | mismatch _ => rfl
  | failure _ _ => rfl

def fetchMessage : Text := "unable to fetch license data with upstream server"

def parseMessage : Text := "failed to create license entity"

variable (service : Service) (organization : Uuid) (key : Text) (s : Session)

/-- How an activation is documented to fail. -/
inductive Documented : Fault → Prop where
  /-- The call of the authority is refused, and the fault names the refusal. -/
  | unfetched {cause : Refusal} {fault : Fault}
    (fetched : ((service.client.fetchLicense key).exec s).1 = .error (.refusal cause))
    (names : fault.NamesCause fetchMessage cause) : Documented fault
  /-- The payload is refused, and the fault names the refusal. -/
  | unread {payload : Bytes} {s₁ : Session} {cause : Refusal} {fault : Fault}
    (fetched : (service.client.fetchLicense key).exec s = (.ok payload, s₁))
    (parsed : License.parse (.bytes payload) organization service.catalog s₁.environment.utc =
      .error (.refusal cause))
    (names : fault.NamesCause parseMessage cause) : Documented fault
  /-- The store does not take the license, and its fault is left as it is. -/
  | unstored {l : License} {s₁ : Session} {fault : Fault}
    (drafted : ((Write.activate organization key).draft service).exec s = (.ok l, s₁))
    (created : ((Store.create l.stored).exec s₁).1 = .error fault) : Documented fault

/-- How an activation fails beyond what is documented. -/
inductive Escapes : Fault → Prop where
  /-- The call of the authority breaks off. -/
  | fetch {fault : Fault} (breaks : service.client.Breaks .license key [] s fault) : Escapes fault
  /-- The payload is nested more deeply than the reader goes. -/
  | parse {payload : Bytes} {s₁ : Session} {fault : Fault}
    (fetched : (service.client.fetchLicense key).exec s = (.ok payload, s₁))
    (overruns : Payload.Overruns (.bytes payload) fault) : Escapes fault
  /-- The license is stored, and the end of its free period has no moment in UTC. -/
  | announce {l : License} (stores : Write.Stores service (.activate organization key) s l)
    (late : l.terms.freeUntil.toUtc? = none) : Escapes lateFault

variable {service organization key s}

theorem Escapes.foreign {fault : Fault} (h : Escapes service organization key s fault) :
    fault.Foreign := by
  cases h with
  | fetch breaks => exact breaks.foreign
  | parse _ overruns => exact overruns.foreign
  | announce _ _ => trivial

/-! ### The draft of an activation -/

theorem draft_of_unfetched {fault : Fault}
    (h : ((service.client.fetchLicense key).exec s).1 = .error fault) :
    (((Write.activate organization key).draft service).exec s).1 =
      .error (wrapRefusal fetchMessage fault) := by
  have hw : ((wrapping fetchMessage (service.client.fetchLicense key)).exec s).1 =
      .error (wrapRefusal fetchMessage fault) := by
    rw [wrapping_exec, h]
    rfl
  exact congrArg Prod.fst (exec_bind_error (Prod.ext hw rfl) _)

theorem draft_of_fetched {payload : Bytes} {s₁ : Session}
    (h : (service.client.fetchLicense key).exec s = (.ok payload, s₁)) :
    ((Write.activate organization key).draft service).exec s =
      ((License.parse (.bytes payload) organization service.catalog s₁.environment.utc).mapError
        (wrapRefusal parseMessage), s₁) := by
  have hw : (wrapping fetchMessage (service.client.fetchLicense key)).exec s = (.ok payload, s₁) := by
    rw [wrapping_exec, h]
    rfl
  refine (exec_bind_ok hw _).trans ?_
  rw [Act.exec_now_bind, wrapping_exec]
  rfl

/-- **A draft fails as documented, or with a fault that escapes.** -/
theorem draft_error_cases {fault : Fault}
    (h : (((Write.activate organization key).draft service).exec s).1 = .error fault) :
    Documented service organization key s fault ∨ Escapes service organization key s fault := by
  rcases hf : (service.client.fetchLicense key).exec s with ⟨failed | payload, s₁⟩
  · have hfetch := congrArg Prod.fst hf
    rw [draft_of_unfetched hfetch] at h
    obtain rfl := Except.error.inj h
    rcases Authority.Client.perform_error_cases hfetch with ⟨cause, rfl⟩ | breaks
    · exact .inl (.unfetched hfetch (wrapRefusal_names fetchMessage cause))
    · rw [wrapRefusal_foreign fetchMessage breaks.foreign]
      exact .inr (.fetch breaks)
  · rw [draft_of_fetched hf] at h
    cases hp : License.parse (.bytes payload) organization service.catalog s₁.environment.utc with
    | error failed =>
      rw [hp] at h
      obtain rfl := Except.error.inj h
      rcases License.parse_error_cases hp with ⟨cause, rfl⟩ | overruns
      · exact .inl (.unread hf hp (wrapRefusal_names parseMessage cause))
      · rw [wrapRefusal_foreign parseMessage overruns.foreign]
        exact .inr (.parse hf overruns)
    | ok l =>
      rw [hp] at h
      cases h

/-! ### The whole activation -/

theorem activate_of_undrafted {fault : Fault}
    (h : (((Write.activate organization key).draft service).exec s).1 = .error fault) :
    ((service.activate organization key).exec s).1 = .error fault := by
  have hact := Write.act_eq service (.activate organization key)
  dsimp only [Write.act] at hact
  rw [hact, exec_bind_error (Prod.ext h rfl)]

theorem activate_of_unstored {l : License} {s₁ : Session} {fault : Fault}
    (drafted : ((Write.activate organization key).draft service).exec s = (.ok l, s₁))
    (h : ((Store.create l.stored).exec s₁).1 = .error fault) :
    ((service.activate organization key).exec s).1 = .error fault := by
  have hact := Write.act_eq service (.activate organization key)
  dsimp only [Write.act, Write.record] at hact
  rw [hact, exec_bind_ok drafted, exec_bind_error (Prod.ext h rfl)]

theorem activate_of_stores {l : License}
    (h : Write.Stores service (.activate organization key) s l) :
    ((service.activate organization key).exec s).1 = l.stats.map fun _ => l := by
  have hact := Write.act_eq service (.activate organization key)
  dsimp only [Write.act] at hact
  rw [hact, exec_bind_ok (Prod.ext h.drafted rfl), exec_bind_ok (Prod.ext h.recorded rfl),
    exec_bind_return, (announce_exec _ _ l _).1]
  cases l.stats <;> rfl

/-- **An activation fails as documented, or with a fault that escapes.** -/
theorem activate_error_cases {fault : Fault}
    (h : ((service.activate organization key).exec s).1 = .error fault) :
    Documented service organization key s fault ∨ Escapes service organization key s fault := by
  rcases hd : ((Write.activate organization key).draft service).exec s with ⟨failed | l, s₁⟩
  · have hdraft := congrArg Prod.fst hd
    rw [activate_of_undrafted hdraft] at h
    obtain rfl := Except.error.inj h
    exact draft_error_cases hdraft
  · rcases hc : ((Store.create l.stored).exec s₁).1 with failed | u
    · rw [activate_of_unstored hd hc] at h
      obtain rfl := Except.error.inj h
      exact .inl (.unstored hd hc)
    · have stores : Write.Stores service (.activate organization key) s l :=
        ⟨congrArg Prod.fst hd, by rw [hd]; exact hc⟩
      rw [activate_of_stores stores] at h
      rcases stats_cases l with ⟨-, stats, hstats⟩ | ⟨late, hstats⟩
      · rw [hstats] at h
        cases h
      · rw [hstats] at h
        obtain rfl := Except.error.inj h
        exact .inr (.announce stores late)

/-- A fault escapes from the draft, or from the announcement of a license that is stored. -/
theorem Escapes.cases {fault : Fault} (h : Escapes service organization key s fault) :
    (((Write.activate organization key).draft service).exec s).1 = .error fault ∨
    ∃ l, Write.Stores service (.activate organization key) s l ∧ l.stats = .error fault := by
  cases h with
  | fetch breaks =>
    left
    rw [draft_of_unfetched (Authority.Client.perform_of_breaks breaks),
      wrapRefusal_foreign fetchMessage breaks.foreign]
  | parse fetched overruns =>
    left
    rw [draft_of_fetched fetched, License.parse_of_overruns overruns]
    exact congrArg Except.error (wrapRefusal_foreign parseMessage overruns.foreign)
  | announce stores late =>
    right
    refine ⟨_, stores, ?_⟩
    rcases stats_cases _ with ⟨hsome, -⟩ | ⟨-, hstats⟩
    · rw [late] at hsome
      cases hsome
    · exact hstats

theorem Escapes.fails {fault : Fault} (h : Escapes service organization key s fault) :
    ((service.activate organization key).exec s).1 = .error fault := by
  rcases h.cases with hdraft | ⟨l, stores, hstats⟩
  · exact activate_of_undrafted hdraft
  · rw [activate_of_stores stores, hstats]
    rfl

theorem Escapes.not_documented {fault : Fault} (h : Escapes service organization key s fault) :
    ¬ Documented service organization key s fault := by
  intro documented
  -- An internal error is no foreign fault; a fault of the store would need a draft not yet stored.
  cases documented with
  | unfetched _ names =>
    obtain ⟨details, rfl, -, -⟩ := names
    exact h.foreign
  | unread _ _ names =>
    obtain ⟨details, rfl, -, -⟩ := names
    exact h.foreign
  | unstored drafted created =>
    rcases h.cases with hdraft | ⟨l', stores, -⟩
    · rw [drafted] at hdraft
      cases hdraft
    · have hl := stores.drafted
      have hr := stores.recorded
      rw [drafted] at hl hr
      obtain rfl := Except.ok.inj hl
      have hcreate := created.symm.trans hr
      cases hcreate

variable (service organization key s) in
/-- **When an activation fails only as documented.** An activation that fails does so as documented
if and only if no fault escapes; and a fault that escapes is what the activation fails with, and is
no refusal. -/
theorem activation_fails_as_documented_iff :
    ((∀ fault, ((service.activate organization key).exec s).1 = .error fault →
        Documented service organization key s fault) ↔
      ∀ fault, ¬ Escapes service organization key s fault) ∧
    ∀ fault, Escapes service organization key s fault →
      ((service.activate organization key).exec s).1 = .error fault ∧ fault.Foreign := by
  refine ⟨⟨fun documented fault h => ?_, fun harmless fault h => ?_⟩, fun fault h => ?_⟩
  · exact h.not_documented (documented fault h.fails)
  · rcases activate_error_cases h with documented | escapes
    · exact documented
    · exact absurd escapes (harmless fault)
  · exact ⟨h.fails, h.foreign⟩

/-! ### An activation whose fault escapes -/

/-- The body of a response that cannot be unpacked. -/
def brokenBody : Fault := .failure (Kind.ofTransportName "DecodingError") "bad gzip"

/-- A session on an empty table whose authority answers with such a body. -/
def brokenSession : Session :=
  { Write.lateSession with line := { Line.empty with script := [.error brokenBody] } }

theorem plainService_sendable :
    Write.plainService.client.isSendable .license ("K" : Text) [] = true := by
  decide +kernel

theorem brokenBody_untried : brokenBody.isOneOf [Kind.transportFamily] = false := by
  decide +kernel

theorem brokenBody_breaks :
    Write.plainService.client.Breaks .license ("K" : Text) [] brokenSession brokenBody := by
  obtain ⟨request, hexec⟩ := Authority.Client.sendOnce_exec plainService_sendable brokenSession
  exact .attempt .first (congrArg Prod.fst hexec) brokenBody_untried trivial

/-- A body that cannot be unpacked is neither tried again nor wrapped: the activation fails with the
fault of the client as it is. -/
theorem not_every_activation_fails_as_documented :
    ¬ ∀ (service : Service) (organization : Uuid) (key : Text) (s : Session) (fault : Fault),
      ((service.activate organization key).exec s).1 = .error fault →
        Documented service organization key s fault := by
  intro documented
  have escapes : Escapes Write.plainService .nil ("K" : Text) brokenSession brokenBody :=
    .fetch brokenBody_breaks
  exact escapes.not_documented (documented _ _ _ _ _ escapes.fails)

end Service

end Entitlement
