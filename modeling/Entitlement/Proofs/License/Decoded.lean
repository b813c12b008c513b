import Entitlement.License.Payload
import Entitlement.Proofs.Json.Accepted

/-! # Payloads that are decoded

A text is decoded if it is a JSON object, and what is decoded is what the text denotes. Any other
text is refused as unreadable, whatever keeps it from being an object
(`Payload.decodes_just_objects`). The reader can give up because of the nesting instead
(`Payload.Overruns`), which is no fault of the payload. -/

namespace Entitlement

open Json.Grammar

namespace Payload

/-- The payload is nested more deeply than the reader goes. -/
def Overruns (payload : Document) (fault : Fault) : Prop :=
  ∃ f, payload.read Json.Reader.strict = .error f ∧ f.isDeepNesting = true ∧
    fault = .failure Kind.recursion f.message

theorem Overruns.decode {payload : Document} {fault : Fault} (h : Overruns payload fault) :
    Payload.decode payload = .error fault := by
  obtain ⟨f, hread, hdeep, rfl⟩ := h
  unfold Payload.decode
  rw [hread]
  dsimp only
  rw [if_pos hdeep]

/-- **What is not decoded is unreadable**, or nested more deeply than the reader goes. -/
theorem unreadable_or_overruns {payload : Document} {fault : Fault}
    (h : decode payload = .error fault) :
    (∃ reason, fault = unreadable reason) ∨ Overruns payload fault := by
  unfold decode at h
  split at h
  · cases h
  · cases h
    exact .inl ⟨_, rfl⟩
  · next f hread =>
    split at h
    · next hdeep =>
      cases h
      exact .inr ⟨f, hread, hdeep, rfl⟩
    · cases h
      exact .inl ⟨_, rfl⟩

theorem decode_eq_ok_iff {payload : Document} {members : Members} :
    decode payload = .ok members ↔ payload.read Json.Reader.strict = .ok (.object members) := by
  constructor
  · intro h
    unfold decode at h
    split at h
    · next m hread =>
      rw [hread, Except.ok.inj h]
    · cases h
    · split at h <;> cases h
  · intro hread
    unfold decode
    rw [hread]

/-! ### Texts -/

variable {t : Text} {v : Json}

theorem read_text (t : Text) : (Document.text t).read Json.Reader.strict =
    (Json.read Json.Reader.strict t).mapError (.text t) := rfl

theorem decode_text_eq_ok_iff {members : Members} : decode (.text t) = .ok members ↔
    Json.read Json.Reader.strict t = .ok (.object members) := by
  rw [decode_eq_ok_iff, read_text]
  cases Json.read Json.Reader.strict t <;> simp [Except.mapError]

theorem overruns_text_iff :
    (∃ fault, Overruns (.text t) fault) ↔ Json.Reader.Deep (Json.read Json.Reader.strict t) := by
  constructor
  · rintro ⟨fault, f, hread, hdeep, -⟩
    rw [read_text] at hread
    cases htext : Json.read Json.Reader.strict t with
    | ok v =>
      rw [htext] at hread
      cases hread
    | error g =>
      rw [htext] at hread
      rw [← Except.error.inj hread] at hdeep
      exact ⟨g, rfl, hdeep⟩
  · rintro ⟨g, htext, hdeep⟩
    refine ⟨_, .text t g, ?_, hdeep, rfl⟩
    rw [read_text, htext]
    rfl

/-- A text that overruns has more openings than the reader goes deep, and is no JSON text that is
nested no deeper. -/
theorem depthLimit_lt_of_overruns (h : ∃ fault, Overruns (.text t) fault) :
    Json.Reader.depthLimit < openings t ∧
      ¬ ∃ v, Padded (Denotes Scalar Json.Reader.depthLimit) t v := by
  have hdeep := overruns_text_iff.mp h
  refine ⟨Json.read_deep hdeep, ?_⟩
  rintro ⟨v, hpadded⟩
  rcases Json.read_complete (Json.Reader.scalar_leaves Json.Reader.strict) hpadded with hread | ⟨hlt, -⟩
  · obtain ⟨f, hf, -⟩ := hdeep
    rw [hread] at hf
    cases hf
  · exact absurd hlt (Nat.lt_irrefl _)

theorem decode_text_iff_isText {members : Members} : decode (.text t) = .ok members ↔
    IsText t (.object members) ∧ ¬ ∃ fault, Overruns (.text t) fault := by
  constructor
  · intro h
    refine ⟨⟨_, Json.read_sound Json.Reader.scalar_sound (decode_text_eq_ok_iff.mp h)⟩, ?_⟩
    rintro ⟨fault, hoverruns⟩
    rw [hoverruns.decode] at h
    cases h
  · rintro ⟨⟨nested, hpadded⟩, shallow⟩
    rcases Json.read_complete (Json.Reader.scalar_leaves Json.Reader.strict) hpadded with hread | ⟨-, hdeep⟩
    · exact decode_text_eq_ok_iff.mpr hread
    · exact absurd (overruns_text_iff.mpr hdeep) shallow

theorem decode_text_unreadable_iff :
    (∃ reason, decode (.text t) = .error (unreadable reason)) ↔
      (¬ ∃ members, IsText t (.object members)) ∧ ¬ ∃ fault, Overruns (.text t) fault := by
  constructor
  · rintro ⟨reason, h⟩
    have shallow : ¬ ∃ fault, Overruns (.text t) fault := by
      rintro ⟨fault, hoverruns⟩
      have hdecode := hoverruns.decode
      obtain ⟨f, -, -, rfl⟩ := hoverruns
      rw [hdecode] at h
      cases h
    refine ⟨?_, shallow⟩
    rintro ⟨members, htext⟩
    rw [decode_text_iff_isText.mpr ⟨htext, shallow⟩] at h
    cases h
  · rintro ⟨hnot, shallow⟩
    cases h : decode (.text t) with
    | ok members => exact absurd ⟨members, (decode_text_iff_isText.mp h).1⟩ hnot
    | error fault =>
      rcases unreadable_or_overruns h with ⟨reason, rfl⟩ | hoverruns
      · exact ⟨reason, rfl⟩
      · exact absurd ⟨fault, hoverruns⟩ shallow

/-- **A text is decoded just if it is a JSON object**, as the members that it denotes, and any other
text is unreadable, except where the reader gives up because of the nesting. For that a text has
more brackets and braces that open than the reader goes deep, and it is no JSON text that is nested
no deeper. -/
theorem decodes_just_objects (t : Text) :
    (∀ members, decode (.text t) = .ok members ↔
      IsText t (.object members) ∧ ¬ ∃ fault, Overruns (.text t) fault) ∧
    ((∃ reason, decode (.text t) = .error (unreadable reason)) ↔
      (¬ ∃ members, IsText t (.object members)) ∧ ¬ ∃ fault, Overruns (.text t) fault) ∧
    ((∃ fault, Overruns (.text t) fault) → Json.Reader.depthLimit < openings t ∧
      ¬ ∃ v, Padded (Denotes Scalar Json.Reader.depthLimit) t v) :=
  ⟨fun _ => decode_text_iff_isText, decode_text_unreadable_iff, depthLimit_lt_of_overruns⟩

example : (decode (.text "\x7b\"a\": 1, \"b\": \"\\ud83d\\ude00\", \"a\": 2\x7d")).toOption =
    some [(("a" : Text), .int 2), (("b" : Text), .string [0x1F600])] := by
  decide +kernel

end Payload

end Entitlement
