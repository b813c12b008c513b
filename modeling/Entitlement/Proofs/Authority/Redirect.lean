import Entitlement.Authority.Redirect
import Entitlement.Proofs.Json.Strict

/-! # Where an answer leads

`Redirect.Leads` tells the address in an answer of the authority, whatever its bytes are: there is
one for each answer (`exists_leads`, `leads_unique`). It is found unless the answer is nested too
deeply to be read (`ofDocument_cases`). The JSON text of an address that is no text holds no
surrogate; so only an address that is a text may have no form in strict UTF-8
(`Leads.isScalar_or_text`). -/

namespace Entitlement

namespace Redirect

open Json

/-- The value that the bytes of an answer are read as. -/
def reading (answer : Bytes) : Except DocumentFault Json :=
  (Document.bytes answer).read Reader.lenient

/-- **Where an answer leads**: nowhere, if it cannot be read, is no object, or has no address in it;
to the text of the address; to the JSON text of an address that is no text. -/
inductive Leads (answer : Bytes) : Text → Prop where
  | unread {fault : DocumentFault} (h : reading answer = .error fault) : Leads answer []
  | noObject {v : Json} (h : reading answer = .ok v) (hv : ∀ members, v ≠ .object members) :
    Leads answer []
  | missing {members : Members} (h : reading answer = .ok (.object members))
    (none : Members.get? members "url" = none ∨ Members.get? members "url" = some .null) :
    Leads answer []
  | text {members : Members} {url : Text} (h : reading answer = .ok (.object members))
    (some : Members.get? members "url" = some (.string url)) : Leads answer url
  | value {members : Members} {v : Json} (h : reading answer = .ok (.object members))
    (some : Members.get? members "url" = some v) (null : v ≠ .null)
    (text : ∀ url, v ≠ .string url) : Leads answer v.storedText

/-- The answer is nested too deeply to be read. -/
def TooDeep (answer : Bytes) : Prop :=
  ∃ fault, reading answer = .error fault ∧ fault.isDeepNesting = true

variable {answer : Bytes} {url : Text}

theorem ofJson_object {members : Members} : ofJson (.object members) =
    match Members.get? members "url" with
    | none | some .null => []
    | some (.string url) => url
    | some other => other.storedText := rfl

theorem leads_ofJson {v : Json} (h : reading answer = .ok v) : Leads answer (ofJson v) := by
  cases v with
  | object members =>
    rw [ofJson_object]
    cases hurl : Members.get? members "url" with
    | none => exact .missing h (.inl hurl)
    | some v =>
      cases v with
      | null => exact .missing h (.inr hurl)
      | string url => exact .text h hurl
      | _ => exact .value h hurl (by simp) (by simp)
  | _ => exact .noObject h (by simp)

/-- **Every answer leads somewhere**, if only nowhere. -/
theorem exists_leads (answer : Bytes) : ∃ url, Leads answer url := by
  cases h : reading answer with
  | error fault => exact ⟨[], .unread h⟩
  | ok v => exact ⟨_, leads_ofJson h⟩

theorem Leads.eq_ofJson {v : Json} (h : reading answer = .ok v) (leads : Leads answer url) :
    url = ofJson v := by
  cases leads with
  | unread h' => rw [h] at h'; cases h'
  | noObject h' hv =>
    obtain rfl := Except.ok.inj (h.symm.trans h')
    cases v with
    | object members => exact absurd rfl (hv members)
    | _ => rfl
  | missing h' none =>
    obtain rfl := Except.ok.inj (h.symm.trans h')
    rw [ofJson_object]
    rcases none with hurl | hurl <;> rw [hurl]
  | text h' some =>
    obtain rfl := Except.ok.inj (h.symm.trans h')
    rw [ofJson_object, some]
  | @value members w h' some null text =>
    obtain rfl := Except.ok.inj (h.symm.trans h')
    rw [ofJson_object, some]
    cases w with
    | null => exact absurd rfl null
    | string s => exact absurd rfl (text s)
    | _ => rfl

/-- No answer leads to two places. -/
theorem leads_unique {other : Text} (h : Leads answer url) (h' : Leads answer other) :
    url = other := by
  cases hread : reading answer with
  | ok v => rw [h.eq_ofJson hread, h'.eq_ofJson hread]
  | error fault =>
    have hnowhere : ∀ {url : Text}, Leads answer url → url = [] := fun leads => by
      cases leads with
      | unread _ => rfl
      | noObject _ _ => rfl
      | missing _ _ => rfl
      | text h _ => rw [hread] at h; cases h
      | value h _ _ _ => rw [hread] at h; cases h
    rw [hnowhere h, hnowhere h']

theorem ofDocument_read {v : Json} (h : reading answer = .ok v) :
    ofDocument (.bytes answer) = .ok (ofJson v) := by
  unfold reading at h
  rw [ofDocument, h]

theorem ofDocument_unread {fault : DocumentFault} (h : reading answer = .error fault) :
    ofDocument (.bytes answer) =
      if fault.isDeepNesting then .error (.failure Kind.recursion fault.message) else .ok [] := by
  unfold reading at h
  rw [ofDocument, h]

/-- **The address is found** unless the answer is nested too deeply, which ends in a failure of its
own. -/
theorem ofDocument_cases (leads : Leads answer url) :
    (¬ TooDeep answer ∧ ofDocument (.bytes answer) = .ok url) ∨
      (TooDeep answer ∧ ∃ message,
        ofDocument (.bytes answer) = .error (.failure Kind.recursion message)) := by
  cases hread : reading answer with
  | ok v =>
    refine .inl ⟨?_, by rw [ofDocument_read hread, leads.eq_ofJson hread]⟩
    rintro ⟨_, h, _⟩
    rw [hread] at h
    cases h
  | error fault =>
    rw [ofDocument_unread hread]
    cases hdeep : fault.isDeepNesting with
    | true => exact .inr ⟨⟨fault, hread, hdeep⟩, _, rfl⟩
    | false =>
      refine .inl ⟨?_, ?_⟩
      · rintro ⟨other, h, hother⟩
        rw [hread] at h
        rw [Except.error.inj h, hother] at hdeep
        cases hdeep
      · rw [leads_unique leads (.unread hread)]
        rfl

/-- **Only a text that was read may hold a surrogate**; the JSON text of another value does not. -/
theorem Leads.isScalar_or_text (h : Leads answer url) : url.isScalar = true ∨
    ∃ members, reading answer = .ok (.object members) ∧
      Members.get? members "url" = some (.string url) := by
  cases h with
  | unread _ => exact .inl rfl
  | noObject _ _ => exact .inl rfl
  | missing _ _ => exact .inl rfl
  | text h some => exact .inr ⟨_, h, some⟩
  | @value members v _ _ _ _ => exact .inl (isScalar_storedText v)

end Redirect

end Entitlement
