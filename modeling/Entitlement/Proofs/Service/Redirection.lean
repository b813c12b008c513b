import Entitlement.Proofs.Authority.Redirect
import Entitlement.Proofs.Service.Billing
import Entitlement.Proofs.Session.Blind

/-! # Billing sessions that the authority answers

A billing session is answered if a license is handed out, its request can be written, and the
attempts of the call come to a response (`Service.Answers`). A response with success is all that the
opening of the session depends on: the redirection leads where its body leads, unless that is nested
too deeply (`Service.openSession_of_answers`). -/

namespace Entitlement

open Entitlement.Task Authority.Client

namespace Service

open Session (SameWorld)

/-- A license is handed out to the organization, and the authority answers the call with its key
with the response, at the first attempt or at a later one. -/
def Answers (service : Service) (call : Authority.Call) (organization : Uuid)
    (subscription : Subscription) (s : Session) (response : Response) : Prop :=
  ∃ license body, ((service.active organization).exec s).1 = .ok license ∧
    subscription.body = .ok body ∧
    ((service.client.send call license.key body).exec s).1 = .ok response

theorem send_of_script {client : Authority.Client} {call : Authority.Call} {key : Text}
    {body : Bytes} (sendable : client.isSendable call key body = true) {s : Session}
    {response : Response} {rest : List (Except Fault Response)}
    (script : s.line.script = .ok response :: rest) :
    ((client.send call key body).exec s).1 = .ok response := by
  obtain ⟨request, hexec⟩ := sendOnce_exec sendable s
  have hfirst : ((s.line.connect client.timeout).exchange request).1 = .ok response := by
    unfold Line.exchange Line.connect
    dsimp only
    rw [script]
  rw [hfirst] at hexec
  exact Retry.Setting.loop_exec_ok hexec

/-- **What becomes of an answer** with success depends on its body alone. -/
theorem openSession_of_answers {service : Service} {call : Authority.Call} {organization : Uuid}
    {subscription : Subscription} {s : Session} {response : Response}
    (answers : service.Answers call organization subscription s response)
    (success : response.isSuccess = true) {t : Session} (same : SameWorld s t)
    (database : t.database = s.database) :
    ((service.openSession call organization subscription).exec t).1 =
      (Redirect.ofDocument (.bytes response.body)).map Redirection.mk := by
  obtain ⟨license, body, hactive, hbody, hsend⟩ := answers
  have hresult : ((service.active organization).exec t).1 = .ok license := by
    rw [← hactive, (service.active_exec organization t).1, (service.active_exec organization s).1,
      database, same.environment]
  have hleft : SameWorld t ((service.active organization).exec t).2 :=
    service.active_keeps organization (fun _ _ => ⟨rfl, rfl⟩) (fun _ _ => ⟨rfl, rfl⟩)
      (fun _ _ => ⟨rfl, rfl⟩) t
  rcases hrun : (service.active organization).exec t with ⟨fault | l, t₁⟩
  · rw [hrun] at hresult
    cases hresult
  · rw [hrun] at hresult hleft
    obtain rfl : l = license := Except.ok.inj hresult
    have hsent : ((service.client.send call l.key body).exec t₁).1 = .ok response := by
      rw [← hsend]
      exact ((service.client.send_blind call l.key body) s t₁ (IsTrans.trans _ _ _ same hleft)).1.symm
    have hperform : ((service.client.perform call l.key body).exec t₁).1 = .ok response.body := by
      rw [perform_exec, hsent]
      exact if_pos success
    rw [openSession_of_active hrun hbody]
    rcases hanswer : (service.client.perform call l.key body).exec t₁ with ⟨fault | answer, t₂⟩
    · rw [hanswer] at hperform
      cases hperform
    · rw [hanswer] at hperform
      obtain rfl : answer = response.body := Except.ok.inj hperform
      rw [exec_bind_ok hanswer, redirected, exec_ofExcept_bind]
      cases Redirect.ofDocument (.bytes response.body) <;> rfl

end Service

end Entitlement
