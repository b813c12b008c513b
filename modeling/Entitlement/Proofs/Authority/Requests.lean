import Entitlement.Proofs.Authority.Perform
import Entitlement.Proofs.Session.Keeps
import Entitlement.Proofs.Url.Path

/-! # The requests that a call sends

An attempt sends the request of its call once, or nothing where the call has no address or a header
cannot be written (`Client.outgoing?`, `Client.sendOnce_sends`). Pauses and records send nothing, so
all requests of a call are that one (`Retry.Setting.run_sends`, `Client.perform_sends`). Under the
standard header it carries the key, goes to the path of the call, and is sent where the key is ASCII
and the host can be named (`Client.perform_carries`). -/

namespace Entitlement

open Entitlement.Task

/-- These requests have been sent since, and no other ones. -/
def Session.Sends (requests : List Request) (s s' : Session) : Prop :=
  s'.line.sent = s.line.sent ++ requests

namespace Session.Sends

variable {s s' s'' : Session} {requests first behind : List Request}

theorem of_sent (h : s'.line.sent = s.line.sent) : Sends [] s s' := by
  rw [Sends, List.append_nil, h]

theorem append (h : Sends first s s') (h' : Sends behind s' s'') :
    Sends (first ++ behind) s s'' := by
  rw [Sends, h', h, List.append_assoc]

theorem silent (h : Sends requests s s') (h' : Sends [] s' s'') : Sends requests s s'' :=
  List.append_nil requests ▸ h.append h'

instance : IsPreorder Session (Sends []) where
  refl _ := of_sent rfl
  trans _ _ _ h h' := h.append h'

end Session.Sends

open Session (Sends)

/-- The act sends nothing, whatever comes of it. -/
abbrev Act.Silent {α : Type} (act : Act α) : Prop := Act.Keeps (Sends []) act

theorem Act.log_silent (logger : Text) (level : Log.Level) (event : Text) (fields : Members) :
    Act.Silent (Act.log logger level event fields) := .of_log fun _ => .of_sent rfl

theorem Act.record_silent (f : Metrics → Metrics) : Act.Silent (Act.record f) :=
  .of_record fun _ => .of_sent rfl

theorem Session.Sends.bind_silent {α β : Type} {requests : List Request} {s : Session}
    {act : Act α} {next : α → Act β} (h : Sends requests s (act.exec s).2)
    (silent : ∀ a, Act.Silent (next a)) : Sends requests s ((act >>= next).exec s).2 := by
  rcases hr : act.exec s with ⟨fault | a, s'⟩
  · rw [hr] at h
    rw [exec_bind_error hr]
    exact h
  · rw [hr] at h
    rw [exec_bind_ok hr]
    exact h.silent (silent a s')

/-! ### Trying again -/

namespace Retry.Setting

variable {α : Type} {setting : Setting Session α} (hooks : setting.hooks = .session)

include hooks

theorem pause_silent (number : Nat) (fault : Fault) : Act.Silent (setting.pause number fault) :=
  pause_keeps hooks (fun _ _ => .of_sent rfl) (fun _ _ => .of_sent rfl) number fault

theorem succeeded_silent (number : Nat) (a : α) : Act.Silent (setting.succeeded number a) :=
  succeeded_keeps hooks (fun _ _ => .of_sent rfl) number a

theorem exhausted_silent (number : Nat) (fault : Fault) :
    Act.Silent (setting.exhausted number fault) :=
  exhausted_keeps hooks (fun _ _ => .of_sent rfl) number fault

/-- An attempt sends once; then the loop ends, or goes on with the attempts that are left. -/
theorem loop_step {sending : List Request} (sends : Act.Keeps (Sends sending) setting.task)
    (left number : Nat) (s : Session) :
    Sends sending s ((setting.loop left number).exec s).2 ∨
      ∃ left' s', left = left' + 1 ∧ Sends sending s s' ∧
        (setting.loop left number).exec s = (setting.loop left' (number + 1)).exec s' := by
  have hsends := sends s
  rcases ht : setting.task.exec s with ⟨fault | a, s₁⟩
  · rw [ht] at hsends
    cases hr : fault.isOneOf setting.families with
    | false =>
      rw [loop_exec_untried ht hr]
      exact .inl hsends
    | true =>
      cases left with
      | zero =>
        rw [loop_exec_exhausted ht hr]
        exact .inl (hsends.silent (exhausted_silent hooks number fault s₁))
      | succ left =>
        have hpause := pause_silent hooks number fault s₁
        rw [loop_exec_again ht hr]
        rcases hp : (setting.pause number fault).exec s₁ with ⟨pausing | u, s₂⟩
        · rw [hp] at hpause
          rw [exec_bind_error hp]
          exact .inl (hsends.silent hpause)
        · rw [hp] at hpause
          exact .inr ⟨left, s₂, rfl, hsends.silent hpause, exec_bind_ok hp _⟩
  · rw [ht] at hsends
    rw [loop_exec_succeeded ht]
    exact .inl (hsends.silent (succeeded_silent hooks number a s₁))

theorem loop_sends {sending : List Request} (sends : Act.Keeps (Sends sending) setting.task)
    (left number : Nat) (s : Session) :
    ∃ k, 0 < k ∧ k ≤ left + 1 ∧
      Sends (List.replicate k sending).flatten s ((setting.loop left number).exec s).2 := by
  induction left generalizing number s with
  | zero =>
    rcases loop_step hooks sends 0 number s with hsends | ⟨left', s', hleft, -⟩
    · exact ⟨1, Nat.one_pos, Nat.le_refl 1, by simpa using hsends⟩
    · cases hleft
  | succ left ih =>
    rcases loop_step hooks sends (left + 1) number s with hsends | ⟨left', s', hleft, hsends, he⟩
    · exact ⟨1, Nat.one_pos, Nat.le_add_left 1 _, by simpa using hsends⟩
    · obtain rfl : left = left' := Nat.succ.inj hleft
      obtain ⟨k, -, hk, hrest⟩ := ih (number + 1) s'
      refine ⟨k + 1, Nat.succ_pos k, by omega, ?_⟩
      rw [he, List.replicate_succ, List.flatten_cons]
      exact hsends.append hrest

theorem run_sends {sending : List Request} (sends : Act.Keeps (Sends sending) setting.task)
    (s : Session) :
    ∃ k, 0 < k ∧ k ≤ setting.policy.limit ∧
      Sends (List.replicate k sending).flatten s (setting.run.exec s).2 := by
  obtain ⟨k, hpos, hk, h⟩ := loop_sends hooks sends (setting.policy.limit - 1) 1 s
  have hlimit : 0 < setting.policy.limit := by
    unfold Policy.limit
    omega
  exact ⟨k, hpos, by omega, h⟩

end Retry.Setting

/-! ### One call -/

namespace Authority.Client

variable {client : Client} {call : Call} {key : Text} {body : Bytes}

/-- The request that an attempt sends, if it sends one. -/
def outgoing? (client : Client) (call : Call) (key : Text) (body : Bytes) : Option Request :=
  match client.address call with
  | .ok url =>
    let request := client.request url call key body
    if (client.checkHeaders url request).isOk then some request else none
  | .error _ => none

/-- There is an address for the call, and a request can name its host. -/
def Reaches (client : Client) (call : Call) : Prop :=
  ∃ url, client.address call = .ok url ∧ url.checkHost = .ok ()

/-- The request of a call under the standard header: the method and the path of the call, the key in
the header, and the body. The path is the end of the address, as far as the base allows. -/
structure Carries (client : Client) (call : Call) (key : Text) (body : Bytes) (request : Request) :
    Prop where
  method : request.method = call.method
  url : ∃ url, client.address call = .ok url ∧ request.url = url.text ∧
    (Url.Stem client.baseUrl → call.path <:+ url.path ∧ url.query = none ∧ url.fragment = none)
  key : request.key = key
  contentType : request.contentType = jsonType
  body : request.body = body

theorem path_fixed (call : Call) :
    ∃ rest, call.path = ('/' : CodePoint) :: rest ∧ Url.Fixed rest := by
  refine ⟨call.path.tail, by cases call <;> rfl, fun c hc => ?_, by cases call <;> decide, ?_,
    by cases call <;> decide⟩
  · cases call <;> cases hc <;> decide
  · cases call <;> exact List.all_eq_true.mp rfl

/-- A client that is made for an address without query and fragment has no slash at its end. -/
theorem stem_make {baseUrl : Text} (marks : ∀ c ∈ baseUrl, c ≠ '?' ∧ c ≠ '#') (timeout : Binary64)
    (policy : Retry.Policy) (keyHeader : Text) (counts : Bool) :
    Url.Stem (make baseUrl timeout policy keyHeader counts).baseUrl := by
  have hbase : (make baseUrl timeout policy keyHeader counts).baseUrl =
      (baseUrl.reverse.dropWhile fun c : CodePoint => c = '/').reverse := rfl
  rw [hbase]
  refine ⟨fun c hc => marks c ?_, fun hlast => ?_⟩
  · exact List.mem_reverse.mp ((List.dropWhile_sublist _).subset (List.mem_reverse.mp hc))
  · have hhead := List.head?_dropWhile_not (fun c : CodePoint => c = '/') baseUrl.reverse
    rw [List.getLast?_reverse] at hlast
    rw [hlast] at hhead
    simp at hhead

theorem address_path (stem : Url.Stem client.baseUrl) {url : Url}
    (h : client.address call = .ok url) :
    call.path <:+ url.path ∧ url.query = none ∧ url.fragment = none := by
  obtain ⟨rest, hpath, fixed⟩ := path_fixed call
  obtain ⟨whole, hread, h⟩ := Outcome.bind_eq_ok_iff.mp h
  rw [hpath] at hread ⊢
  obtain ⟨bare, hends⟩ := Url.read_path stem fixed hread
  have hurl := Except.ok.inj h
  split at hurl
  · next habsolute =>
    subst hurl
    have hhost : whole.host ≠ [] := of_decide_eq_true (Bool.and_eq_true_iff.mp habsolute).2
    exact ⟨hends.resolve_right fun hlost => hhost hlost.1, bare.query, bare.fragment⟩
  · subst hurl
    obtain ⟨hsuffix, hquery⟩ := Url.localPart_path fixed bare (hends.imp_right And.right)
    exact ⟨hsuffix, hquery, rfl⟩

theorem headerValues_standard (standard : client.keyHeader = standardKeyHeader) (key : Text) :
    client.headerValues key = (key, jsonType) := by
  rw [headerValues, standard]
  rfl

/-- Under the standard header, the key has to be ASCII and the host one that can be named. -/
theorem checkHeaders_isOk (standard : client.keyHeader = standardKeyHeader) (url : Url) :
    (client.checkHeaders url (client.request url call key body)).isOk = true ↔
      (∀ c ∈ key, c.isAscii = true) ∧ url.checkHost = .ok () := by
  have hheader : standardKeyHeader.asciiObstacle? = none := rfl
  have hhost : standardKeyHeader.lowerAscii ≠ hostHeader.lowerAscii := by decide
  rw [← Text.asciiObstacle?_eq_none_iff]
  unfold checkHeaders request
  rw [headerValues_standard standard, standard]
  simp only [List.findSome?_cons, List.findSome?_nil, hheader, if_neg hhost]
  cases key.asciiObstacle? with
  | none =>
    dsimp only
    rcases url.checkHost with fault | u
    · exact ⟨nofun, fun h => nomatch h.2⟩
    · exact ⟨fun _ => ⟨rfl, rfl⟩, fun _ => rfl⟩
  | some message => exact ⟨nofun, fun h => nomatch h.1⟩

/-- **What is sent, and when**: the key has to be ASCII and the host one that can be named. -/
theorem outgoing?_cases (standard : client.keyHeader = standardKeyHeader) (call : Call)
    (key : Text) (body : Bytes) :
    ((∀ c ∈ key, c.isAscii = true) ∧ client.Reaches call ∧
      ∃ request, client.outgoing? call key body = some request ∧
        client.Carries call key body request) ∨
      ¬ ((∀ c ∈ key, c.isAscii = true) ∧ client.Reaches call) ∧
        client.outgoing? call key body = none := by
  unfold outgoing?
  rcases haddress : client.address call with fault | url
  · refine .inr ⟨fun ⟨_, url, h, _⟩ => ?_, rfl⟩
    rw [haddress] at h
    cases h
  · dsimp only
    by_cases hok : (client.checkHeaders url (client.request url call key body)).isOk = true
    · obtain ⟨hkey, hhost⟩ := (checkHeaders_isOk standard url).mp hok
      rw [if_pos hok]
      refine .inl ⟨hkey, ⟨url, haddress, hhost⟩, _, rfl, ?_⟩
      unfold request
      rw [headerValues_standard standard]
      exact ⟨rfl, ⟨url, haddress, rfl, fun stem => address_path stem haddress⟩, rfl, rfl, rfl⟩
    · rw [if_neg hok]
      refine .inr ⟨fun ⟨hkey, url', h, hhost⟩ => hok ?_, rfl⟩
      rw [haddress] at h
      obtain rfl := Except.ok.inj h
      exact (checkHeaders_isOk standard url).mpr ⟨hkey, hhost⟩

theorem exchange_sent (line : Line) (request : Request) :
    (line.exchange request).2.sent = line.sent ++ [request] := by
  unfold Line.exchange
  dsimp only
  split <;> rfl

theorem sendOnce_sends (client : Client) (call : Call) (key : Text) (body : Bytes) :
    Act.Keeps (Sends (client.outgoing? call key body).toList) (client.sendOnce call key body) := by
  intro s
  unfold sendOnce outgoing?
  rw [exec_bind, exec_modify]
  dsimp only
  cases client.address call with
  | error fault =>
    rw [exec_ofExcept_bind]
    exact .of_sent rfl
  | ok url =>
    rw [exec_ofExcept_bind]
    dsimp only
    cases client.checkHeaders url (client.request url call key body) with
    | error fault =>
      rw [exec_ofExcept_bind]
      exact .of_sent rfl
    | ok u =>
      rw [exec_ofExcept_bind]
      dsimp only
      have hsent := exchange_sent (s.line.connect client.timeout) (client.request url call key body)
      rw [exec_bind, exec_step]
      dsimp only
      generalize (s.line.connect client.timeout).exchange (client.request url call key body) =
        answer at hsent
      rcases answer with ⟨fault | response, line⟩
      · exact hsent
      · dsimp only
        by_cases hscheme : url.scheme = []
        · rw [if_pos hscheme]
          exact hsent
        · rw [if_neg hscheme]
          exact hsent

theorem count_silent (client : Client) (call : Call) (outcome : Text) :
    Act.Silent (client.count call outcome) := by
  unfold count
  split
  · exact Act.record_silent _
  · exact .of_pure ()

/-- **All requests of a call are the same one**, at most as many as the policy grants attempts. -/
theorem perform_sends (client : Client) (call : Call) (key : Text) (body : Bytes) (s : Session) :
    ∃ k, 0 < k ∧ k ≤ client.policy.limit ∧
      Sends (List.replicate k (client.outgoing? call key body).toList).flatten s
        ((client.perform call key body).exec s).2 := by
  have hattempts : (client.attempts call key body).hooks = .session := rfl
  obtain ⟨k, hpos, hk, hsends⟩ :=
    Retry.Setting.run_sends hattempts (client.sendOnce_sends call key body) s
  refine ⟨k, hpos, hk, ?_⟩
  rw [← send_eq] at hsends
  have houtcome : Sends (List.replicate k (client.outgoing? call key body).toList).flatten s
      ((client.send call key body).outcome.exec s).2 := hsends
  unfold perform
  refine houtcome.bind_silent fun outcome => ?_
  rcases outcome with fault | response
  · cases fault with
    | exhausted name attempts last =>
      exact (client.count_silent call _).bind fun _ =>
        (Act.log_silent _ _ _ _).bind fun _ => .of_throw _
    | refusal r => exact .of_throw _
    | mismatch issues => exact .of_throw _
    | failure kind message => exact .of_throw _
  · dsimp only
    split
    · exact (client.count_silent call _).bind fun _ => .of_pure _
    · exact (client.count_silent call _).bind fun _ =>
        (Act.log_silent _ _ _ _).bind fun _ => .of_throw _

/-- **What a call sends** under the standard header: the request of the call, once for each attempt,
or nothing. -/
theorem perform_carries (standard : client.keyHeader = standardKeyHeader) (call : Call)
    (key : Text) (body : Bytes) (s : Session) :
    let s' := ((client.perform call key body).exec s).2
    ((∀ c ∈ key, c.isAscii = true) ∧ client.Reaches call ∧ ∃ k request, 0 < k ∧
      k ≤ client.policy.limit ∧ client.Carries call key body request ∧
      Sends (List.replicate k request) s s') ∨
    ¬ ((∀ c ∈ key, c.isAscii = true) ∧ client.Reaches call) ∧ Sends [] s s' := by
  intro s'
  obtain ⟨k, hpos, hk, hsends⟩ := client.perform_sends call key body s
  rcases outgoing?_cases standard call key body with
    ⟨hkey, hreaches, request, hout, carries⟩ | ⟨hnot, hout⟩
  · rw [hout, Option.toList_some, List.flatten_replicate_singleton] at hsends
    exact .inl ⟨hkey, hreaches, k, request, hpos, hk, carries, hsends⟩
  · rw [hout, Option.toList_none, List.flatten_replicate_nil] at hsends
    exact .inr ⟨hnot, hsends⟩

end Authority.Client

end Entitlement
