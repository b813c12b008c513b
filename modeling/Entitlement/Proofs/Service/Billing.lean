import Entitlement.Proofs.Authority.Requests
import Entitlement.Proofs.Json.Joined
import Entitlement.Proofs.Service.Decay
import Entitlement.Proofs.Text.Utf8

/-! # The requests that open billing sessions

Handing out the license in force sends nothing, so all that is sent for a billing session is the
request of the call, once for each attempt (`Authority.Client.perform_carries`). It carries the key
of the license in force, and a body that is read as an object with the caller's address as its only
member (`Subscription.body_reads`). -/

namespace Entitlement

open Entitlement.Task Authority.Client

/-! ### The body -/

/-- Where a text is read that starts with two ASCII characters, its bytes are read alike. -/
theorem Document.read_encode {options : Json.Reader.Options} {c d : CodePoint} {t : Text} {v : Json}
    (hc : 0 < c.val ∧ c.val < 0x80) (hd : 0 < d.val ∧ d.val < 0x80)
    (h : Json.read options (c :: d :: t) = .ok v) :
    (Document.bytes (Utf8.encode (c :: d :: t))).read options = .ok v := by
  have hbody : Json.readBody options (c :: d :: t) = .ok v := by
    unfold Json.read at h
    split at h
    · cases h
    · exact h
  rw [Document.read, Bytes.detectAndDecode_encode hc hd]
  dsimp only
  rw [hbody]
  rfl

namespace Subscription

variable {subscription : Subscription}

theorem json_writes (scalar : subscription.url.isScalar = true) :
    Record.write subscription.json = .ok (subscription.json.write .response) := by
  have hurl : subscription.url.utf8Obstacle? = none := Text.utf8Obstacle?_eq_none_iff.mpr scalar
  have hobstacle : Record.obstacle? (Record.depthBound + 1) subscription.json =
      (Record.textObstacle? subscription.url).or none := rfl
  have hcheck : Record.check subscription.json = .ok () := by
    rw [Record.check, hobstacle, Record.textObstacle?, hurl]
    rfl
  unfold Record.write
  rw [hcheck]
  rfl

/-- **The body is read as the address and nothing else**, whatever its code points are. -/
theorem body_reads (scalar : subscription.url.isScalar = true) :
    ∃ body, subscription.body = .ok body ∧
      (Document.bytes body).read Json.Reader.lenient =
        .ok (.object [("url", .string subscription.url)]) := by
  refine ⟨Utf8.encode (subscription.json.write .response), ?_, ?_⟩
  · unfold body
    rw [json_writes scalar]
    rfl
  · have fits : subscription.json.Fits Json.Reader.depthLimit := by
      refine .object (List.nodup_singleton _) fun m hm => ?_
      rw [List.mem_singleton.mp hm]
      exact .scalar rfl
    have hplain : Json.Style.response.asciiOnly = true → subscription.json.isJoined = true :=
      fun ha => by cases ha
    have hread : Json.read Json.Reader.lenient (subscription.json.write .response) =
        .ok subscription.json := by
      rw [Json.read_write Json.Style.response_readable fits.nesting_le rfl,
        Json.reread_eq_self fits hplain]
    exact Document.read_encode (by decide) (by decide) hread

end Subscription

/-! ### The key -/

namespace Service

open Session (Sends)

/-- Handing out the license in force logs, counts and asks the database, and does nothing else. -/
theorem active_keeps (service : Service) (organization : Uuid) {R : Session → Session → Prop}
    [IsPreorder Session R] (log : ∀ (s : Session) entry, R s (s.log entry))
    (count : ∀ (s : Session) f, R s (s.mapMetrics f))
    (ask : ∀ (s : Session) database, R s { s with database }) :
    Act.Keeps R (service.active organization) := by
  have hcount : ∀ outcome, Act.Keeps R (service.countResolution outcome) := by
    intro outcome s
    rw [countResolution_exec]
    exact count s _
  have hgetAll : Act.Keeps R (Store.getAll organization) := by
    intro s
    rw [Store.getAll_exec]
    exact ask s _
  have hlog : ∀ logger level event fields, Act.Keeps R (Act.log logger level event fields) :=
    fun _ _ _ _ => .of_log fun s => log s _
  unfold active
  refine hgetAll.bind fun stored => .get_bind fun s => ?_
  refine .bind (.of_ofExcept _) fun now => .bind (.of_ofExcept _) fun selection => ?_
  refine .bind (by cases selection <;> exact hlog _ _ _ _) fun _ => ?_
  cases selection with
  | found license => exact (hcount _).bind fun _ => .of_pure license
  | absent o =>
    refine (hcount _).bind fun _ => (hlog _ _ _ _).bind fun _ => ?_
    exact .bind_now fun _ => .of_pure _

theorem active_silent (service : Service) (organization : Uuid) :
    Act.Silent (service.active organization) :=
  service.active_keeps organization (fun _ _ => .of_sent rfl) (fun _ _ => .of_sent rfl)
    fun _ _ => .of_sent rfl

theorem active_key_of_absent (service : Service) {organization o : Uuid} {s : Session}
    (absent : selected organization s = .ok (.absent o)) {license : License}
    (h : ((service.active organization).exec s).1 = .ok license) : license.key = [] := by
  rw [active_of_selected, absent] at h
  rw [← Except.ok.inj h]
  rfl

/-- What is left of opening a session once the authority has answered. -/
def redirected (answer : Bytes) : Act Redirection := do
  let url ← Task.ofExcept (Redirect.ofDocument (.bytes answer))
  return ⟨url⟩

theorem openSession_of_active {service : Service} {call : Authority.Call} {organization : Uuid}
    {subscription : Subscription} {s s₁ : Session} {license : License} {body : Bytes}
    (active : (service.active organization).exec s = (.ok license, s₁))
    (hbody : subscription.body = .ok body) :
    (service.openSession call organization subscription).exec s =
      (service.client.perform call license.key body >>= redirected).exec s₁ := by
  refine (exec_bind_ok active _).trans ?_
  rw [hbody]
  rfl

/-- The request that opens a billing session: it is posted to the path of the call, under the key,
and the address to come back to is the only member of its body. -/
structure Opens (client : Authority.Client) (call : Authority.Call) (key address : Text)
    (request : Request) : Prop where
  posted : request.method = ("POST" : Text)
  carries : client.Carries call key request.body request
  body : (Document.bytes request.body).read Json.Reader.lenient =
    .ok (.object [("url", .string address)])

theorem opens_of_carries {client : Authority.Client} {call : Authority.Call} {key address : Text}
    {body : Bytes} {request : Request} (opening : call ≠ .license)
    (carries : client.Carries call key body request)
    (hread : (Document.bytes body).read Json.Reader.lenient =
      .ok (.object [("url", .string address)])) : Opens client call key address request := by
  obtain rfl : request.body = body := carries.body
  refine ⟨carries.method.trans ?_, carries, hread⟩
  cases call with
  | license => exact absurd rfl opening
  | checkout => rfl
  | portal => rfl

/-- **Billing sessions are opened with the key of the license in force.** Under the standard header,
whatever the store, the clock and the authority do: where no license is handed out, nothing is sent.
Where one is, all requests of the session are the same, one for each attempt: a post to the path of
the call that carries the key of this license, which is empty for the synthetic one, and the
caller's address as the only member of its body. None is sent where the key is not ASCII or the call
has no host that can be named. -/
theorem openSession_carries_active_key (service : Service)
    (standard : service.client.keyHeader = standardKeyHeader) {call : Authority.Call}
    (opening : call ≠ .license) (organization : Uuid) {subscription : Subscription}
    (scalar : subscription.url.isScalar = true) (s : Session) :
    let s' := ((service.openSession call organization subscription).exec s).2
    match ((service.active organization).exec s).1 with
    | .error _ => Sends [] s s'
    | .ok license =>
      (∀ o, selected organization s = .ok (.absent o) → license.key = []) ∧
      (((∀ c ∈ license.key, c.isAscii = true) ∧ service.client.Reaches call ∧ ∃ k request,
        0 < k ∧ k ≤ service.client.policy.limit ∧
        Opens service.client call license.key subscription.url request ∧
        Sends (List.replicate k request) s s') ∨
      ¬ ((∀ c ∈ license.key, c.isAscii = true) ∧ service.client.Reaches call) ∧
        Sends [] s s') := by
  intro s'
  obtain ⟨body, hbody, hread⟩ := subscription.body_reads scalar
  have hsilent := service.active_silent organization s
  have hkey : ∀ {license : License}, ((service.active organization).exec s).1 = .ok license →
      ∀ o, selected organization s = .ok (.absent o) → license.key = [] :=
    fun h o absent => service.active_key_of_absent absent h
  rcases hactive : (service.active organization).exec s with ⟨fault | license, s₁⟩
  · have hs' : s' = s₁ := congrArg Prod.snd (exec_bind_error hactive _)
    rw [hactive] at hsilent
    rw [hs']
    exact hsilent
  · rw [hactive] at hsilent
    refine ⟨hkey (congrArg Prod.fst hactive), ?_⟩
    have hredirected : ∀ answer, Act.Silent (redirected answer) := fun answer =>
      .bind (.of_ofExcept _) fun url => .of_pure _
    have hafter : ∀ {requests : List Request},
        Sends requests s₁ ((service.client.perform call license.key body).exec s₁).2 →
        Sends requests s s' := by
      intro requests hsends
      have hall := hsilent.append (hsends.bind_silent hredirected)
      rw [← openSession_of_active hactive hbody] at hall
      exact hall
    rcases service.client.perform_carries standard call license.key body s₁ with
      ⟨hascii, hreaches, k, request, hpos, hk, carries, hsends⟩ | ⟨hnot, hsends⟩
    · exact .inl ⟨hascii, hreaches, k, request, hpos, hk, opens_of_carries opening carries hread,
        hafter hsends⟩
    · exact .inr ⟨hnot, hafter hsends⟩

/-- A service under the standard header. -/
def billingService : Service :=
  { Write.plainService with client := .standard "http://a" false }

/-- The address to come back to. -/
def returning : Subscription := ⟨"http://b/\""⟩

theorem billingService_reaches : billingService.client.Reaches .checkout := by
  have hok : (billingService.client.address .checkout >>= Url.checkHost).toOption = some () := by
    decide +kernel
  exact Outcome.bind_eq_ok_iff.mp (Outcome.eq_ok_of_toOption hok)

theorem billingService_stem : Url.Stem billingService.client.baseUrl := by
  have hmarks : (Text.ofString "http://a").all
      (fun c : CodePoint => c ≠ '?' ∧ c ≠ '#') = true := rfl
  exact stem_make (fun c hc => of_decide_eq_true (List.all_eq_true.mp hmarks c hc)) _ _ _ _

/-- The checkout for an organization with a license in force pays with its key. -/
theorem ending_license_pays :
    billingService.client.keyHeader = standardKeyHeader ∧ Authority.Call.checkout ≠ .license ∧
      returning.url.isScalar = true ∧ ∃ k request, 0 < k ∧
        Opens billingService.client .checkout "K" returning.url request ∧
        (∃ url : Url, request.url = url.text ∧ Authority.Call.checkout.path <:+ url.path) ∧
        Sends (List.replicate k request) (sessionOn [endingRow])
          ((billingService.openSession .checkout Uuid.nil returning).exec
            (sessionOn [endingRow])).2 := by
  have standard : billingService.client.keyHeader = standardKeyHeader := rfl
  have opening : Authority.Call.checkout ≠ .license := by decide
  have scalar : returning.url.isScalar = true := rfl
  have hselected := selected_endingRow
  generalize sessionOn [endingRow] = s at hselected ⊢
  have hactive : ((billingService.active Uuid.nil).exec s).1 = .ok endingLicense := by
    rw [active_of_selected, hselected]
    rfl
  have hsends := openSession_carries_active_key billingService standard opening Uuid.nil scalar s
  rw [hactive] at hsends
  have hascii : ∀ c ∈ endingLicense.key, c.isAscii = true := List.all_eq_true.mp rfl
  refine ⟨standard, opening, scalar, ?_⟩
  rcases hsends.2 with ⟨-, -, k, request, hpos, -, opens, hsent⟩ | ⟨hnot, -⟩
  · obtain ⟨url, -, htext, hpath⟩ := opens.carries.url
    exact ⟨k, request, hpos, opens, ⟨url, htext, (hpath billingService_stem).1⟩, hsent⟩
  · exact absurd ⟨hascii, billingService_reaches⟩ hnot

end Service

end Entitlement
