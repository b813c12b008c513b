import Entitlement.Retry.Basic
import Entitlement.Text.Unencodable
import Entitlement.Url.Basic

/-!
# The client of the authority

Every call carries the license key in a header.  A failure of the exchange is tried again; a
response is not, and one without success becomes a refusal according to its status.  Each call that
a response or the end of the attempts decides is counted once.
-/

namespace Entitlement

namespace Authority

/-- The refusal for a response without success. -/
def refusalOf (status : Int) (operation : Text) : Fault :=
  let details : Members := [("status_code", .int status), ("operation", .string operation)]
  if status = 400 then .refusal ⟨.invalidInput, "bad request", details⟩
  else if status = 401 then .refusal ⟨.unauthenticated, "unauthenticated", details⟩
  else if status = 403 then .refusal ⟨.forbidden, "forbidden", details⟩
  else if status = 404 then .refusal ⟨.notFound, "not found", details⟩
  else .refusal ⟨.internal, "internal", details⟩

/-- The calls that the authority answers. -/
inductive Call where
  | license
  | checkout
  | portal
  deriving DecidableEq

namespace Call

/-- The name under which a call is counted and logged. -/
def operation : Call → Text
  | .license => "fetch_license"
  | .checkout => "checkout"
  | .portal => "portal"

def path : Call → Text
  | .license => "/v2/licenses/me"
  | .checkout => "/v2/subscriptions/me/sessions/checkout"
  | .portal => "/v2/subscriptions/me/sessions/portal"

/-- A license is read, a session is opened. -/
def method : Call → Text
  | .license => "GET"
  | .checkout | .portal => "POST"

end Call

/-- How the authority is reached. -/
structure Client where
  baseUrl : Text
  timeout : Binary64
  policy : Retry.Policy
  keyHeader : Text
  counts : Bool

namespace Client

def logger : Text := "licensing.upstream.client"

/-- The header that carries the key unless another one is configured. -/
def standardKeyHeader : Text := "X-Signoz-Cloud-Api-Key"

/-- Ten seconds. -/
def standardTimeout : Binary64 := .ofInt 10

/-- The standard policy with a limit of five seconds. -/
def standardPolicy : Retry.Policy := { Retry.Policy.standard with maxDelay := .ofInt 5 }

/-- A client for an address; slashes at its end are dropped. -/
def make (baseUrl : Text) (timeout : Binary64) (policy : Retry.Policy) (keyHeader : Text)
    (counts : Bool) : Client :=
  ⟨Text.stripEnd (· = '/') baseUrl, timeout, policy, keyHeader, counts⟩

/-- A client with the standard settings. -/
def standard (baseUrl : Text) (counts : Bool) : Client :=
  make baseUrl standardTimeout standardPolicy standardKeyHeader counts

def jsonType : Text := "application/json"

def contentTypeHeader : Text := "Content-Type"

/-- The values of the key header and of the content type.  Both are one header when the names agree:
written alike the content type wins, in different case the values are joined. -/
def headerValues (client : Client) (key : Text) : Text × Text :=
  if client.keyHeader = contentTypeHeader then (jsonType, jsonType)
  else if client.keyHeader.lowerAscii = contentTypeHeader.lowerAscii then
    let joined := key ++ (", " : Text) ++ jsonType
    (joined, joined)
  else (key, jsonType)

/-- The address of a call.  An address that reaches no host keeps only its target. -/
def address (client : Client) (call : Call) : Except Fault Url := do
  let url ← Url.read (client.baseUrl ++ call.path)
  return if url.isAbsolute then url else url.localPart

/-- The request of a call to its address. -/
def request (client : Client) (url : Url) (call : Call) (key : Text) (body : Bytes) : Request :=
  let (keyValue, contentType) := client.headerValues key
  ⟨call.method, url.text, keyValue, contentType, body⟩

def hostHeader : Text := "Host"

/-- Headers are ASCII, and one of them names the host, unless the key takes its place. -/
def checkHeaders (client : Client) (url : Url) (request : Request) : Except Fault Unit :=
  match [client.keyHeader, request.key].findSome? Text.asciiObstacle? with
  | some message => .error (.failure Kind.unicodeEncode message)
  | none =>
    if client.keyHeader.lowerAscii = hostHeader.lowerAscii then .ok () else url.checkHost

/-- The fault of a response that came from an address without a scheme. -/
def unknownScheme (url : Url) : Fault :=
  .failure Kind.valueError ("unknown url type: " ++ url.text.quoted)

/-- One attempt. -/
def sendOnce (client : Client) (call : Call) (key : Text) (body : Bytes) : Act Response := do
  modify fun s => { s with line := s.line.connect client.timeout }
  let url ← Task.ofExcept (client.address call)
  let request := client.request url call key body
  Task.ofExcept (client.checkHeaders url request)
  let response ← Task.step fun s =>
    let (result, line) := s.line.exchange request
    (result, { s with line })
  if url.scheme = [] then throw (unknownScheme url)
  return response

/-- All attempts. -/
def send (client : Client) (call : Call) (key : Text) (body : Bytes) : Act Response :=
  Retry.Setting.run
    { hooks := Retry.Hooks.session
      policy := client.policy
      families := [Kind.transportFamily]
      name := "_send_once"
      task := client.sendOnce call key body }

/-- Counts a call. -/
def count (client : Client) (call : Call) (outcome : Text) : Act Unit :=
  if client.counts then Act.record (·.recordAuthorityCall call.operation outcome) else pure ()

/-- How much of a response is logged. -/
def loggedLength : Nat := 512

/-- The refusal when no attempt got a response. -/
def unreachable (call : Call) (last : Fault) : Fault :=
  .internal "entitlement authority unreachable"
    [("operation", .string call.operation), ("error", .string last.text)]

/-- Makes a call and gives the body of the response. -/
def perform (client : Client) (call : Call) (key : Text) (body : Bytes) : Act Bytes := do
  match ← (client.send call key body).outcome with
  | .error (.exhausted _ attempts last) =>
    client.count call "transport_error"
    Act.log logger .error "Entitlement authority unreachable"
      [("operation", .string call.operation), ("attempts", .int attempts),
        ("error", .string last.text)]
    throw (unreachable call last)
  | .error fault => throw fault
  | .ok response =>
    if response.isSuccess then
      client.count call "success"
      return response.body
    else
      client.count call (Text.ofInt response.status)
      Act.log logger .warning "Entitlement authority error"
        [("operation", .string call.operation), ("status_code", .int response.status),
          ("body", .string ((Utf8.decodeReplacing response.body).take loggedLength))]
      throw (refusalOf response.status call.operation)

/-- The payload of the license with a key. -/
def fetchLicense (client : Client) (key : Text) : Act Bytes := client.perform .license key []

end Client

end Authority

end Entitlement
