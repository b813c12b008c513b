import Entitlement.Metrics.Exposition
import Entitlement.Service
import Entitlement.Settings
import Entitlement.Web.Body
import Entitlement.Web.Organization
import Entitlement.Web.Route

/-!
# The web application

The application answers requests one after another.  A request enters with an id of its own, is led
to an endpoint, and is counted and logged when a response leaves; a refusal becomes a response with
its status.  A fault that nothing answers for becomes a plain internal error after the request has
left.

An endpoint works on a copy of the context: the organization that it sets is not seen outside.
-/

namespace Entitlement

namespace Web

/-- How the licenses are stored. -/
inductive Storage where
  /-- A store that the application starts, stops and probes. -/
  | managed
  /-- A store that only keeps licenses. -/
  | plain
  deriving DecidableEq

/-- The licensing part of an application. -/
structure Licensing where
  service : Service
  storage : Storage

/-- An application; without a licensing part it has the common routes only. -/
structure App where
  settings : Settings
  licensing : Option Licensing
  commit : Text
  startedAt : Binary64

namespace App

def version : Text := "1.0.0"

/-- The id of a request that brings none, as long as no other one is drawn. -/
def generatedId : Text := Uuid.first.text

def isLocal (app : App) : Bool := app.settings.env = "local"

def logger (app : App) : Text := app.settings.serviceName

/-- The title of the description. -/
def title (app : App) : Text := app.settings.serviceName.title ++ (" Service" : Text)

/-- The paths of the pages, which only a local application has. -/
def pagePaths (app : App) : List (Option Text) :=
  if app.isLocal then [some "/docs", some "/redoc"] else [none, none]

def routes (app : App) : List Route :=
  Route.description ++ (if app.isLocal then Route.pages else []) ++ Route.common
    ++ if app.licensing.isSome then Route.licensing else []

/-! ## Making an application -/

/-- The commit that the environment names, written in capitals only. -/
def commitOf (environment : List (Text × Text)) : Text :=
  (environment.lookup (Text.ofString "GIT_COMMIT")).getD "unknown"

/-- The client of the authority that the settings describe. -/
def clientOf (settings : Settings) : Authority.Client :=
  let attempts := settings.authorityMaxAttempts
  .make settings.authorityUrl settings.authorityTimeout
    { Retry.Policy.standard with maxAttempts := attempts } settings.authorityKeyHeader true

/-- The flags that the settings describe. -/
def flagsOf (settings : Settings) : Flags.Evaluator :=
  let dictionary (flags : List (Text × Bool)) : Dictionary := .ofMembers (Settings.flagsJson flags)
  .make (dictionary settings.featureFlags)
    (settings.organizationFeatureFlags.map fun (o, flags) => (o, dictionary flags))

/-- The service that the settings describe, but for a client or flags of its own. -/
def serviceOf (settings : Settings) (client : Option Authority.Client)
    (flags : Option Flags.Evaluator) : Service where
  client := client.getD (clientOf settings)
  flags := flags.getD (flagsOf settings)
  catalog := Catalog.standard
  dotMetrics := settings.dotMetrics
  counts := true

/-- An application; the level of the log has to be a known one. -/
def make (settings : Settings) (licensing : Option Licensing) (commit : Text) (clock : Binary64) :
    Except Fault App := do
  settings.checkLevel
  return ⟨settings, licensing, commit, clock⟩

/-! ## Starting and stopping -/

/-- Starts the parts. -/
def start (app : App) : Act Unit := do
  match app.licensing with
  | none => return
  | some licensing =>
    if licensing.storage = .managed then Store.start app.settings.postgresDsn
    Service.start
    Act.log app.logger .info "Licensing service started" []

/-- Stops the parts. -/
def stop (app : App) : Act Unit := do
  match app.licensing with
  | none => return
  | some licensing =>
    Service.stop
    if licensing.storage = .managed then Store.stop
    Act.log app.logger .info "Licensing service stopped" []

/-- Starts the parts, serves, and stops the parts in the end, whatever came of serving.  Where the
start fails, nothing is served and nothing is stopped. -/
def lifespan {α : Type} (app : App) (serving : Act α) : Act α := do
  app.start
  let outcome ← serving.outcome
  app.stop
  Task.ofExcept outcome

/-! ## Endpoints -/

/-- The health of what the application depends on. -/
def dependencies (app : App) : Act Members := do
  match app.licensing with
  | some ⟨_, .managed⟩ =>
    let healthy ← Store.isHealthy
    return [("postgres", .string (if healthy then "ok" else "error"))]
  | _ => return []

/-- Healthy when every dependency is. -/
def health (app : App) : Act HttpResponse := do
  let dependencies ← app.dependencies
  let healthy := dependencies.all fun d => d.2 = .string "ok"
  let clock := (← get).environment.clock
  Task.ofExcept (HttpResponse.json (if healthy then 200 else 503)
    (.object [("service", .string app.settings.serviceName),
      ("status", .string (if healthy then "ok" else "degraded")),
      ("uptime_seconds", .float (clock - app.startedAt)),
      ("dependencies", .object dependencies), ("version", .string version),
      ("commit", .string app.commit)]))

/-- The type of the exposition of metrics. -/
def metricsType : Text := "text/plain; version=1.0.0; charset=utf-8"

/-- The exposition of the metrics. -/
def metrics : Act HttpResponse := do
  let lines ← Task.ofExcept (← get).telemetry.metrics.exposition
  return ⟨200, some metricsType, lines.flatMap fun line => line ++ ("\n" : Text)⟩

/-- Enters the organization and reads the body, in this order of faults: a body that is no JSON, the
organization, a body of another shape. -/
def withBody {α : Type} (request : HttpRequest) (shape : Shape α)
    (endpoint : Uuid → α → Act HttpResponse) : Act HttpResponse := do
  match Content.read request with
  | .error rejection => Task.ofExcept rejection.response
  | .ok content =>
    let organization ← enterOrganization (request.header? organizationHeader)
    match ← Task.ofExcept (content.fit shape) with
    | .ok a => endpoint organization a
    | .error rejection => Task.ofExcept rejection.response

/-- Enters the organization. -/
def withOrganization (request : HttpRequest) (endpoint : Uuid → Act HttpResponse) :
    Act HttpResponse := do
  endpoint (← enterOrganization (request.header? organizationHeader))

/-- A record in a response. -/
def recordResponse (status : Int) (record : Json) : Act HttpResponse := do
  Task.ofExcept (Record.check record)
  Task.ofExcept (HttpResponse.json status record)

/-- Opens a billing session. -/
def session (service : Service) (call : Authority.Call) (request : HttpRequest) :
    Act HttpResponse :=
  withBody request Subscription.shape fun organization subscription => do
    let redirection ← service.openSession call organization subscription
    recordResponse 201 redirection.publicJson

/-- An endpoint of licensing. -/
def licensingEndpoint (service : Service) (endpoint : Endpoint) (request : HttpRequest) :
    Act HttpResponse :=
  match endpoint with
  | .activate =>
    withBody request Activation.shape fun organization activation => do
      let _ ← service.activate organization activation.key
      Task.ofExcept (HttpResponse.json 202 (.object [("status", .string "accepted")]))
  | .active =>
    withOrganization request fun organization => do
      let license ← service.active organization
      Task.ofExcept (HttpResponse.dictionary 200 license.gettable)
  | .refresh => withOrganization request fun _ => return .empty 204
  | .checkout => session service .checkout request
  | .portal => session service .portal request
  | _ =>
    withOrganization request fun organization => do
      let features ← service.features organization
      Task.ofExcept (HttpResponse.json 200 (Catalog.json features))

/-- Answers at an endpoint. -/
def answer (app : App) (request : HttpRequest) : Endpoint → Act HttpResponse
  | .health => app.health
  | .metrics => metrics
  | .description => return ⟨200, some HttpResponse.jsonType, []⟩
  | .page => return ⟨200, some "text/html; charset=utf-8", []⟩
  | endpoint =>
    match app.licensing with
    | some licensing => licensingEndpoint licensing.service endpoint request
    | none => return .detail 404 "Not Found"

/-- Answers at the destination of a request. -/
def route (app : App) (request : HttpRequest) : Act HttpResponse :=
  match Route.destination app.routes request.method request.path with
  | .endpoint endpoint => app.answer request endpoint
  | .wrongMethod => return .detail 405 "Method Not Allowed"
  | .elsewhere => return .empty 307
  | .unknown => return .detail 404 "Not Found"

/-! ## Requests -/

/-- The answer to a refusal, which is logged. -/
def refuse (app : App) (request : HttpRequest) (refusal : Refusal) : Act HttpResponse := do
  Act.log app.logger (if refusal.status < 500 then .warning else .error) "Licensing error"
    [("code", .string refusal.code), ("message", .string refusal.message),
      ("details", .object refusal.details), ("path", .string request.shownPath)]
  Task.ofExcept (HttpResponse.json refusal.status (refusal.record none))

/-- Answers a request, with refusals made into responses. -/
def respond (app : App) (request : HttpRequest) : Act HttpResponse := do
  match ← (app.route request).outcome with
  | .ok response => return response
  | .error (.refusal refusal) => app.refuse request refusal
  | .error fault => throw fault

/-- A response to a request for headers only has no body. -/
def cutBody (request : HttpRequest) (response : HttpResponse) : HttpResponse :=
  if request.method = "HEAD" then { response with body := [] } else response

/-- Counts and logs a response that leaves. -/
def leave (app : App) (request : HttpRequest) (response : HttpResponse) : Act Unit := do
  let duration := Binary64.zero
  let status := Text.ofInt response.status
  Act.record (·.recordHttpRequest request.method request.shownPath status duration)
  Act.log app.logger .info "HTTP request"
    [("method", .string request.method), ("path", .string request.shownPath),
      ("status_code", .int response.status), ("duration_ms", .float duration)]

/-- Nothing is at work any more. -/
def clearContext : Act Unit := modify (Session.mapContext fun _ => Log.Context.empty)

/-- Handles a request from its arrival to its response; a fresh id is drawn where it brings none. -/
def handle (app : App) (request : HttpRequest) : Act HttpResponse := do
  let id := (request.header? "X-Request-Id").getD (← get).fresh.text
  modify (Session.mapContext fun c => { c with request := some id })
  let context := (← get).telemetry.context
  let outcome ← (app.respond request).outcome
  modify (Session.mapContext fun _ => context)
  match outcome with
  | .ok response =>
    app.leave request response
    clearContext
    return cutBody request response
  | .error fault =>
    clearContext
    Act.log app.logger .error "Unhandled exception" [("error", .string fault.text)]
    return cutBody request .internalError

end App

end Web

end Entitlement
