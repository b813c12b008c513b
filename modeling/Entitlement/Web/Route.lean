import Entitlement.Web.Http

/-!
# Routes

A route is a path and the methods that it takes.  A path that is known but not for the method is
told apart from an unknown one, and from one that is known but for slashes at its end.
-/

namespace Entitlement

namespace Web

/-- What a request can ask for. -/
inductive Endpoint where
  | health
  | metrics
  | activate
  | active
  | refresh
  | checkout
  | portal
  | features
  | description
  | page
  deriving DecidableEq

/-- A path with its methods. -/
structure Route where
  path : Text
  methods : List Text
  endpoint : Endpoint

/-- Where a request leads. -/
inductive Destination where
  | endpoint (endpoint : Endpoint)
  | wrongMethod
  | elsewhere
  | unknown
  deriving DecidableEq

namespace Route

/-- Reading methods of the routes that hand out fixed documents. -/
def reading : List Text := ["GET", "HEAD"]

/-- The description of the service. -/
def description : List Route := [⟨"/openapi.json", reading, .description⟩]

/-- The pages that show the description. -/
def pages : List Route := [⟨"/docs", reading, .page⟩, ⟨"/docs/oauth2-redirect", reading, .page⟩,
  ⟨"/redoc", reading, .page⟩]

/-- The routes of every service. -/
def common : List Route := [⟨"/health", ["GET"], .health⟩, ⟨"/metrics", ["GET"], .metrics⟩]

/-- The routes of licensing. -/
def licensing : List Route := [
  ⟨"/api/v3/licenses", ["POST"], .activate⟩,
  ⟨"/api/v3/licenses/active", ["GET"], .active⟩,
  ⟨"/api/v3/licenses", ["PUT"], .refresh⟩,
  ⟨"/api/v1/checkout", ["POST"], .checkout⟩,
  ⟨"/api/v1/portal", ["POST"], .portal⟩,
  ⟨"/api/v1/features", ["GET"], .features⟩]

/-- Whether a route takes a path, whatever the method.  A line feed at the end of the path is passed
over. -/
def takes (route : Route) (path : Text) : Bool :=
  path = route.path || path = route.path ++ ("\n" : Text)

/-- Whether a path is one of the routes but for slashes at its end. -/
def leadsElsewhere (routes : List Route) (path : Text) : Bool :=
  path ≠ "/" && path.getLast? = some ('/' : CodePoint) &&
    routes.any (·.takes (Text.stripEnd (· = '/') path))

/-- Where a method and a path lead: the first route that takes both, or else one that takes the
path. -/
def destination (routes : List Route) (method path : Text) : Destination :=
  match routes.find? fun r => r.takes path && r.methods.contains method with
  | some r => .endpoint r.endpoint
  | none =>
    if routes.any (·.takes path) then .wrongMethod
    else if leadsElsewhere routes path then .elsewhere
    else .unknown

end Route

end Web

end Entitlement
