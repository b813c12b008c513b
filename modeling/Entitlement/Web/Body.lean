import Entitlement.Text.Case
import Entitlement.Web.Http

/-!
# Reading request bodies

A body is read as JSON when its type says so, and is kept as bytes otherwise.  What does not have
the shape of the endpoint is answered with the list of its issues, each placed inside the body;
bytes that cannot be read at all are answered in one sentence.
-/

namespace Entitlement

namespace Web

/-- A body as it arrives at an endpoint. -/
inductive Content where
  | absent
  | value (value : Json)
  | bytes (bytes : Bytes)

/-- Why a body is turned away. -/
inductive Rejection where
  | unparsable
  | malformed (issues : List Issue)

namespace Content

/-- The type and the subtype that a header names, without parameters. -/
def mediaType? (header : Text) : Option (Text × Text) :=
  let bare : Text := Text.strip CodePoint.isBlank (Text.splitAt ';' header).1
  match Text.splitOn '/' (Text.lower bare) with
  | [type, subtype] => some (type, subtype)
  | _ => none

/-- Whether a header names a type of JSON. -/
def isJsonType (header : Text) : Bool :=
  match mediaType? header with
  | some (type, subtype) =>
    type = "application" && (subtype = "json" || (Text.ofString "+json").isSuffixOf subtype)
  | none => false

/-- The issue of a body that is no JSON text. -/
def undecodable (whole : Text) (fault : Json.Reader.Fault) : Issue where
  kind := "json_invalid"
  place := [.member "body", .index (fault.position whole)]
  message := "JSON decode error"
  input := .object []
  context := some (.object [("error", .string fault.cause.wording)])

/-- Reads a body. -/
def read (request : HttpRequest) : Except Rejection Content :=
  if request.body = [] then .ok .absent
  else if (request.header? "Content-Type").any isJsonType then
    match Document.read Json.Reader.lenient (.bytes request.body) with
    | .ok json => .ok (.value json)
    | .error (.bytes _) => .error .unparsable
    | .error (.text whole fault) =>
      if fault.cause.hasPlace then .error (.malformed [undecodable whole fault])
      else .error .unparsable
  else .ok (.bytes request.body)

/-- The issue of a body that is not there. -/
def missing : Issue := ⟨"missing", [.member "body"], "Field required", .null, none⟩

/-- The issue of a body that is no object. -/
def noObject (input : Json) : Issue :=
  ⟨"model_attributes_type", [.member "body"],
    "Input should be a valid dictionary or object to extract fields from", input, none⟩

/-- The value of the shape of an endpoint.  Bytes are told as text, when they are one. -/
def fit {α : Type} (shape : Shape α) (content : Content) : Except Fault (Except Rejection α) :=
  let reject (issues : List Issue) : Except Fault (Except Rejection α) :=
    .ok (.error (.malformed issues))
  match content with
  | .absent => reject [missing]
  | .value (.object members) =>
    match (shape (.object members)).under (.member "body") with
    | .pass a => .ok (.ok a)
    | .fail issues => reject issues
  | .value json => reject [noObject json]
  | .bytes octets =>
    match Utf8.decodeStrict octets with
    | .ok t => reject [noObject (.string t)]
    | .error fault => .error (.failure Kind.unicodeDecode fault.message)

end Content

namespace Rejection

/-- The refusal that lists the issues. -/
def refusal (issues : List Issue) : Refusal :=
  ⟨.invalidInput, "malformed request body",
    [("errors", .array (issues.map fun issue => encodable issue.report))]⟩

/-- The answer to a body that is turned away. -/
def response : Rejection → Except Fault HttpResponse
  | .unparsable => .ok (.detail 400 "There was an error parsing the body")
  | .malformed issues =>
    let refusal := refusal issues
    HttpResponse.json refusal.status (refusal.record none)

end Rejection

end Web

end Entitlement
