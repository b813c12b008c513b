import Entitlement.Dictionary
import Entitlement.Posting

/-!
# HTTP messages

A request has a target, headers whose names are compared without regard to case, and a body.  A
response has a status, a type and a body.  A JSON body has to be strict JSON in UTF-8: what cannot
be written so is a fault.
-/

namespace Entitlement

namespace Web

structure HttpRequest where
  method : Text
  target : Text
  headers : List (Text × Text)
  body : Bytes

structure HttpResponse where
  status : Int
  contentType : Option Text
  body : Text
  deriving DecidableEq

namespace HttpRequest

/-- The first header of a name. -/
def header? (request : HttpRequest) (name : Text) : Option Text :=
  (request.headers.find? fun h => h.1.lowerAscii = name.lowerAscii).map (·.2)

/-- The byte that a percent sign and two hexadecimal digits stand for. -/
def escapedByte? (sign high low : CodePoint) : Option UInt8 :=
  if sign = '%' then
    match high.hexValue?, low.hexValue? with
    | some h, some l => some (.ofNat (h * 16 + l))
    | _, _ => none
  else none

/-- The bytes of a path, where a percent sign and two digits stand for one byte. -/
def pathBytes : Text → Bytes
  | c :: a :: b :: rest =>
    match escapedByte? c a b with
    | some byte => byte :: pathBytes rest
    | none => Utf8.encodePoint c ++ pathBytes (a :: b :: rest)
  | c :: rest => Utf8.encodePoint c ++ pathBytes rest
  | [] => []

/-- The path of the target: what stands before a query or a fragment. -/
def path (request : HttpRequest) : Text :=
  Utf8.decodeReplacing (pathBytes (request.target.takeWhile fun c => c ≠ '?' ∧ c ≠ '#'))

/-- The path as it is logged and counted.  There it stands in an address again: line ends and tabs
are dropped, and what would end a path there is escaped. -/
def shownPath (request : HttpRequest) : Text :=
  request.path.flatMap fun (c : CodePoint) =>
    if c = '\t' ∨ c = '\n' ∨ c = '\r' then []
    else if c = '?' then "%3F"
    else if c = '#' then "%23"
    else if c = '\\' then "%5C"
    else [c]

end HttpRequest

mutual

/-- A value as it is put into a response: members whose names start with `_sa` are kept back, as
they would name the inner state of a record. -/
def encodable : Json → Json
  | .array items => .array (encodableItems items)
  | .object members => .object (encodableMembers members)
  | json => json

def encodableItems : List Json → List Json
  | [] => []
  | x :: rest => encodable x :: encodableItems rest

def encodableMembers : List (Text × Json) → List (Text × Json)
  | [] => []
  | (name, x) :: rest =>
    if (Text.dropPrefix? "_sa" name).isSome then encodableMembers rest
    else (name, encodable x) :: encodableMembers rest

end

namespace HttpResponse

def jsonType : Text := "application/json"

/-- A response without type and body. -/
def empty (status : Int) : HttpResponse := ⟨status, none, []⟩

/-- The fault of a number that strict JSON has no form for. -/
def notFinite : Fault :=
  .failure Kind.valueError "Out of range float values are not JSON compliant"

/-- The text of a strict JSON body: finite numbers in UTF-8. -/
def render (json : Json) : Except Fault Text :=
  let body := json.write .response
  if !json.isFinite then .error notFinite
  else
    match body.utf8Obstacle? with
    | some message => .error (.failure Kind.unicodeEncode message)
    | none => .ok body

/-- A response with a JSON body. -/
def json (status : Int) (json : Json) : Except Fault HttpResponse :=
  (render json).map fun body => ⟨status, some jsonType, body⟩

/-- A response with a dictionary. -/
def dictionary (status : Int) (d : Dictionary) : Except Fault HttpResponse :=
  if d.all fun e => e.1.isFinite then json status (encodable d.json) else .error notFinite

/-- A response that tells one detail. -/
def detail (status : Int) (text : String) : HttpResponse :=
  ⟨status, some jsonType, (Json.object [("detail", Json.text text)]).write .response⟩

/-- The response to a fault that nothing answers for. -/
def internalError : HttpResponse :=
  let json : Json :=
    .object [("code", .string "INTERNAL"), ("message", .string "Internal server error"),
      ("details", .object [])]
  ⟨500, some jsonType, json.write .response⟩

end HttpResponse

end Web

end Entitlement
