import Entitlement.Fault.Basic
import Entitlement.Text.Utf8

/-!
# Exchanges with the authority

A request goes out with its headers, and a response or a failure of the exchange comes back.  The
`Line` to the authority holds what will come back and what has been sent.
-/

namespace Entitlement

/-- A request as the authority sees it. -/
structure Request where
  method : Text
  url : Text
  /-- The value of the header that carries the license key. -/
  key : Text
  contentType : Text
  body : Bytes
  deriving DecidableEq

/-- A response without its headers. So its body has no charset of its own: where it is taken as
text, it is read as UTF-8 with replacement. -/
structure Response where
  status : Int
  body : Bytes
  deriving DecidableEq

/-- A status in the two hundreds. -/
def Response.isSuccess (r : Response) : Bool := 200 ≤ r.status && r.status ≤ 299

/-- The line to the authority. -/
structure Line where
  /-- What comes back for the next requests. -/
  script : List (Except Fault Response)
  /-- What has been sent. -/
  sent : List Request
  /-- The time limit of every connection. -/
  timeouts : List Binary64
  /-- The pauses between attempts. -/
  slept : List Binary64

namespace Line

def empty : Line := ⟨[], [], [], []⟩

/-- The failure when nothing comes back. -/
def silence : Fault :=
  .failure Kind.connectError "no scripted response"

/-- Makes a connection with a time limit. -/
def connect (line : Line) (timeout : Binary64) : Line :=
  { line with timeouts := line.timeouts ++ [timeout] }

/-- Sends a request and takes what comes back. -/
def exchange (line : Line) (request : Request) : Except Fault Response × Line :=
  let line := { line with sent := line.sent ++ [request] }
  match line.script with
  | [] => (.error silence, line)
  | result :: script => (result, { line with script })

end Line

end Entitlement
