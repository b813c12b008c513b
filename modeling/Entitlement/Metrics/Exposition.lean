import Entitlement.Fault.Basic
import Entitlement.Metrics.Basic
import Entitlement.Numeric.Shortest
import Entitlement.Text.Unencodable

/-!
# Text exposition of metrics

Each family opens with its help and its type, then come its samples: labels in the order of their
names, values as numbers.  The buckets of a histogram are written cumulatively.  The exposition is
sent in UTF-8, so a label that has no such form spoils all of it.
-/

namespace Entitlement

namespace Metrics

/-- A label value: backslash, line feed and quote are escaped. -/
def labelValue (t : Text) : Text :=
  t.flatMap fun (c : CodePoint) =>
    if c = '\\' then "\\\\" else if c = '\n' then "\\n" else if c = '"' then "\\\"" else [c]

/-- The text of a number.  From seven digits before the point on there is an exponent, written in
two digits. -/
def numberText (x : Binary64) : Text :=
  match x with
  | .infinite negative => if negative then "-Inf" else "+Inf"
  | .nan => "NaN"
  | .finite negative _ _ =>
    let s := x.text
    match Text.splitAt '.' s with
    | (whole, some fraction) =>
      match whole with
      | first :: more =>
        if !negative && 6 < whole.length then
          let mantissa := Text.stripEnd (fun c => c = '0' ∨ c = '.')
            (first :: ('.' : CodePoint) :: (more ++ fraction))
          mantissa ++ ("e+" : Text) ++ Text.padded 2 (whole.length - 1)
        else s
      | [] => s
    | (_, none) => s

/-- A label name and its value. -/
abbrev Label := Text × Text

/-- The labels between braces. -/
def labelsText (labels : List Label) : Text :=
  let one (l : Label) : Text := l.1 ++ ("=\"" : Text) ++ labelValue l.2 ++ ("\"" : Text)
  match labels with
  | [] => []
  | labels => "\x7b" ++ Text.joinWith "," (labels.map one) ++ ("\x7d" : Text)

/-- A line with the value of a sample. -/
def sample (name : Text) (labels : List Label) (x : Binary64) : Text :=
  name ++ labelsText labels ++ (" " : Text) ++ numberText x

/-- The lines that open a family. -/
def heading (name help type : Text) : List Text :=
  ["# HELP " ++ name ++ " " ++ help, "# TYPE " ++ name ++ " " ++ type]

/-- The lines of a counter; `labels` names the values, sorted by name. -/
def counterLines (name help : Text) (labels : List Text → List Label) (counter : Counter) :
    List Text :=
  heading name help "counter"
    ++ counter.map fun (values, n) => sample name (labels values) (.ofInt n)

/-- The running sums of a list. -/
def runningSums : (sum : Nat) → List Nat → List Nat
  | _, [] => []
  | sum, n :: rest => (sum + n) :: runningSums (sum + n) rest

/-- The label of a bucket. -/
def leLabel (bound : Binary64) : Label := ("le", numberText bound)

/-- The lines of one combination of label values in a histogram.  The bound of a bucket takes its
place among the labels, between `before` and `after`. -/
def observationLines (name : Text) (before after : List Label) (o : Observations) : List Text :=
  let labels := before ++ after
  let buckets := (Observations.bounds.zip (runningSums 0 o.buckets)).map fun (bound, n) =>
    sample (name ++ ("_bucket" : Text)) (before ++ [leLabel bound] ++ after) (.ofInt n)
  buckets ++ [sample (name ++ ("_count" : Text)) labels (.ofInt (o.buckets.foldr (· + ·) 0 : Nat)),
    sample (name ++ ("_sum" : Text)) labels o.sum]

def httpRequestsName : Text := "http_requests_total"

def httpDurationsName : Text := "http_request_duration_seconds"

def resolutionsName : Text := "license_resolutions_total"

def authorityCallsName : Text := "license_upstream_calls_total"

/-- All lines. -/
def lines (m : Metrics) : List Text :=
  let service : Label := ("service", m.service)
  let value (values : List Text) (i : Nat) : Text := values.getD i []
  counterLines httpRequestsName "Total HTTP requests"
      (fun v => [("endpoint", value v 1), ("method", value v 0), service,
        ("status_code", value v 2)]) m.httpRequests
    ++ heading httpDurationsName "HTTP request duration in seconds" "histogram"
    ++ m.httpDurations.flatMap (fun (v, o) =>
      observationLines httpDurationsName [("endpoint", value v 1)]
        [("method", value v 0), service] o)
    ++ counterLines resolutionsName "Active license resolutions by outcome"
      (fun v => [("outcome", value v 0), service]) m.resolutions
    ++ counterLines authorityCallsName "Calls to the entitlement authority"
      (fun v => [("operation", value v 0), ("outcome", value v 1), service]) m.authorityCalls

/-- The lines as they are sent. -/
def exposition (m : Metrics) : Except Fault (List Text) :=
  let sent : Text := m.lines.flatMap fun line => line ++ ("\n" : Text)
  match sent.utf8Obstacle? with
  | some message => .error (.failure Kind.unicodeEncode message)
  | none => .ok m.lines

end Metrics

end Entitlement
