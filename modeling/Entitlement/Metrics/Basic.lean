import Entitlement.Numeric.Binary64
import Entitlement.Text.Basic

/-!
# Metrics

A counter keeps a count for each combination of label values, in the order of their first use; a
histogram keeps how many observations fell into each bucket, and their sum.  `Metrics` are the
collectors of one service.
-/

namespace Entitlement

/-- Counts by label values. -/
abbrev Counter := List (List Text × Nat)

namespace Counter

/-- Counts once more for the label values. -/
def count : (counter : Counter) → (labels : List Text) → Counter
  | [], labels => [(labels, 1)]
  | (l, n) :: rest, labels =>
    if l = labels then (l, n + 1) :: rest else (l, n) :: count rest labels

/-- How often the label values were counted. -/
def get (counter : Counter) (labels : List Text) : Nat := (counter.lookup labels).getD 0

/-- The sum of all counts. -/
def total (counter : Counter) : Nat := counter.foldr (fun entry sum => entry.2 + sum) 0

end Counter

/-- The observations of one combination of label values: how many fell into each bucket, and their
sum. -/
structure Observations where
  buckets : List Nat
  sum : Binary64

namespace Observations

/-- A bound in thousandths. -/
def thousandths (n : Nat) : Binary64 := .ofDecimal false n (-3)

/-- The upper bounds of the buckets. -/
def bounds : List Binary64 :=
  ([5, 10, 25, 50, 75, 100, 250, 500, 750, 1000, 2500, 5000, 7500, 10000].map thousandths)
    ++ [.infinite false]

def empty : Observations := ⟨bounds.map fun _ => 0, .zero⟩

/-- Counts in the first bucket whose bound is not exceeded. -/
def countIn (x : Binary64) : (bounds : List Binary64) → (buckets : List Nat) → List Nat
  | b :: bounds, n :: buckets =>
    if x.le b then (n + 1) :: buckets else n :: countIn x bounds buckets
  | _, buckets => buckets

def observe (o : Observations) (x : Binary64) : Observations :=
  ⟨countIn x bounds o.buckets, o.sum + x⟩

end Observations

/-- Observations by label values. -/
abbrev Histogram := List (List Text × Observations)

namespace Histogram

def observe : (histogram : Histogram) → (labels : List Text) → (x : Binary64) → Histogram
  | [], labels, x => [(labels, Observations.empty.observe x)]
  | (l, o) :: rest, labels, x =>
    if l = labels then (l, o.observe x) :: rest else (l, o) :: observe rest labels x

end Histogram

/-- The collectors of a service. -/
structure Metrics where
  service : Text
  /-- By method, endpoint and status code. -/
  httpRequests : Counter
  /-- By method and endpoint. -/
  httpDurations : Histogram
  /-- By outcome. -/
  resolutions : Counter
  /-- By operation and outcome. -/
  authorityCalls : Counter

namespace Metrics

def empty (service : Text) : Metrics := ⟨service, [], [], [], []⟩

def recordHttpRequest (m : Metrics) (method endpoint status : Text) (seconds : Binary64) :
    Metrics :=
  { m with
    httpRequests := m.httpRequests.count [method, endpoint, status]
    httpDurations := m.httpDurations.observe [method, endpoint] seconds }

def recordResolution (m : Metrics) (outcome : Text) : Metrics :=
  { m with resolutions := m.resolutions.count [outcome] }

def recordAuthorityCall (m : Metrics) (operation outcome : Text) : Metrics :=
  { m with authorityCalls := m.authorityCalls.count [operation, outcome] }

end Metrics

/-- The collectors of a process.  Metric names are unique in it, so only the first service gets
collectors, and every caller of that service shares them. -/
structure Registry where
  service : Option Text

namespace Registry

def empty : Registry := ⟨none⟩

/-- The collectors of a service, if the names are still free or taken by that service. -/
def claim? (registry : Registry) (service : Text) : Option Registry :=
  match registry.service with
  | none => some ⟨some service⟩
  | some owner => if owner = service then some registry else none

end Registry

end Entitlement
