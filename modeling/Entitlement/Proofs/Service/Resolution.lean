import Entitlement.Proofs.License.Selection
import Entitlement.Proofs.Store.Exchange
import Entitlement.Service

/-! # The license in force is resolved once

The license in force takes one statement, the search for the rows of the organization. What comes
of it is settled by the selection among these rows (`Service.selected`): the license in force is
handed out, or the synthetic license where none is, and one resolution is counted under the label of
the selection; a selection that fails ends the call, and nothing is counted (`Service.active_run`).
With the theory of the selection this says which license an organization gets
(`Service.selection_is_exact`). -/

namespace Entitlement

open Entitlement.Task

/-! ### Counting -/

namespace Counter

theorem total_cons (l : List Text) (n : Nat) (rest : Counter) :
    total ((l, n) :: rest) = n + total rest := rfl

theorem total_count (counter : Counter) (labels : List Text) :
    (counter.count labels).total = counter.total + 1 := by
  induction counter with
  | nil => rfl
  | cons entry rest ih =>
    obtain ⟨l, n⟩ := entry
    unfold count
    split
    · rw [total_cons, total_cons]
      omega
    · rw [total_cons, total_cons, ih]
      omega

theorem get_cons (l other : List Text) (n : Nat) (rest : Counter) :
    get ((l, n) :: rest) other = if other = l then n else rest.get other := by
  unfold get
  rw [List.lookup_cons]
  by_cases h : other = l
  · rw [if_pos h, beq_iff_eq.mpr h]
    rfl
  · rw [if_neg h, beq_eq_false_iff_ne.mpr h]

theorem get_count (counter : Counter) (labels other : List Text) :
    (counter.count labels).get other = counter.get other + if other = labels then 1 else 0 := by
  induction counter with
  | nil =>
    unfold count
    rw [get_cons]
    exact (Nat.zero_add _).symm
  | cons entry rest ih =>
    obtain ⟨l, n⟩ := entry
    unfold count
    split
    · next hl =>
      subst hl
      rw [get_cons, get_cons]
      split <;> omega
    · next hl =>
      rw [get_cons, get_cons, ih]
      split
      · next ho => rw [if_neg (ho ▸ hl), Nat.add_zero]
      · rfl

end Counter

/-- One resolution more under the label of an outcome, and everything else as before. -/
structure Metrics.CountedOnce (before after : Metrics) (outcome : Text) : Prop where
  total : after.resolutions.total = before.resolutions.total + 1
  each : ∀ labels, after.resolutions.get labels =
    before.resolutions.get labels + if labels = [outcome] then 1 else 0
  others : after = { before with resolutions := after.resolutions }

theorem Metrics.recordResolution_counts (m : Metrics) (outcome : Text) :
    m.CountedOnce (m.recordResolution outcome) outcome where
  total := m.resolutions.total_count [outcome]
  each := m.resolutions.get_count [outcome]
  others := rfl

/-! ### The call -/

namespace Service

theorem logSelection_exec (organization : Uuid) (candidates : Nat) (selection : Selection)
    (s : Session) : ∃ records, (logSelection organization candidates selection).exec s =
      (.ok (), { s with telemetry := { s.telemetry with records } }) := by
  cases selection <;> exact ⟨_, rfl⟩

/-- The metrics with one more resolution, where the service counts at all. -/
def tally (service : Service) (outcome : Text) (m : Metrics) : Metrics :=
  if service.counts then m.recordResolution outcome else m

theorem countResolution_exec (service : Service) (outcome : Text) (s : Session) :
    (service.countResolution outcome).exec s = (.ok (), s.mapMetrics (service.tally outcome)) := by
  unfold countResolution tally
  cases service.counts <;> rfl

/-- The selection among the rows that the store gives, at the time on the clock. -/
def selected (organization : Uuid) (s : Session) : Except Fault Selection := do
  let stored ← ((Store.getAll organization).exec s).1
  let now ← seconds s.environment.clock
  Selection.ofStored stored organization now

theorem selected_eq (organization : Uuid) (s : Session) :
    selected organization s =
      match Store.afterGetAll (s.database.ask (.findAll organization)).1 with
      | .error fault => .error fault
      | .ok stored =>
        match seconds s.environment.clock with
        | .error fault => .error fault
        | .ok now => Selection.ofStored stored organization now := by
  unfold selected
  rw [Store.getAll_exec]
  cases Store.afterGetAll (s.database.ask (.findAll organization)).1 with
  | error fault => rfl
  | ok stored =>
    simp only [bind, Except.bind]
    cases seconds s.environment.clock <;> rfl

/-- The license that is handed out for a selection. -/
def handed (service : Service) (organization : Uuid) (utc : DateTime) : Selection → License
  | .found license => license
  | .absent _ => License.synthetic organization service.catalog utc

/-- The label under which a selection is counted. -/
def label : Selection → Text
  | .found _ => "found"
  | .absent _ => "synthetic"

/-- What is left of a call once the selection is made. -/
def handOut (service : Service) (organization : Uuid) (candidates : Nat) (selection : Selection) :
    Act License := do
  logSelection organization candidates selection
  match selection with
  | .found license =>
    service.countResolution "found"
    return license
  | .absent _ =>
    service.countResolution "synthetic"
    Act.log logger .debug "No active license, using synthetic license"
      [organizationField organization]
    return License.synthetic organization service.catalog (← Act.now)

theorem handOut_exec (service : Service) (organization : Uuid) (candidates : Nat)
    (selection : Selection) (s : Session) :
    let after := (service.handOut organization candidates selection).exec s
    after.1 = .ok (service.handed organization s.environment.utc selection) ∧
      after.2.database = s.database ∧
      after.2.telemetry.metrics = service.tally (label selection) s.telemetry.metrics := by
  intro after
  obtain ⟨records, hlog⟩ := logSelection_exec organization candidates selection s
  cases selection with
  | found license =>
    have hafter : after = (.ok license,
        ({ s with telemetry := { s.telemetry with records } } : Session).mapMetrics
          (service.tally "found")) := by
      refine (exec_bind_ok hlog _).trans ?_
      exact exec_bind_ok (service.countResolution_exec "found" _) _
    rw [hafter]
    exact ⟨rfl, rfl, rfl⟩
  | absent o =>
    have hafter : after = (do
        Act.log logger .debug "No active license, using synthetic license"
          [organizationField organization]
        return License.synthetic organization service.catalog (← Act.now) : Act License).exec
          (({ s with telemetry := { s.telemetry with records } } : Session).mapMetrics
            (service.tally "synthetic")) := by
      refine (exec_bind_ok hlog _).trans ?_
      exact exec_bind_ok (service.countResolution_exec "synthetic" _) _
    rw [hafter]
    exact ⟨rfl, rfl, rfl⟩

/-- **The license in force takes one statement**, and the rest follows from the selection: the
license that is handed out for it, and one resolution under its label. -/
theorem active_run (service : Service) (organization : Uuid) (s : Session) :
    let after := (service.active organization).exec s
    after.2.database = (s.database.ask (.findAll organization)).2 ∧
      match selected organization s with
      | .error fault =>
        after.1 = .error fault ∧ after.2.telemetry.metrics = s.telemetry.metrics
      | .ok selection =>
        after.1 = .ok (service.handed organization s.environment.utc selection) ∧
          after.2.telemetry.metrics = service.tally (label selection) s.telemetry.metrics := by
  have hactive : service.active organization = (do
      let stored ← Store.getAll organization
      let now ← Task.ofExcept (seconds (← get).environment.clock)
      let selection ← Task.ofExcept (Selection.ofStored stored organization now)
      service.handOut organization stored.length selection) := rfl
  rw [hactive, exec_bind, Store.getAll_exec, selected_eq]
  cases Store.afterGetAll (s.database.ask (.findAll organization)).1 with
  | error fault => exact ⟨rfl, rfl, rfl⟩
  | ok stored =>
    dsimp only
    rw [exec_get_bind, exec_ofExcept_bind]
    cases seconds s.environment.clock with
    | error fault => exact ⟨rfl, rfl, rfl⟩
    | ok now =>
      dsimp only
      rw [exec_ofExcept_bind]
      cases Selection.ofStored stored organization now with
      | error fault => exact ⟨rfl, rfl, rfl⟩
      | ok selection =>
        obtain ⟨hresult, hdatabase, hmetrics⟩ := service.handOut_exec organization stored.length
          selection { s with database := (s.database.ask (.findAll organization)).2 }
        exact ⟨hdatabase, hresult, hmetrics⟩

/-- The view of an organization, from the reply with its rows. -/
def viewed (service : Service) (organization : Uuid) (environment : Environment)
    (reply : Except Fault Reply) : Except Fault License := do
  let stored ← Store.afterGetAll reply
  let now ← seconds environment.clock
  match ← Selection.ofStored stored organization now with
  | .found license => return license
  | .absent _ => return License.synthetic organization service.catalog environment.utc

theorem viewed_eq (service : Service) (organization : Uuid) (s : Session) :
    service.viewed organization s.environment (s.database.ask (.findAll organization)).1 =
      (selected organization s).map (service.handed organization s.environment.utc) := by
  unfold viewed
  rw [selected_eq]
  cases Store.afterGetAll (s.database.ask (.findAll organization)).1 with
  | error fault => rfl
  | ok stored =>
    simp only [bind, Except.bind]
    cases seconds s.environment.clock with
    | error fault => rfl
    | ok now =>
      dsimp only
      rcases Selection.ofStored stored organization now with fault | ⟨l | o⟩ <;> rfl

theorem active_exec (service : Service) (organization : Uuid) (s : Session) :
    ((service.active organization).exec s).1 = service.viewed organization s.environment
        (s.database.ask (.findAll organization)).1 ∧
      ((service.active organization).exec s).2.database =
        (s.database.ask (.findAll organization)).2 := by
  obtain ⟨hdatabase, hresult⟩ := service.active_run organization s
  refine ⟨?_, hdatabase⟩
  rw [viewed_eq]
  cases hselected : selected organization s with
  | error fault =>
    rw [hselected] at hresult
    exact hresult.1
  | ok selection =>
    rw [hselected] at hresult
    exact hresult.1

/-! ### Which license an organization gets -/

/-- **The selection is exact.** Among stored rows it fails just where some row cannot be read, with
the fault of the first such row, whatever stands before and behind it; it finds nothing just where
all rows are read and no license is eligible, and what it finds is the first of the eligible
licenses that started last. The license that is found is handed out, or the synthetic one where
nothing is found; one resolution is counted under the label of the selection, and none where the
call fails. -/
theorem selection_is_exact (service : Service) (organization : Uuid) :
    (∀ (stored : List StoredLicense) (now : Int),
      ((∃ fault, Selection.ofStored stored organization now = .error fault) ↔
        ∃ row ∈ stored, ∃ fault, License.ofStored row Catalog.standard = .error fault) ∧
      (∀ fault, Selection.ofStored stored organization now = .error fault ↔
        ∃ earlier row later, stored = earlier ++ row :: later ∧
          (∀ r ∈ earlier, ∃ l, License.ofStored r Catalog.standard = .ok l) ∧
          License.ofStored row Catalog.standard = .error fault) ∧
      (∀ o, Selection.ofStored stored organization now = .ok (.absent o) ↔
        o = organization ∧ ∃ licenses, Selection.ReadAs stored licenses ∧
          ∀ l ∈ licenses, ¬ l.Eligible now) ∧
      ∀ l, Selection.ofStored stored organization now = .ok (.found l) ↔
        ∃ licenses, Selection.ReadAs stored licenses ∧ Selection.InForce now licenses l) ∧
    ∀ s : Session,
      let after := (service.active organization).exec s
      match selected organization s with
      | .error fault =>
        after.1 = .error fault ∧ after.2.telemetry.metrics = s.telemetry.metrics
      | .ok (.found l) =>
        after.1 = .ok l ∧
          if service.counts then
            s.telemetry.metrics.CountedOnce after.2.telemetry.metrics "found"
          else after.2.telemetry.metrics = s.telemetry.metrics
      | .ok (.absent _) =>
        after.1 = .ok (License.synthetic organization service.catalog s.environment.utc) ∧
          if service.counts then
            s.telemetry.metrics.CountedOnce after.2.telemetry.metrics "synthetic"
          else after.2.telemetry.metrics = s.telemetry.metrics := by
  have htally : ∀ (outcome : Text) (before after : Metrics),
      after = service.tally outcome before →
        if service.counts then before.CountedOnce after outcome else after = before := by
    rintro outcome before after rfl
    unfold tally
    split
    · exact before.recordResolution_counts outcome
    · rfl
  refine ⟨fun stored now => ⟨Selection.ofStored_fails_iff, fun fault =>
    Selection.ofStored_eq_error_iff, fun o => ?_, fun l => ?_⟩, fun s => ?_⟩
  · rw [Selection.ofStored_eq_ok_iff]
    constructor
    · rintro ⟨licenses, hread, h⟩
      obtain rfl := Selection.organization_of_absent h
      exact ⟨rfl, licenses, hread, Selection.ofLicenses_eq_absent_iff.mp h⟩
    · rintro ⟨rfl, licenses, hread, h⟩
      exact ⟨licenses, hread, Selection.ofLicenses_eq_absent_iff.mpr h⟩
  · simp only [Selection.ofStored_eq_ok_iff, Selection.ofLicenses_eq_found_iff]
  · obtain ⟨-, hrun⟩ := service.active_run organization s
    intro after
    cases hselected : selected organization s with
    | error fault =>
      rw [hselected] at hrun
      exact hrun
    | ok selection =>
      rw [hselected] at hrun
      obtain ⟨hresult, hmetrics⟩ := hrun
      cases selection with
      | found l => exact ⟨hresult, htally _ _ _ hmetrics⟩
      | absent o => exact ⟨hresult, htally _ _ _ hmetrics⟩

end Service

end Entitlement
