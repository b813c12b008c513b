import Entitlement.Proofs.Service.Order
import Entitlement.Proofs.Service.View

/-! # The license in force only decays

Starts are not compared with the present, so as time goes on licenses expire and none becomes
eligible: what is eligible later is eligible now (`License.Eligible.earlier`). This holds at any
time, before the epoch as well: an open end is `-1`, a number among the ends, but it stands for
none. Hence the license in force stays in force until it expires, the one in force after it started
no later (`Selection.InForce.stays`, `Selection.InForce.started_before`), and where none is left
none comes back. The same holds of what an organization gets while its table does not change
(`Service.selected_decays`). -/

namespace Entitlement

namespace License.Eligible

variable {l : License} {now later : Int}

theorem earlier (h : l.Eligible later) (hle : now ≤ later) : l.Eligible now := by
  obtain ⟨hstart, hend⟩ := h
  refine ⟨hstart, ?_⟩
  rcases hend with hopen | hlater
  · exact .inl hopen
  · exact .inr (by omega)

theorem of_valid (h : l.Eligible now) (valid : l.isValidAt later = true) : l.Eligible later :=
  ⟨h.1, License.isValidAt_iff.mp valid⟩

end License.Eligible

namespace Selection

variable {now later : Int} {licenses : List License} {l m : License} {organization : Uuid}

/-! ### The scan at two times -/

/-- The license in force stays in force as long as it is eligible: its rivals only get fewer. -/
theorem InForce.stays (h : InForce now licenses l) (hle : now ≤ later)
    (eligible : l.Eligible later) : InForce later licenses l := by
  obtain ⟨before, behind, hsplit, -, hbefore, hbehind⟩ := h
  refine ⟨before, behind, hsplit, eligible, ?_, ?_⟩
  · intro m hm hem
    have hnow : m.Eligible now := hem.earlier hle
    exact hbefore m hm hnow
  · intro m hm hem
    have hnow : m.Eligible now := hem.earlier hle
    exact hbehind m hm hnow

/-- Whatever is in force later started no later than what is in force now. -/
theorem InForce.started_before (h : InForce now licenses l) (h' : InForce later licenses m)
    (hle : now ≤ later) : m.terms.validFrom ≤ l.terms.validFrom := by
  have hnow : m.Eligible now := h'.eligible.earlier hle
  exact h.latest h'.mem hnow

theorem ofLicenses_absent_later (hle : now ≤ later)
    (h : ofLicenses licenses organization now = .absent organization) :
    ofLicenses licenses organization later = .absent organization := by
  refine ofLicenses_eq_absent_iff.mpr fun l hl helig => ?_
  exact ofLicenses_eq_absent_iff.mp h l hl (helig.earlier hle)

/-- **Where a license is found later** one that started no earlier is found now. -/
theorem ofLicenses_found_earlier (hle : now ≤ later)
    (h : ofLicenses licenses organization later = .found m) :
    ∃ l, ofLicenses licenses organization now = .found l ∧
      m.terms.validFrom ≤ l.terms.validFrom := by
  have hlater : InForce later licenses m := ofLicenses_eq_found_iff.mp h
  obtain ⟨l, hnow⟩ := exists_inForce hlater.mem (hlater.eligible.earlier hle)
  exact ⟨l, ofLicenses_eq_found_iff.mpr hnow, hnow.started_before hlater hle⟩

theorem ofLicenses_found_later (hle : now ≤ later)
    (h : ofLicenses licenses organization now = .found l) (valid : l.isValidAt later = true) :
    ofLicenses licenses organization later = .found l := by
  have hnow : InForce now licenses l := ofLicenses_eq_found_iff.mp h
  have hlater : l.Eligible later := hnow.eligible.of_valid valid
  exact ofLicenses_eq_found_iff.mpr (hnow.stays hle hlater)

end Selection

/-! ### Calls on an unchanged table -/

namespace Service

variable {organization : Uuid} {s s' : Session} {now later : Int}

theorem getAll_congr (answers : s.database.Answers) (answers' : s'.database.Answers)
    (htable : s'.database.table = s.database.table) :
    ((Store.getAll organization).exec s').1 = ((Store.getAll organization).exec s).1 := by
  rw [Store.getAll_exec, Store.getAll_exec, answers.ask, answers'.ask, answers.send, answers'.send,
    htable]

theorem selected_at (hnow : seconds s.environment.clock = .ok now) :
    selected organization s = ((Store.getAll organization).exec s).1 >>= fun stored =>
      Selection.ofStored stored organization now := by
  unfold selected
  rw [hnow]
  rfl

/-- What is left of a selection when time has passed: the fault of a row that cannot be read, the
absence of a license, the license that was found if it is valid, and else nothing or a license that
started no later. -/
def Decays (organization : Uuid) (later : Int) (before after : Except Fault Selection) : Prop :=
  match before with
  | .error fault => after = .error fault
  | .ok (.absent _) => after = .ok (.absent organization)
  | .ok (.found l) =>
    if l.isValidAt later then after = .ok (.found l)
    else after = .ok (.absent organization) ∨
      ∃ m, after = .ok (.found m) ∧ m.terms.validFrom ≤ l.terms.validFrom

theorem ofStored_decays (hle : now ≤ later) (stored : List StoredLicense) (organization : Uuid) :
    Decays organization later (Selection.ofStored stored organization now)
      (Selection.ofStored stored organization later) := by
  rw [Selection.ofStored_eq, Selection.ofStored_eq]
  cases Selection.licenses stored with
  | error fault => exact rfl
  | ok licenses =>
    change Decays organization later (.ok (Selection.ofLicenses licenses organization now))
      (.ok (Selection.ofLicenses licenses organization later))
    cases hnow : Selection.ofLicenses licenses organization now with
    | absent o =>
      obtain rfl : o = organization := Selection.organization_of_absent hnow
      exact congrArg Except.ok (Selection.ofLicenses_absent_later hle hnow)
    | found l =>
      unfold Decays
      dsimp only
      split
      · next valid => exact congrArg Except.ok (Selection.ofLicenses_found_later hle hnow valid)
      · rcases Selection.ofLicenses_cases licenses organization later with ⟨m, -, hm⟩ | habsent
        · obtain ⟨l', hl', hstart⟩ := Selection.ofLicenses_found_earlier hle hm
          obtain rfl : l = l' := Selection.found.inj (hnow.symm.trans hl')
          exact .inr ⟨m, congrArg Except.ok hm, hstart⟩
        · exact .inl (congrArg Except.ok habsent)

/-- **While the table does not change the selection decays.** -/
theorem selected_decays (hle : now ≤ later) (answers : s.database.Answers)
    (answers' : s'.database.Answers) (htable : s'.database.table = s.database.table)
    (hnow : seconds s.environment.clock = .ok now)
    (hlater : seconds s'.environment.clock = .ok later) :
    Decays organization later (selected organization s) (selected organization s') := by
  rw [selected_at hnow, selected_at hlater, getAll_congr answers answers' htable]
  cases ((Store.getAll organization).exec s).1 with
  | error fault => exact rfl
  | ok stored => exact ofStored_decays hle stored organization

theorem active_of_selected (service : Service) (organization : Uuid) (s : Session) :
    ((service.active organization).exec s).1 =
      (selected organization s).map (service.handed organization s.environment.utc) := by
  rw [(service.active_exec organization s).1, viewed_eq]

open Selection in
/-- **The license in force only decays with time.** From one time to a later one, among the same
licenses: where nothing is found nothing is found later; where a license is found later, one that
started no earlier is found before; and a license that is found is found again while it is valid. So
while its table does not change an organization gets the same license until that one expires, then
none or one that started no later, and after the synthetic license no other. -/
theorem selection_only_decays (organization : Uuid) {now later : Int} (hle : now ≤ later) :
    (∀ licenses : List License,
      (ofLicenses licenses organization now = .absent organization →
        ofLicenses licenses organization later = .absent organization) ∧
      (∀ m, ofLicenses licenses organization later = .found m →
        ∃ l, ofLicenses licenses organization now = .found l ∧
          m.terms.validFrom ≤ l.terms.validFrom) ∧
      ∀ l, ofLicenses licenses organization now = .found l → l.isValidAt later = true →
        ofLicenses licenses organization later = .found l) ∧
    ∀ (service : Service) (s s' : Session), s.database.Answers → s'.database.Answers →
      s'.database.table = s.database.table →
      seconds s.environment.clock = .ok now → seconds s'.environment.clock = .ok later →
        let before := ((service.active organization).exec s).1
        let after := ((service.active organization).exec s').1
        let stand_in := License.synthetic organization service.catalog s'.environment.utc
        match selected organization s with
        | .error fault => before = .error fault ∧ after = .error fault
        | .ok (.absent _) =>
          before = .ok (License.synthetic organization service.catalog s.environment.utc) ∧
            after = .ok stand_in
        | .ok (.found l) =>
          before = .ok l ∧
            if l.isValidAt later then after = .ok l
            else after = .ok stand_in ∨
              ∃ m, after = .ok m ∧ m.terms.validFrom ≤ l.terms.validFrom := by
  refine ⟨fun licenses => ⟨ofLicenses_absent_later hle, fun m => ofLicenses_found_earlier hle,
    fun l => ofLicenses_found_later hle⟩, ?_⟩
  intro service s s' answers answers' htable hnow hlater before after stand_in
  have hbefore : before = (selected organization s).map
      (service.handed organization s.environment.utc) := service.active_of_selected organization s
  have hafter : after = (selected organization s').map
      (service.handed organization s'.environment.utc) := service.active_of_selected organization s'
  have hdecays : Decays organization later (selected organization s) (selected organization s') :=
    selected_decays hle answers answers' htable hnow hlater
  cases hselected : selected organization s with
  | error fault =>
    rw [hselected] at hbefore hdecays
    have hfault : selected organization s' = .error fault := hdecays
    rw [hfault] at hafter
    exact ⟨hbefore, hafter⟩
  | ok selection =>
    rw [hselected] at hbefore hdecays
    cases selection with
    | absent o =>
      have habsent : selected organization s' = .ok (.absent organization) := hdecays
      rw [habsent] at hafter
      exact ⟨hbefore, hafter⟩
    | found l =>
      refine ⟨hbefore, ?_⟩
      unfold Decays at hdecays
      dsimp only at hdecays ⊢
      split at hdecays
      · next valid =>
        rw [hdecays] at hafter
        rw [if_pos valid]
        exact hafter
      · next expired =>
        rw [if_neg expired]
        rcases hdecays with habsent | ⟨m, hm, hstart⟩
        · rw [habsent] at hafter
          exact .inl hafter
        · rw [hm] at hafter
          exact .inr ⟨m, hafter, hstart⟩

/-! ### A license that expires -/

/-- A row whose license ends at ten. -/
def endingRow : Row :=
  { Selection.startedRow .nil "K" 3 with
    data := .object [("status", .string "S"), ("plan", .object [("name", .string "P")]),
      ("valid_from", .int 3), ("valid_until", .int 10)] }.row

/-- A session on that row at twenty, long after the one that `sessionOn` gives. -/
def laterSession : Session :=
  { sessionOn [endingRow] with environment := ⟨DateTime.first, .ofInt 20, .zero⟩ }

theorem laterSession_answers : laterSession.database.Answers := ⟨rfl, rfl⟩

theorem laterSession_table :
    laterSession.database.table = (sessionOn [endingRow]).database.table := rfl

theorem laterSession_seconds : seconds laterSession.environment.clock = .ok 20 :=
  Outcome.eq_ok_of_toOption (by decide +kernel)

/-- What the row is read as. -/
def endingLicense : License :=
  let data : Dictionary := .ofMembers [("status", .string "S"),
    ("plan", .object [("name", .string "P")]), ("valid_from", .int 3), ("valid_until", .int 10),
    ("features", Catalog.standard.json)]
  ⟨.nil, "K", .nil, ⟨"P", "S", [], DateTime.first, 3, 10, Catalog.standard, data⟩,
    DateTime.first, DateTime.first, DateTime.first⟩

theorem selected_endingRow :
    selected Uuid.nil (sessionOn [endingRow]) = .ok (.found endingLicense) :=
  Outcome.eq_ok_of_toOption (by decide +kernel)

/-- The license is handed out at first, and once it has expired the synthetic one is. -/
theorem ending_license_gives_way :
    (0 : Int) ≤ 20 ∧
      ((Write.plainService.active Uuid.nil).exec (sessionOn [endingRow])).1 = .ok endingLicense ∧
      endingLicense.isValidAt 20 = false ∧
      ∀ l, ((Write.plainService.active Uuid.nil).exec laterSession).1 = .ok l →
        l = License.synthetic Uuid.nil Catalog.standard DateTime.first ∨
          l.terms.validFrom ≤ endingLicense.terms.validFrom := by
  have hle : (0 : Int) ≤ 20 := by decide
  have expired : endingLicense.isValidAt 20 = false := by decide
  have hselected := selected_endingRow
  have answers := sessionOn_answers [endingRow]
  have hnow := sessionOn_seconds [endingRow]
  have htable := laterSession_table
  have hlater := laterSession_seconds
  have answers' := laterSession_answers
  have hutc : laterSession.environment.utc = DateTime.first := rfl
  generalize sessionOn [endingRow] = s at hselected answers hnow htable ⊢
  generalize laterSession = s' at htable hlater answers' hutc ⊢
  have hdecay := (selection_only_decays Uuid.nil hle).2 Write.plainService s s' answers answers'
    htable hnow hlater
  rw [hselected] at hdecay
  obtain ⟨hbefore, hafter⟩ := hdecay
  rw [if_neg (by rw [expired]; decide), hutc] at hafter
  refine ⟨hle, hbefore, expired, fun l hl => ?_⟩
  rcases hafter with habsent | ⟨m, hm, hstart⟩
  · exact .inl (Except.ok.inj (hl.symm.trans habsent))
  · obtain rfl : l = m := Except.ok.inj (hl.symm.trans hm)
    exact .inr hstart

end Service

end Entitlement
