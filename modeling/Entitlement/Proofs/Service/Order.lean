import Entitlement.Proofs.License.Stored
import Entitlement.Proofs.Service.Resolution
import Mathlib.Data.List.Perm.Basic

/-! # The order of the rows matters on ties only

The store promises no order of the rows. Which licenses started last among the eligible ones does
not depend on the order (`Selection.StartedLast.perm`), and the one in force is among them
(`Selection.InForce.startedLast`). Of several the first is in force, so any of them can be put in
force by moving its row to the front (`Selection.StartedLast.inForce_front`). Hence all orders lead
to the same license just where one license alone started last, and then two calls get the same
license in whatever orders the rows come back (`order_matters_on_ties_only`). -/

namespace Entitlement

namespace Selection

variable {now : Int} {licenses others : List License} {l m : License}

/-- The id of the license that is found. -/
def id? : Selection → Option Uuid
  | .found l => some l.id
  | .absent _ => none

/-! ### The licenses that started last -/

/-- An eligible license such that no eligible one started later. -/
structure StartedLast (now : Int) (licenses : List License) (l : License) : Prop where
  mem : l ∈ licenses
  eligible : l.Eligible now
  latest : ∀ m ∈ licenses, m.Eligible now → m.terms.validFrom ≤ l.terms.validFrom

/-- At most one license started last. -/
def Untied (now : Int) (licenses : List License) : Prop :=
  ∀ l m, StartedLast now licenses l → StartedLast now licenses m → l = m

theorem StartedLast.perm (h : StartedLast now licenses l) (p : licenses.Perm others) :
    StartedLast now others l where
  mem := p.mem_iff.mp h.mem
  eligible := h.eligible
  latest m hm he := h.latest m (p.mem_iff.mpr hm) he

/-- Of the licenses that started last the one in front is in force. -/
theorem StartedLast.inForce_front (h : StartedLast now (l :: licenses) l) :
    InForce now (l :: licenses) l :=
  ⟨[], licenses, rfl, h.eligible, fun _ hm => absurd hm List.not_mem_nil,
    fun m hm he => h.latest m (List.mem_cons_of_mem _ hm) he⟩

theorem InForce.startedLast (h : InForce now licenses l) : StartedLast now licenses l :=
  ⟨h.mem, h.eligible, fun _ hm he => h.latest hm he⟩

theorem exists_inForce (hl : l ∈ licenses) (he : l.Eligible now) :
    ∃ best, InForce now licenses best := by
  rcases ofLicenses_cases licenses Uuid.nil now with ⟨best, -, hfound⟩ | habsent
  · exact ⟨best, ofLicenses_eq_found_iff.mp hfound⟩
  · exact absurd he (ofLicenses_eq_absent_iff.mp habsent l hl)

/-- **In another order** nothing is found again, or a license that started last again. -/
theorem ofLicenses_perm (p : others.Perm licenses) (organization : Uuid) :
    (ofLicenses others organization now = .absent organization ∧
        ofLicenses licenses organization now = .absent organization) ∨
      ∃ l m, ofLicenses others organization now = .found l ∧
        ofLicenses licenses organization now = .found m ∧
        StartedLast now licenses l ∧ StartedLast now licenses m := by
  rcases ofLicenses_cases others organization now with ⟨l, -, hl⟩ | habsent
  · have hlast := (ofLicenses_eq_found_iff.mp hl).startedLast.perm p
    obtain ⟨m, hm⟩ := exists_inForce hlast.mem hlast.eligible
    exact .inr ⟨l, m, hl, ofLicenses_eq_found_iff.mpr hm, hlast, hm.startedLast⟩
  · refine .inl ⟨habsent, ofLicenses_eq_absent_iff.mpr fun l hl => ?_⟩
    exact ofLicenses_eq_absent_iff.mp habsent l (p.mem_iff.mpr hl)

/-! ### Rows -/

variable {stored rows : List StoredLicense}

theorem ReadAs.perm (read : ReadAs stored licenses) (p : rows.Perm stored) :
    ∃ others, ReadAs rows others ∧ others.Perm licenses :=
  List.perm_comp_forall₂ p read

theorem ReadAs.ofStored_eq (read : ReadAs stored licenses) (organization : Uuid) (now : Int) :
    ofStored stored organization now = .ok (ofLicenses licenses organization now) :=
  ofStored_eq_ok_iff.mpr ⟨licenses, read, rfl⟩

theorem ReadAs.ids (read : ReadAs stored licenses) :
    licenses.map License.id = stored.map StoredLicense.id := by
  induction read with
  | nil => rfl
  | cons hrow _ ih =>
    obtain ⟨hid, -⟩ := License.ofStored_identity hrow
    rw [List.map_cons, List.map_cons, ih, hid]

theorem ReadAs.exists_front (read : ReadAs stored licenses) (h : StartedLast now licenses l)
    (organization : Uuid) : ∃ rows, rows.Perm stored ∧
      ofStored rows organization now = .ok (.found l) := by
  obtain ⟨row, hrow, hl⟩ := Outcome.exists_of_mem_results read h.mem
  have front : (row :: stored.erase row).Perm stored := (List.perm_cons_erase hrow).symm
  obtain ⟨others, hothers, p⟩ := read.perm front
  obtain ⟨first, rest, hfirst, -, rfl⟩ := List.forall₂_cons_left_iff.mp hothers
  obtain rfl : l = first := Except.ok.inj (hl.symm.trans hfirst)
  refine ⟨row :: stored.erase row, front, ?_⟩
  rw [hothers.ofStored_eq, ofLicenses_eq_found_iff.mpr (h.perm p.symm).inForce_front]

theorem ReadAs.eq_of_id (read : ReadAs stored licenses)
    (distinct : (stored.map StoredLicense.id).Nodup) (hl : l ∈ licenses) (hm : m ∈ licenses)
    (h : l.id = m.id) : l = m := by
  rw [← read.ids] at distinct
  exact List.inj_on_of_nodup_map distinct hl hm h

/-- **All orders of the rows** find nothing alike, or each a license that started last. -/
theorem ReadAs.ofStored_perm (read : ReadAs stored licenses) (p : rows.Perm stored)
    (organization : Uuid) (now : Int) :
    (ofStored rows organization now = .ok (.absent organization) ∧
        ofStored stored organization now = .ok (.absent organization)) ∨
      ∃ l m, ofStored rows organization now = .ok (.found l) ∧
        ofStored stored organization now = .ok (.found m) ∧
        StartedLast now licenses l ∧ StartedLast now licenses m := by
  obtain ⟨others, hothers, q⟩ := read.perm p
  rw [hothers.ofStored_eq, read.ofStored_eq]
  rcases ofLicenses_perm q organization with ⟨hothers, hlicenses⟩ | ⟨l, m, hl, hm, hlast, hlast'⟩
  · exact .inl ⟨congrArg _ hothers, congrArg _ hlicenses⟩
  · exact .inr ⟨l, m, congrArg _ hl, congrArg _ hm, hlast, hlast'⟩

theorem ReadAs.ofStored_eq_of_untied (read : ReadAs stored licenses) (untied : Untied now licenses)
    (p : rows.Perm stored) (organization : Uuid) :
    ofStored rows organization now = ofStored stored organization now := by
  rcases read.ofStored_perm p organization now with ⟨hrows, hstored⟩ | ⟨l, m, hl, hm, hlast, hlast'⟩
  · rw [hrows, hstored]
  · rw [hl, hm, untied l m hlast hlast']

theorem ReadAs.untied_of_ids (read : ReadAs stored licenses)
    (distinct : (stored.map StoredLicense.id).Nodup) {organization : Uuid}
    (same : ∀ rows : List StoredLicense, rows.Perm stored →
      (ofStored rows organization now).map id? = (ofStored stored organization now).map id?) :
    Untied now licenses := by
  intro l m hl hm
  obtain ⟨rows, p, hrows⟩ := read.exists_front hl organization
  obtain ⟨rows', p', hrows'⟩ := read.exists_front hm organization
  have hid := (same rows p).trans (same rows' p').symm
  rw [hrows, hrows'] at hid
  exact read.eq_of_id distinct hl.mem hm.mem (Option.some.inj (Except.ok.inj hid))

end Selection

/-! ### Calls -/

theorem Service.active_congr (service : Service) {organization : Uuid} {s s' : Session}
    (henv : s'.environment = s.environment)
    (h : selected organization s' = selected organization s) :
    ((service.active organization).exec s').1 = ((service.active organization).exec s).1 := by
  obtain ⟨-, hrun⟩ := service.active_run organization s
  obtain ⟨-, hrun'⟩ := service.active_run organization s'
  rw [h] at hrun'
  cases hselected : selected organization s with
  | error fault =>
    rw [hselected] at hrun hrun'
    rw [hrun.1, hrun'.1]
  | ok selection =>
    rw [hselected] at hrun hrun'
    rw [hrun.1, hrun'.1, henv]

open Selection in
/-- **The order of the rows matters on ties only.** For rows with distinct ids that can all be read,
any order finds nothing where another one does, and otherwise one of the licenses that started last
among the eligible ones. If one license alone started last, every order finds the same, and two
calls at the same time get the same license though the rows come back in different orders; and
only then do all orders lead to one id. -/
theorem order_matters_on_ties_only {stored : List StoredLicense} {licenses : List License}
    (read : ReadAs stored licenses) (distinct : (stored.map StoredLicense.id).Nodup)
    (organization : Uuid) (now : Int) :
    (∀ rows, rows.Perm stored →
      (ofStored rows organization now = .ok (.absent organization) ∧
          ofStored stored organization now = .ok (.absent organization)) ∨
        ∃ l m, ofStored rows organization now = .ok (.found l) ∧
          ofStored stored organization now = .ok (.found m) ∧
          StartedLast now licenses l ∧ StartedLast now licenses m) ∧
    (Untied now licenses → ∀ rows, rows.Perm stored →
      ofStored rows organization now = ofStored stored organization now ∧
      ∀ (service : Service) (s s' : Session), s'.environment = s.environment →
        Service.seconds s.environment.clock = .ok now →
        ((Store.getAll organization).exec s).1 = .ok stored →
        ((Store.getAll organization).exec s').1 = .ok rows →
          ((service.active organization).exec s').1 = ((service.active organization).exec s).1) ∧
    ((∀ rows, rows.Perm stored →
        (ofStored rows organization now).map id? = (ofStored stored organization now).map id?) →
      Untied now licenses) := by
  refine ⟨fun rows p => read.ofStored_perm p organization now, fun untied rows p => ?_,
    fun same => read.untied_of_ids distinct same⟩
  have hsame := read.ofStored_eq_of_untied untied p organization
  refine ⟨hsame, fun service s s' henv hnow hstored hrows => service.active_congr henv ?_⟩
  unfold Service.selected
  rw [hstored, hrows, henv, hnow]
  exact hsame

namespace Selection

/-! ### Two licenses that started at once -/

/-- A row with a start and no end. -/
def startedRow (id : Uuid) (key : Text) (start : Int) : StoredLicense :=
  ⟨id, key, .nil, .object [("status", .string "S"), ("plan", .object [("name", .string "P")]),
    ("valid_from", .int start), ("valid_until", .int (-1))],
    DateTime.first, DateTime.first, DateTime.first⟩

/-- What a row with a start is read as. -/
def startedLicense (id : Uuid) (key : Text) (start : Int) : License :=
  let data : Dictionary := .ofMembers [("status", .string "S"),
    ("plan", .object [("name", .string "P")]), ("valid_from", .int start),
    ("valid_until", .int (-1)), ("features", Catalog.standard.json)]
  ⟨id, key, .nil, ⟨"P", "S", [], DateTime.first, start, -1, Catalog.standard, data⟩,
    DateTime.first, DateTime.first, DateTime.first⟩

theorem ofStored_startedRow (id : Uuid) (key : Text) (start : Int) :
    License.ofStored (startedRow id key start) Catalog.standard =
      .ok (startedLicense id key start) := rfl

/-- The id of value one. -/
def unitId : Uuid := ⟨⟨1, by decide⟩⟩

/-- A renewal that stands between two licenses that started at once. -/
def renewedRows : List StoredLicense :=
  [startedRow .nil "K" 3, startedRow .first "L" 7, startedRow unitId "M" 3]

/-- What these rows are read as. -/
def renewedLicenses : List License :=
  [startedLicense .nil "K" 3, startedLicense .first "L" 7, startedLicense unitId "M" 3]

theorem renewedLicenses_untied : Untied 0 renewedLicenses := by
  have renewal : ∀ l, StartedLast 0 renewedLicenses l → l = startedLicense .first "L" 7 := by
    intro l hl
    have hstart : 7 ≤ l.terms.validFrom :=
      hl.latest (startedLicense .first "L" 7) (by simp [renewedLicenses]) ⟨by decide, .inl rfl⟩
    have hmem : l = startedLicense .nil "K" 3 ∨ l = startedLicense .first "L" 7 ∨
        l = startedLicense unitId "M" 3 := by
      simpa [renewedLicenses] using hl.mem
    rcases hmem with rfl | rfl | rfl
    · exact absurd hstart (by decide)
    · rfl
    · exact absurd hstart (by decide)
  intro l m hl hm
  rw [renewal l hl, renewal m hm]

theorem renewal_is_found_in_both_orders :
    ReadAs renewedRows renewedLicenses ∧ (renewedRows.map StoredLicense.id).Nodup ∧
      ofStored renewedRows.reverse .nil 0 = ofStored renewedRows .nil 0 := by
  have read : ReadAs renewedRows renewedLicenses := .cons rfl (.cons rfl (.cons rfl .nil))
  have distinct : (renewedRows.map StoredLicense.id).Nodup := by decide
  obtain ⟨-, hsame, -⟩ := order_matters_on_ties_only read distinct .nil 0
  exact ⟨read, distinct, (hsame renewedLicenses_untied _ (List.reverse_perm _)).1⟩

/-- Of two licenses that started at once, the one in front is found, so exchanging them finds the
other one. -/
theorem not_every_order_finds_the_same :
    ¬ ∀ (stored rows : List StoredLicense) (organization : Uuid) (now : Int),
      (∀ s ∈ stored, s.organization = organization) →
      (stored.map StoredLicense.id).Nodup → (stored.map StoredLicense.key).Nodup →
      (∀ s ∈ stored, ∃ l, License.ofStored s Catalog.standard = .ok l) → rows.Perm stored →
        (ofStored rows organization now).map id? = (ofStored stored organization now).map id? := by
  intro same
  let first := startedRow .nil "K" 7
  let second := startedRow .first "L" 7
  have readable : ∀ s ∈ [first, second], ∃ l, License.ofStored s Catalog.standard = .ok l := by
    intro s hs
    rcases List.mem_pair.mp hs with rfl | rfl
    · exact ⟨_, ofStored_startedRow ..⟩
    · exact ⟨_, ofStored_startedRow ..⟩
  have owned : ∀ s ∈ [first, second], s.organization = .nil := by
    intro s hs
    rcases List.mem_pair.mp hs with rfl | rfl <;> rfl
  have hid : (ofStored [second, first] .nil 0).map id? =
      (ofStored [first, second] .nil 0).map id? :=
    same _ _ _ 0 owned (by decide) (by decide) readable (List.Perm.swap ..)
  have hsecond : (ofStored [second, first] .nil 0).map id? = .ok (some .first) := rfl
  have hfirst : (ofStored [first, second] .nil 0).map id? = .ok (some .nil) := rfl
  rw [hsecond, hfirst] at hid
  exact absurd (Except.ok.inj hid) (by decide)

end Selection

end Entitlement
