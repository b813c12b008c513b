import Entitlement.Proofs.License.Stored
import Entitlement.Proofs.Service.FailedWrite
import Entitlement.Proofs.Service.Resolution

/-! # The license view of an organization

A row is *filed* if its text decodes to filed data (`Row.Filed`). A write puts filed rows into the
table only (`Write.tableAfter_cases`, `Write.FromPayload.filed`), so every row of a table that calls
reach is filed (`Service.Reaches.filed`), whatever the calls bring and however they end. Filed rows
can all be read, and one that cannot is all that would keep an organization from its view; so every
organization has one, its own or the synthetic one (`Service.every_organization_has_a_view`). -/

namespace Entitlement

open Entitlement.Task

/-! ### Rows that can be read -/

namespace Row

/-- The text of the row decodes to filed data. -/
def Filed (features : Json) (row : Row) : Prop :=
  ∃ members, Json.decode row.data = .ok (.object members) ∧ Payload.Filed features members

/-- The license that is rebuilt from a row. -/
def license (catalog : Catalog) (row : Row) : Except Fault License := do
  License.ofStored (← Store.ofRow row) catalog

theorem Filed.readable {features : Json} {row : Row} (h : row.Filed features) (catalog : Catalog) :
    ∃ stored l, Store.ofRow row = .ok stored ∧ License.ofStored stored catalog = .ok l ∧
      l.id = row.id ∧ l.key = row.key ∧ l.organization = row.organization ∧
      l.createdAt = row.createdAt := by
  obtain ⟨members, hdecode, hfiled⟩ := h
  have hrow : Store.ofRow row = .ok ⟨row.id, row.key, row.organization, .object members,
      row.createdAt, row.updatedAt, row.lastValidatedAt⟩ := by
    rw [Store.ofRow, hdecode]
    rfl
  obtain ⟨l, hl, hid, hkey, horg, hcreated⟩ := License.ofStored_of_filed hfiled
    ⟨row.id, row.key, row.organization, .object members, row.createdAt, row.updatedAt,
      row.lastValidatedAt⟩ rfl catalog
  exact ⟨_, l, hrow, hl, hid, hkey, horg, hcreated⟩

end Row

/-! ### What a write puts into the table -/

namespace Write

variable (service : Service) (w : Write) (s : Session)

theorem tableAfter_eq {l : License} {s₁ : Session} (hd : (w.draft service).exec s = (.ok l, s₁)) :
    w.tableAfter service s = ((w.record l).exec s₁).2.database.table := by
  unfold tableAfter
  rw [act_eq, exec_bind_ok hd, exec_bind]
  obtain ⟨-, hannounce⟩ := Service.announce_exec w.event w.organization l ((w.record l).exec s₁).2
  rcases hr : (w.record l).exec s₁ with ⟨fault | u, s₂⟩
  · rfl
  · rw [hr] at hannounce
    dsimp only
    rw [exec_bind]
    rcases ha : (Service.announce w.event w.organization l).exec s₂ with ⟨fault | u, s₃⟩
    · rw [ha] at hannounce
      exact congrArg Database.table hannounce
    · rw [ha] at hannounce
      exact congrArg Database.table hannounce

/-- A call leaves the table alone, or a drafted license is stored by one accepted statement. -/
theorem tableAfter_cases (distinct : Table.Distinct s.database.table) :
    w.tableAfter service s = s.database.table ∨
    ∃ l now, ((w.draft service).exec s).1 = .ok l ∧ l.stored.data.isWritable = true ∧
      (w.statement l now).run s.database.table = (.ok (.changed 1), w.tableAfter service s) := by
  have hdraft := draft_table service w s
  rcases hd : (w.draft service).exec s with ⟨fault | l, s₁⟩
  · rw [hd] at hdraft
    unfold tableAfter
    rw [act_eq, exec_bind_error hd]
    exact .inl hdraft
  have ht : s₁.database.table = s.database.table := by rw [hd] at hdraft; exact hdraft
  rw [tableAfter_eq service w s hd]
  rcases w.record_cases l s₁ (ht ▸ distinct) with ⟨-, hw, hrun⟩ | ⟨fault, -, htable⟩
  · exact .inr ⟨l, _, rfl, hw, ht ▸ hrun⟩
  · exact .inl (htable.trans ht)

theorem Stores.run (distinct : Table.Distinct s.database.table) {l : License}
    (h : Stores service w s l) : l.stored.data.isWritable = true ∧
      (w.statement l ((w.draft service).exec s).2.environment.utc).run s.database.table =
        (.ok (.changed 1), w.tableAfter service s) := by
  have hd : (w.draft service).exec s = (.ok l, ((w.draft service).exec s).2) :=
    Prod.ext h.drafted rfl
  have ht := draft_table service w s
  rw [tableAfter_eq service w s hd]
  rcases w.record_cases l ((w.draft service).exec s).2 (ht ▸ distinct) with
    ⟨-, hw, hrun⟩ | ⟨fault, hr, -⟩
  · exact ⟨hw, ht ▸ hrun⟩
  · rw [h.recorded] at hr
    cases hr

/-- The license has the terms of a payload that was read. -/
def FromPayload (l : License) : Prop :=
  ∃ payload organization now fresh,
    License.parse payload organization service.catalog now = .ok fresh ∧ l.terms = fresh.terms

theorem revised_eq {organization id : Uuid} {payload : Document} {now : DateTime}
    {reply : Except Fault Reply} {stored : StoredLicense} {old : License}
    (hs : Store.afterGet organization id reply = .ok stored)
    (ho : License.ofStored stored service.catalog = .ok old) :
    revised service organization id payload now reply =
      ((License.parse payload old.organization service.catalog now).map
        fun fresh => old.withTerms fresh now).mapError
          (Service.wrapRefusal "failed to update license entity") := by
  unfold revised
  rw [hs]
  simp only [bind, Except.bind, ho, License.refresh]
  cases License.parse payload old.organization service.catalog now <;> rfl

theorem revised_eq_ok {organization id : Uuid} {payload : Document} {now : DateTime}
    {reply : Except Fault Reply} {l : License}
    (h : revised service organization id payload now reply = .ok l) :
    ∃ stored old fresh, Store.afterGet organization id reply = .ok stored ∧
      License.ofStored stored service.catalog = .ok old ∧
      License.parse payload old.organization service.catalog now = .ok fresh ∧
      l = old.withTerms fresh now := by
  cases hs : Store.afterGet organization id reply with
  | error fault =>
    unfold revised at h
    rw [hs] at h
    cases h
  | ok stored =>
    cases ho : License.ofStored stored service.catalog with
    | error fault =>
      unfold revised at h
      rw [hs] at h
      simp only [bind, Except.bind, ho] at h
      cases h
    | ok old =>
      rw [revised_eq service hs ho] at h
      cases hp : License.parse payload old.organization service.catalog now with
      | error fault =>
        rw [hp] at h
        cases h
      | ok fresh =>
        rw [hp] at h
        exact ⟨stored, old, fresh, rfl, ho, hp, (Except.ok.inj h).symm⟩

theorem revised_fromPayload {organization id : Uuid} {payload : Document} {now : DateTime}
    {reply : Except Fault Reply} {l : License}
    (h : revised service organization id payload now reply = .ok l) : FromPayload service l := by
  obtain ⟨stored, old, fresh, -, -, hparse, rfl⟩ := revised_eq_ok service h
  exact ⟨_, _, _, fresh, hparse, rfl⟩

theorem FromPayload.data_eq {l : License} (h : FromPayload service l) :
    ∃ payload organization now fresh,
      License.parse payload organization service.catalog now = .ok fresh ∧
      l.stored.data = fresh.stored.data := by
  obtain ⟨payload, organization, now, fresh, hparse, hterms⟩ := h
  refine ⟨payload, organization, now, fresh, hparse, ?_⟩
  rw [License.stored, License.stored, hterms]

theorem FromPayload.nesting_le {l : License} (h : FromPayload service l) :
    l.stored.data.nesting ≤ Json.Reader.depthLimit := by
  obtain ⟨payload, organization, now, fresh, hparse, hdata⟩ := h.data_eq service
  obtain ⟨members, -, -, hmembers, fits⟩ := License.parse_stored hparse
  rw [hdata, License.stored_data hmembers]
  exact fits.nesting_le

theorem FromPayload.filed {l : License} (h : FromPayload service l)
    (hw : l.stored.data.isWritable = true) :
    ∃ members, Json.decode l.stored.data.storedText = .ok (.object members) ∧
      Payload.Filed (service.catalog.json.reread .stored) members := by
  obtain ⟨payload, organization, now, fresh, hparse, hdata⟩ := h.data_eq service
  rw [hdata] at hw ⊢
  exact License.parse_filed hparse hw

theorem draft_fromPayload {l : License} (h : ((w.draft service).exec s).1 = .ok l) :
    FromPayload service l := by
  cases w with
  | activate organization key =>
    unfold draft at h
    rw [exec_bind] at h
    rcases hf : (Service.wrapping "unable to fetch license data with upstream server"
        (service.client.fetchLicense key)).exec s with ⟨fault | payload, s₁⟩
    · rw [hf] at h
      cases h
    · rw [hf] at h
      dsimp only at h
      rw [Act.exec_now_bind, Service.wrapping_exec] at h
      exact ⟨_, _, _, l, mapError_eq_ok h, rfl⟩
  | update organization id payload =>
    rw [update_draft_exec] at h
    exact revised_fromPayload service h

end Write

/-! ### Tables that calls reach -/

namespace Service

/-- The table is reached from the empty one by calls that write, each in a session of its own and
with any end. -/
inductive Reaches (service : Service) : Table → Prop where
  | empty : Reaches service []
  | call (w : Write) (s : Session) (h : Reaches service s.database.table) :
    Reaches service (w.tableAfter service s)

theorem Reaches.distinct {service : Service} {table : Table} (h : Reaches service table) :
    Table.Distinct table := by
  induction h with
  | empty => exact .nil
  | call w s _ ih =>
    rcases w.tableAfter_cases service s ih with h | ⟨l, now, -, -, hrun⟩
    · rw [h]
      exact ih
    · have := ih.run (w.statement l now)
      rw [hrun] at this
      exact this

/-- **Every row that calls reach is filed.** -/
theorem Reaches.filed {service : Service} {table : Table} (h : Reaches service table) :
    ∀ row ∈ table, row.Filed (service.catalog.json.reread .stored) := by
  induction h with
  | empty => exact nofun
  | call w s h ih =>
    rcases w.tableAfter_cases service s h.distinct with htable | ⟨l, now, hdraft, hw, hrun⟩
    · rw [htable]
      exact ih
    obtain ⟨members, hdecode, hfiled⟩ := (w.draft_fromPayload service s hdraft).filed service hw
    intro row hrow
    have hafter : ((w.statement l now).run s.database.table).2 = w.tableAfter service s := by
      rw [hrun]
    rcases Statement.mem_run (hafter ▸ hrow) with hold | hnew
    · exact ih row hold
    · have hdata : row.data = l.stored.data.storedText := by
        cases w <;> exact (congrArg Prod.fst (Option.some.inj hnew)).symm
      exact ⟨members, hdata ▸ hdecode, hfiled⟩

end Service

/-! ### The license in force -/

namespace Selection

theorem licenses_of_filed {features : Json} {rows : List Row}
    (h : ∀ row ∈ rows, row.Filed features) :
    ∃ stored licenses, rows.mapM Store.ofRow = .ok stored ∧
      Selection.licenses stored = .ok licenses ∧
      List.Forall₂ (fun row l => row.license Catalog.standard = .ok l ∧ l.key = row.key ∧
        l.organization = row.organization) rows licenses := by
  induction rows with
  | nil => exact ⟨[], [], rfl, rfl, .nil⟩
  | cons row rows ih =>
    obtain ⟨stored, licenses, hrows, hlicenses, hall⟩ :=
      ih fun r hr => h r (List.mem_cons_of_mem _ hr)
    obtain ⟨first, l, hrow, hl, -, hkey, horg, -⟩ :=
      (h row (List.mem_cons_self ..)).readable .standard
    refine ⟨first :: stored, l :: licenses, ?_, ?_, .cons ⟨?_, hkey, horg⟩ hall⟩
    · rw [List.mapM_cons, hrow, hrows]
      rfl
    · unfold Selection.licenses at *
      rw [List.mapM_cons, hl, hlicenses]
      rfl
    · rw [Row.license, hrow]
      exact hl

end Selection

namespace Service

theorem seconds_ok {clock : Binary64} (h : clock.isFinite = true) :
    ∃ now, seconds clock = .ok now := by
  cases clock with
  | finite negative exponent fraction => exact ⟨_, rfl⟩
  | infinite negative => cases h
  | nan => cases h

/-- **Where all rows of an organization are filed, the license in force is chosen among what they
are read as**, row by row. -/
theorem active_of_rows (service : Service) {features : Json} (organization : Uuid) {s : Session}
    (answers : s.database.Answers) (clock : s.environment.clock.isFinite = true)
    (h : ∀ row ∈ s.database.table, row.organization = organization → row.Filed features) :
    ∃ licenses now, seconds s.environment.clock = .ok now ∧
      List.Forall₂ (fun row l => row.license Catalog.standard = .ok l ∧ l.key = row.key ∧
        l.organization = row.organization)
        (s.database.table.filter (·.organization = organization)) licenses ∧
      ((service.active organization).exec s).1 = .ok (service.handed organization s.environment.utc
        (Selection.ofLicenses licenses organization now)) := by
  have hfiled : ∀ row ∈ s.database.table.filter (·.organization = organization),
      row.Filed features := fun row hrow => by
    obtain ⟨hmem, horg⟩ := List.mem_filter.mp hrow
    exact h row hmem (by simpa using horg)
  obtain ⟨stored, licenses, hrows, hlicenses, hall⟩ := Selection.licenses_of_filed hfiled
  obtain ⟨now, hnow⟩ := seconds_ok clock
  refine ⟨licenses, now, hnow, hall, ?_⟩
  have hgetAll : Store.afterGetAll (s.database.ask (.findAll organization)).1 = .ok stored := by
    rw [answers.ask, answers.send]
    exact hrows
  have hselected : selected organization s =
      .ok (Selection.ofLicenses licenses organization now) := by
    rw [selected_eq, hgetAll]
    dsimp only
    rw [hnow]
    dsimp only
    rw [Selection.ofStored_eq, hlicenses]
    rfl
  rw [(service.active_exec organization s).1, viewed_eq, hselected]
  rfl

theorem active_of_filed (service : Service) {features : Json} (organization : Uuid) {s : Session}
    (answers : s.database.Answers) (clock : s.environment.clock.isFinite = true)
    (h : ∀ row ∈ s.database.table, row.organization = organization → row.Filed features) :
    ∃ l, ((service.active organization).exec s).1 = .ok l ∧ l.organization = organization ∧
      ((∃ row ∈ s.database.table, row.organization = organization ∧
          row.license Catalog.standard = .ok l) ∨
        l = License.synthetic organization service.catalog s.environment.utc) := by
  obtain ⟨licenses, now, -, hall, hactive⟩ :=
    service.active_of_rows organization answers clock h
  refine ⟨_, hactive, ?_⟩
  rcases Selection.ofLicenses_cases licenses organization now with ⟨l, hl, hfound⟩ | habsent
  · rw [hfound]
    obtain ⟨row, hrow, hlicense, -, horg⟩ := Outcome.exists_of_mem_results hall hl
    obtain ⟨hrow, hown⟩ := List.mem_filter.mp hrow
    have hown : row.organization = organization := by simpa using hown
    exact ⟨horg.trans hown, .inl ⟨row, hrow, hown, hlicense⟩⟩
  · rw [habsent]
    exact ⟨rfl, .inr rfl⟩

theorem reread_standard : Catalog.standard.json.reread .stored = Catalog.standard.json := by
  decide

/-- **Every organization has a license view.** In a table that calls reach with the standard catalog
every text decodes to filed data; and whatever the table and the time on the clock, an organization
gets a license of its own: one that is rebuilt from a row of the organization, or the synthetic
one. -/
theorem every_organization_has_a_view (service : Service) (standard : service.catalog = .standard)
    {table : Table} (h : Reaches service table) :
    (∀ row ∈ table, row.Filed Catalog.standard.json) ∧
    ∀ (organization : Uuid) (s : Session), s.database.table = table → s.database.Answers →
      s.environment.clock.isFinite = true →
      ∃ l, ((service.active organization).exec s).1 = .ok l ∧ l.organization = organization ∧
        ((∃ row ∈ table, row.organization = organization ∧
            row.license Catalog.standard = .ok l) ∨
          l = License.synthetic organization Catalog.standard s.environment.utc) := by
  have hfiled : ∀ row ∈ table, row.Filed Catalog.standard.json := by
    have := h.filed
    rw [standard, reread_standard] at this
    exact this
  refine ⟨hfiled, fun organization s htable answers clock => ?_⟩
  subst htable
  have := service.active_of_filed organization answers clock fun row hrow _ => hfiled row hrow
  rw [standard] at this
  exact this

/-- A session on a table, with a database that answers. -/
def sessionOn (table : Table) : Session :=
  { Write.lateSession with database := { Write.lateSession.database with table } }

theorem sessionOn_table (table : Table) : (sessionOn table).database.table = table := rfl

theorem sessionOn_answers (table : Table) : (sessionOn table).database.Answers := ⟨rfl, rfl⟩

theorem sessionOn_seconds (table : Table) :
    seconds (sessionOn table).environment.clock = .ok 0 := rfl

/-- The view of an organization after an activation that stores a license and fails. -/
theorem view_after_late_activation :
    let table := Write.lateActivation.tableAfter Write.plainService Write.lateSession
    Reaches Write.plainService table ∧ table ≠ [] ∧
      (∀ row ∈ table, row.Filed Catalog.standard.json) ∧
      ∃ l, ((Write.plainService.active Uuid.nil).exec (sessionOn table)).1 = .ok l ∧
        l.organization = Uuid.nil := by
  have hempty : Reaches Write.plainService Write.lateSession.database.table := .empty
  have hreach := hempty.call Write.lateActivation Write.lateSession
  have hne := Write.lateActivation_fails_and_stores.2
  intro table
  change Reaches Write.plainService table at hreach
  change table ≠ [] at hne
  clear_value table
  obtain ⟨hfiled, hview⟩ := every_organization_has_a_view Write.plainService rfl hreach
  obtain ⟨l, hl, horg, -⟩ := hview Uuid.nil (sessionOn table) rfl ⟨rfl, rfl⟩ rfl
  exact ⟨hreach, hne, hfiled, l, hl, horg⟩

end Service

end Entitlement
