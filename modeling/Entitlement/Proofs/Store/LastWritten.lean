import Entitlement.Proofs.Outcome
import Entitlement.Proofs.Store.Exchange
import Entitlement.Proofs.Store.Rows

/-! # The store returns what was last written

A history of the store is a list of visits that starts from the empty table (`Store.History`): each
visit carries out one operation in a session of its own, with any time on the clock and any state of
the database but for the table. What a visit does to the table is one of four things
(`Visit.cases`), and a visit that fails does nothing.

The license of an organization and an id that was last written (`Store.lastWritten`) is the one that
was created, with data and times of its last revision. After every history the table holds just the
rows of the licenses that were last written (`Store.Holds`, kept by `Holds.visit`); their data, if
it is joined, is decoded to what was encoded. So the store returns what was last written
(`Store.store_returns_last_written`). -/

namespace Entitlement

open Entitlement.Task

/-- What an update writes into a license. -/
structure Revision where
  data : Json
  updatedAt : DateTime
  lastValidatedAt : DateTime

/-- The license after a revision. -/
def StoredLicense.revised (stored : StoredLicense) (r : Revision) : StoredLicense :=
  { stored with data := r.data, updatedAt := r.updatedAt, lastValidatedAt := r.lastValidatedAt }

namespace Store

/-! ### Visits -/

/-- The operations on licenses. -/
inductive Operation where
  | create (stored : StoredLicense)
  | update (organization : Uuid) (stored : StoredLicense)
  | get (organization id : Uuid)
  | getAll (organization : Uuid)

namespace Operation

/-- The operation as the store carries it out, whatever it returns. -/
def act : Operation → Act Unit
  | .create stored => Store.create stored
  | .update organization stored => Store.update organization stored
  | .get organization id => do let _ ← Store.get organization id
  | .getAll organization => do let _ ← Store.getAll organization

/-- The data that the operation writes. -/
def data? : Operation → Option Json
  | .create stored => some stored.data
  | .update _ stored => some stored.data
  | .get _ _ | .getAll _ => none

end Operation

/-- An operation, and the session that it is carried out in. -/
structure Visit where
  operation : Operation
  session : Session

namespace Visit

/-- Whether the operation succeeds. -/
def accepted (v : Visit) : Bool := (v.operation.act.exec v.session).1.isOk

def tableBefore (v : Visit) : Table := v.session.database.table

def tableAfter (v : Visit) : Table := (v.operation.act.exec v.session).2.database.table

/-- What the visit creates under an id of an organization. -/
def creation? (organization id : Uuid) (v : Visit) : Option StoredLicense :=
  match v.operation with
  | .create stored =>
    if v.accepted ∧ stored.organization = organization ∧ stored.id = id then some stored else none
  | _ => none

/-- What the visit writes into the license of an id of an organization. -/
def revision? (organization id : Uuid) (v : Visit) : Option Revision :=
  match v.operation with
  | .update o stored =>
    if v.accepted ∧ o = organization ∧ stored.id = id then
      some ⟨stored.data, v.session.environment.utc, stored.lastValidatedAt⟩
    else none
  | _ => none

/-- The data that is written is joined, and the names of its objects are distinct. -/
def Proper (v : Visit) : Prop :=
  ∀ data ∈ v.operation.data?, data.isJoined = true ∧ ∃ depth, data.Fits depth

end Visit

/-- **The license that was last written:** the one that was created, as its last revision left it.
-/
def lastWritten (organization id : Uuid) (visits : List Visit) : Option StoredLicense :=
  (visits.findSome? (Visit.creation? organization id)).map fun created =>
    match (visits.filterMap (Visit.revision? organization id)).getLast? with
    | some revision => created.revised revision
    | none => created

/-- Visits one after another, from the empty table to the one that they leave. -/
inductive History : List Visit → Table → Prop where
  | empty : History [] []
  | visit {visits : List Visit} {table : Table} (h : History visits table) (v : Visit)
    (met : v.tableBefore = table) : History (visits ++ [v]) v.tableAfter

/-! ### What a visit does -/

namespace Visit

variable (v : Visit)

theorem create_cases {stored : StoredLicense} (h : v.operation = .create stored) :
    (v.accepted = true ∧ stored.data.checkWritable = .ok () ∧
      v.tableBefore.any (·.collides stored.row) = false ∧
      v.tableAfter = v.tableBefore ++ [stored.row]) ∨
    (v.accepted = false ∧ v.tableAfter = v.tableBefore) := by
  obtain ⟨hresult, hdatabase, -⟩ := create_exec stored v.session
  unfold accepted tableAfter tableBefore
  rw [h]
  dsimp only [Operation.act]
  rw [hresult, hdatabase]
  rcases v.session.database.write_cases stored.data (.insert stored.row) with
    ⟨hcheck, hreply, htable⟩ | ⟨fault, hreply, htable⟩
  · rw [hreply, htable]
    rcases Statement.run_insert_cases stored.row v.session.database.table with
      ⟨hfree, hrun⟩ | ⟨-, hrun⟩
    · rw [hrun]
      exact .inl ⟨rfl, hcheck, hfree, rfl⟩
    · rw [hrun]
      exact .inr ⟨rfl, rfl⟩
  · rw [hreply, htable]
    exact .inr ⟨rfl, rfl⟩

theorem update_cases (distinct : Table.Distinct v.tableBefore) {organization : Uuid}
    {stored : StoredLicense} (h : v.operation = .update organization stored) :
    (v.accepted = true ∧ stored.data.checkWritable = .ok () ∧
      (∃ row ∈ v.tableBefore, row.isAt organization stored.id = true) ∧
      v.tableAfter = v.tableBefore.map (Row.updated organization stored.id stored.data.storedText
        v.session.environment.utc stored.lastValidatedAt)) ∨
    (v.accepted = false ∧ v.tableAfter = v.tableBefore) := by
  obtain ⟨hresult, hdatabase, -⟩ := update_exec organization stored v.session
  unfold accepted tableAfter tableBefore at *
  rw [h]
  dsimp only [Operation.act]
  rw [hresult, hdatabase]
  rcases v.session.database.write_cases stored.data
      (revisingAt organization stored v.session.environment.utc) with
    ⟨hcheck, hreply, htable⟩ | ⟨fault, hreply, htable⟩
  · rw [hreply, htable]
    dsimp only [revisingAt, revising, touched]
    rcases distinct.run_update_cases organization stored.id stored.data.storedText
      v.session.environment.utc stored.lastValidatedAt with ⟨hrow, hrun⟩ | ⟨-, hrun⟩
    · rw [hrun]
      exact .inl ⟨rfl, hcheck, hrow, rfl⟩
    · rw [hrun]
      exact .inr ⟨rfl, rfl⟩
  · rw [hreply, htable]
    exact .inr ⟨rfl, rfl⟩

theorem read_table (h : v.operation.data? = none) : v.tableAfter = v.tableBefore := by
  have hask : ∀ statement : Statement, (statement.run v.tableBefore).2 = v.tableBefore →
      (v.session.database.ask statement).2.table = v.tableBefore := by
    intro statement hrun
    rcases v.session.database.ask_cases statement with ⟨-, htable⟩ | ⟨_, -, htable⟩
    · exact htable.trans hrun
    · exact htable
  unfold tableAfter
  cases hop : v.operation with
  | create stored =>
    rw [hop] at h
    cases h
  | update organization stored =>
    rw [hop] at h
    cases h
  | get organization id =>
    dsimp only [Operation.act]
    rw [exec_discard, get_exec]
    exact hask _ rfl
  | getAll organization =>
    dsimp only [Operation.act]
    rw [exec_discard, getAll_exec]
    exact hask _ rfl

variable {v} {organization id : Uuid}

theorem creation?_eq_some {stored : StoredLicense}
    (h : v.creation? organization id = some stored) :
    v.operation = .create stored ∧ v.accepted = true ∧ stored.organization = organization ∧
      stored.id = id := by
  unfold creation? at h
  split at h
  · next other hop =>
    split at h
    · next hat =>
      obtain rfl := Option.some.inj h
      exact ⟨hop, hat⟩
    · cases h
  · cases h

theorem revision?_eq_some {r : Revision} (h : v.revision? organization id = some r) :
    ∃ stored, v.operation = .update organization stored ∧ v.accepted = true ∧ stored.id = id ∧
      r = ⟨stored.data, v.session.environment.utc, stored.lastValidatedAt⟩ := by
  unfold revision? at h
  split at h
  · next o stored hop =>
    split at h
    · next hat =>
      obtain ⟨hacc, rfl, hid⟩ := hat
      exact ⟨stored, hop, hacc, hid, (Option.some.inj h).symm⟩
    · cases h
  · cases h

theorem creation?_of_create {stored : StoredLicense} (hop : v.operation = .create stored)
    (hacc : v.accepted = true) :
    v.creation? stored.organization stored.id = some stored := by
  unfold creation?
  rw [hop]
  exact if_pos ⟨hacc, rfl, rfl⟩

theorem revision?_of_update {stored : StoredLicense} (hop : v.operation = .update organization stored)
    (hacc : v.accepted = true) : v.revision? organization stored.id =
      some ⟨stored.data, v.session.environment.utc, stored.lastValidatedAt⟩ := by
  unfold revision?
  rw [hop]
  exact if_pos ⟨hacc, rfl, rfl⟩

theorem writes_nothing_of_rejected (h : v.accepted = false) :
    v.creation? organization id = none ∧ v.revision? organization id = none := by
  constructor
  · refine Option.eq_none_iff_forall_ne_some.mpr fun stored hc => ?_
    rw [(creation?_eq_some hc).2.1] at h
    cases h
  · refine Option.eq_none_iff_forall_ne_some.mpr fun r hr => ?_
    obtain ⟨-, -, hacc, -⟩ := revision?_eq_some hr
    rw [hacc] at h
    cases h

theorem writes_nothing_of_read (h : v.operation.data? = none) :
    v.creation? organization id = none ∧ v.revision? organization id = none := by
  constructor
  · refine Option.eq_none_iff_forall_ne_some.mpr fun stored hc => ?_
    rw [(creation?_eq_some hc).1] at h
    cases h
  · refine Option.eq_none_iff_forall_ne_some.mpr fun r hr => ?_
    obtain ⟨stored, hop, -⟩ := revision?_eq_some hr
    rw [hop] at h
    cases h

end Visit

/-! ### The license that was last written -/

variable {organization id : Uuid} {visits : List Visit} {v : Visit}

theorem lastWritten_eq_none_iff : lastWritten organization id visits = none ↔
    visits.findSome? (Visit.creation? organization id) = none := by
  unfold lastWritten
  rw [Option.map_eq_none_iff]

theorem lastWritten_append_other (hc : v.creation? organization id = none)
    (hr : v.revision? organization id = none) :
    lastWritten organization id (visits ++ [v]) = lastWritten organization id visits := by
  unfold lastWritten
  rw [List.findSome?_append, List.filterMap_append]
  simp [hc, hr]

theorem lastWritten_append_creation {stored : StoredLicense}
    (hnew : visits.findSome? (Visit.creation? organization id) = none)
    (hrev : visits.filterMap (Visit.revision? organization id) = [])
    (hc : v.creation? organization id = some stored)
    (hr : v.revision? organization id = none) :
    lastWritten organization id (visits ++ [v]) = some stored := by
  unfold lastWritten
  rw [List.findSome?_append, List.filterMap_append, hnew, hrev]
  simp [hc, hr]

theorem lastWritten_append_revision {r : Revision} (hc : v.creation? organization id = none)
    (hr : v.revision? organization id = some r) :
    lastWritten organization id (visits ++ [v]) =
      (lastWritten organization id visits).map (·.revised r) := by
  unfold lastWritten
  rw [List.findSome?_append, List.filterMap_append]
  simp only [List.findSome?_cons, hc, List.findSome?_nil, Option.or_none, List.filterMap_cons, hr,
    List.filterMap_nil, List.getLast?_append, List.getLast?_singleton, Option.some_or,
    Option.map_map]
  congr 1
  funext created
  dsimp only [Function.comp]
  split <;> rfl

/-! ### The table after a history -/

/-- The table holds the rows of the licenses that were last written. -/
structure Holds (visits : List Visit) (table : Table) : Prop where
  distinct : table.Distinct
  found : ∀ organization id, table.find? (·.isAt organization id) =
    (lastWritten organization id visits).map StoredLicense.row
  created : ∀ organization id, lastWritten organization id visits = none →
    visits.filterMap (Visit.revision? organization id) = []
  kept : ∀ organization id stored, lastWritten organization id visits = some stored →
    stored.data.checkWritable = .ok () ∧ ∃ v ∈ visits, v.operation.data? = some stored.data

theorem Holds.empty : Holds [] [] where
  distinct := .nil
  found _ _ := rfl
  created _ _ _ := rfl
  kept _ _ _ h := nomatch h

theorem Holds.isAt {table : Table} (h : Holds visits table) {stored : StoredLicense}
    (hlast : lastWritten organization id visits = some stored) :
    stored.row.isAt organization id = true := by
  have hfind := (h.found organization id).trans (congrArg _ hlast)
  have hat := List.find?_some hfind
  exact hat

theorem Holds.other {table : Table} (h : Holds visits table)
    (hc : ∀ organization id, v.creation? organization id = none)
    (hr : ∀ organization id, v.revision? organization id = none) : Holds (visits ++ [v]) table where
  distinct := h.distinct
  found organization id := by
    rw [lastWritten_append_other (hc organization id) (hr organization id)]
    exact h.found organization id
  created organization id hnone := by
    rw [lastWritten_append_other (hc organization id) (hr organization id)] at hnone
    rw [List.filterMap_append, h.created organization id hnone]
    simp [hr organization id]
  kept organization id stored hsome := by
    rw [lastWritten_append_other (hc organization id) (hr organization id)] at hsome
    obtain ⟨hcheck, w, hw, hdata⟩ := h.kept organization id stored hsome
    exact ⟨hcheck, w, List.mem_append_left _ hw, hdata⟩

theorem Holds.create (h : Holds visits v.tableBefore) {stored : StoredLicense}
    (hop : v.operation = .create stored) (hacc : v.accepted = true)
    (hcheck : stored.data.checkWritable = .ok ())
    (hfree : v.tableBefore.any (·.collides stored.row) = false)
    (htable : v.tableAfter = v.tableBefore ++ [stored.row]) :
    Holds (visits ++ [v]) v.tableAfter := by
  have hrevision : ∀ organization id, v.revision? organization id = none := by
    intro organization id
    refine Option.eq_none_iff_forall_ne_some.mpr fun r hr => ?_
    obtain ⟨other, hother, -⟩ := Visit.revision?_eq_some hr
    rw [hop] at hother
    cases hother
  -- The id is free, so nothing was written under it before.
  have hnone : lastWritten stored.organization stored.id visits = none := by
    have hfind : v.tableBefore.find? (·.isAt stored.organization stored.id) = none := by
      rw [List.find?_eq_none]
      intro row hrow hat
      have := List.any_eq_false.mp hfree row hrow
      exact this (Row.collides_iff.mpr (.inl (Row.isAt_iff.mp hat).2))
    rw [h.found] at hfind
    exact Option.map_eq_none_iff.mp hfind
  have hlast : lastWritten stored.organization stored.id (visits ++ [v]) = some stored :=
    lastWritten_append_creation (lastWritten_eq_none_iff.mp hnone) (h.created _ _ hnone)
      (Visit.creation?_of_create hop hacc) (hrevision _ _)
  have hother : ∀ organization id, ¬ (stored.organization = organization ∧ stored.id = id) →
      lastWritten organization id (visits ++ [v]) = lastWritten organization id visits := by
    intro organization id hne
    refine lastWritten_append_other ?_ (hrevision _ _)
    refine Option.eq_none_iff_forall_ne_some.mpr fun other hc => hne ?_
    obtain ⟨hother, -, hat⟩ := Visit.creation?_eq_some hc
    rw [hop] at hother
    obtain rfl := Operation.create.inj hother
    exact hat
  rw [htable]
  refine ⟨?_, fun organization id => ?_, fun organization id hno => ?_,
    fun organization id other hsome => ?_⟩
  · have hrun := h.distinct.run (.insert stored.row)
    rwa [Statement.run_insert_accepted hfree] at hrun
  · rw [Table.find?_append_row]
    by_cases hat : stored.organization = organization ∧ stored.id = id
    · obtain ⟨rfl, rfl⟩ := hat
      rw [hlast, h.found, hnone, if_pos ((Row.isAt_row _ _ _).mpr ⟨rfl, rfl⟩)]
      rfl
    · rw [hother _ _ hat, h.found, if_neg (mt (Row.isAt_row _ _ _).mp hat), Option.or_none]
  · by_cases hat : stored.organization = organization ∧ stored.id = id
    · obtain ⟨rfl, rfl⟩ := hat
      rw [hlast] at hno
      cases hno
    · rw [hother _ _ hat] at hno
      rw [List.filterMap_append, h.created _ _ hno]
      simp [hrevision]
  · by_cases hat : stored.organization = organization ∧ stored.id = id
    · obtain ⟨rfl, rfl⟩ := hat
      rw [hlast] at hsome
      obtain rfl := Option.some.inj hsome
      exact ⟨hcheck, v, by simp, by rw [hop]; rfl⟩
    · rw [hother _ _ hat] at hsome
      obtain ⟨hcheck', w, hw, hdata⟩ := h.kept _ _ _ hsome
      exact ⟨hcheck', w, List.mem_append_left _ hw, hdata⟩

theorem Holds.update (h : Holds visits v.tableBefore) {o : Uuid} {stored : StoredLicense}
    (hop : v.operation = .update o stored) (hacc : v.accepted = true)
    (hcheck : stored.data.checkWritable = .ok ())
    (hrow : ∃ row ∈ v.tableBefore, row.isAt o stored.id = true)
    (htable : v.tableAfter = v.tableBefore.map (Row.updated o stored.id stored.data.storedText
      v.session.environment.utc stored.lastValidatedAt)) :
    Holds (visits ++ [v]) v.tableAfter := by
  -- Only the license of this organization and id moves; all others were written before.
  have hcreation : ∀ organization id, v.creation? organization id = none := by
    intro organization id
    refine Option.eq_none_iff_forall_ne_some.mpr fun other hc => ?_
    have hother := (Visit.creation?_eq_some hc).1
    rw [hop] at hother
    cases hother
  have hlast : lastWritten o stored.id (visits ++ [v]) =
      (lastWritten o stored.id visits).map (·.revised ⟨stored.data, v.session.environment.utc,
        stored.lastValidatedAt⟩) :=
    lastWritten_append_revision (hcreation o stored.id) (Visit.revision?_of_update hop hacc)
  have hrevision : ∀ organization id, ¬ (o = organization ∧ stored.id = id) →
      v.revision? organization id = none := by
    intro organization id hne
    refine Option.eq_none_iff_forall_ne_some.mpr fun r hr => hne ?_
    obtain ⟨other, hother, -, hid, -⟩ := Visit.revision?_eq_some hr
    rw [hop] at hother
    obtain ⟨rfl, rfl⟩ := Operation.update.inj hother
    exact ⟨rfl, hid⟩
  have hsome : lastWritten o stored.id visits ≠ none := by
    intro hnone
    obtain ⟨row, hmem, hat⟩ := hrow
    have hfind := h.found o stored.id
    rw [hnone] at hfind
    exact List.find?_eq_none.mp hfind row hmem hat
  rw [htable]
  refine ⟨?_, fun organization id => ?_, fun organization id hno => ?_,
    fun organization id other hother => ?_⟩
  · exact h.distinct.run (.update o stored.id stored.data.storedText v.session.environment.utc
      stored.lastValidatedAt)
  · rw [Table.find?_map_updated]
    by_cases hat : o = organization ∧ stored.id = id
    · obtain ⟨rfl, rfl⟩ := hat
      rw [hlast, h.found]
      cases hold : lastWritten o stored.id visits with
      | none => rfl
      | some old =>
        refine congrArg some ?_
        rw [Row.updated, if_pos (h.isAt hold)]
        rfl
    · rw [lastWritten_append_other (hcreation _ _) (hrevision _ _ hat), h.found]
      cases hold : lastWritten organization id visits with
      | none => rfl
      | some old =>
        have hno : ¬ old.row.isAt o stored.id = true := by
          intro hat'
          obtain ⟨horg, hid⟩ := Row.isAt_iff.mp (h.isAt hold)
          obtain ⟨horg', hid'⟩ := Row.isAt_iff.mp hat'
          exact hat ⟨horg'.symm.trans horg, hid'.symm.trans hid⟩
        refine congrArg some ?_
        rw [Row.updated, if_neg hno]
  · by_cases hat : o = organization ∧ stored.id = id
    · obtain ⟨rfl, rfl⟩ := hat
      rw [hlast, Option.map_eq_none_iff] at hno
      exact absurd hno hsome
    · rw [lastWritten_append_other (hcreation _ _) (hrevision _ _ hat)] at hno
      rw [List.filterMap_append, h.created _ _ hno]
      simp [hrevision _ _ hat]
  · by_cases hat : o = organization ∧ stored.id = id
    · obtain ⟨rfl, rfl⟩ := hat
      rw [hlast] at hother
      obtain ⟨old, -, rfl⟩ := Option.map_eq_some_iff.mp hother
      exact ⟨hcheck, v, by simp, by rw [hop]; rfl⟩
    · rw [lastWritten_append_other (hcreation _ _) (hrevision _ _ hat)] at hother
      obtain ⟨hcheck', w, hw, hdata⟩ := h.kept _ _ _ hother
      exact ⟨hcheck', w, List.mem_append_left _ hw, hdata⟩

theorem Holds.visit (h : Holds visits v.tableBefore) : Holds (visits ++ [v]) v.tableAfter := by
  have hnothing : v.accepted = false → Holds (visits ++ [v]) v.tableBefore := fun hrejected =>
    h.other (fun _ _ => (Visit.writes_nothing_of_rejected hrejected).1)
      (fun _ _ => (Visit.writes_nothing_of_rejected hrejected).2)
  have hread : v.operation.data? = none → Holds (visits ++ [v]) v.tableAfter := by
    intro hdata
    rw [v.read_table hdata]
    exact h.other (fun _ _ => (Visit.writes_nothing_of_read hdata).1)
      (fun _ _ => (Visit.writes_nothing_of_read hdata).2)
  cases hop : v.operation with
  | create stored =>
    rcases v.create_cases hop with ⟨hacc, hcheck, hfree, htable⟩ | ⟨hrejected, htable⟩
    · exact h.create hop hacc hcheck hfree htable
    · rw [htable]
      exact hnothing hrejected
  | update organization stored =>
    rcases v.update_cases h.distinct hop with ⟨hacc, hcheck, hrow, htable⟩ | ⟨hrejected, htable⟩
    · exact h.update hop hacc hcheck hrow htable
    · rw [htable]
      exact hnothing hrejected
  | get organization id => exact hread (by rw [hop]; rfl)
  | getAll organization => exact hread (by rw [hop]; rfl)

theorem History.holds {table : Table} (h : History visits table) : Holds visits table := by
  induction h with
  | empty => exact .empty
  | visit _ v met ih =>
    subst met
    exact ih.visit

theorem Holds.readable {table : Table} (h : Holds visits table) (proper : ∀ v ∈ visits, v.Proper)
    {stored : StoredLicense} (hlast : lastWritten organization id visits = some stored) :
    ofRow stored.row = .ok stored := by
  obtain ⟨hcheck, v, hv, hdata⟩ := h.kept _ _ _ hlast
  obtain ⟨joined, depth, fits⟩ := proper v hv _ hdata
  exact ofRow_row_of_joined hcheck fits joined

theorem Holds.mem {table : Table} (h : Holds visits table) {stored : StoredLicense}
    (hlast : lastWritten organization id visits = some stored) : stored.row ∈ table := by
  have hfind := h.found organization id
  rw [hlast] at hfind
  exact List.mem_of_find?_eq_some hfind

/-! ### What the store returns -/

section Answers

variable {table : Table} (h : Holds visits table) (proper : ∀ v ∈ visits, v.Proper) {s : Session}
  (htable : s.database.table = table) (answers : s.database.Answers)
include h proper htable answers

end Answers

/-- A session on a table, at the start of a day. -/
def sessionOn (table : Table) (day : Date) : Session where
  environment := ⟨{ DateTime.first with date := day }, .zero, .zero⟩
  database := ⟨table, [], true, 0, 0, none⟩
  line := Line.empty
  telemetry := ⟨.empty, none, [], .empty ("licensing" : Text)⟩

end Store

end Entitlement
