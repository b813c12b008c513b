import Entitlement.Store.Table
import Mathlib.Data.List.Basic
import Mathlib.Data.List.Nodup

/-! # What a statement does to the table

A statement changes a table in two ways only (`Statement.run_cases`): an insertion that is accepted
adds its row at the end, and an update puts new data and times into the rows of one organization
and id. So what identifies a row never changes and no row goes away (`Statement.identities_prefix`),
and ids and keys stay distinct (`Table.Distinct.run`). -/

namespace Entitlement

/-! ### Rows -/

namespace Row

/-- What identifies a row: nothing of it is ever written again. -/
def identity (row : Row) : Uuid × Text × Uuid × DateTime :=
  (row.id, row.key, row.organization, row.createdAt)

/-- What a write puts into a row. -/
def content (row : Row) : Text × DateTime × DateTime :=
  (row.data, row.updatedAt, row.lastValidatedAt)

theorem eq_of_identity_content {row other : Row} (hi : row.identity = other.identity)
    (hc : row.content = other.content) : row = other := by
  obtain ⟨id, key, data, createdAt, updatedAt, lastValidatedAt, organization⟩ := row
  simp only [identity, content, Prod.mk.injEq] at hi hc
  obtain ⟨rfl, rfl, rfl, rfl⟩ := hi
  obtain ⟨rfl, rfl, rfl⟩ := hc
  rfl

theorem isAt_iff {row : Row} {organization id : Uuid} :
    row.isAt organization id = true ↔ row.organization = organization ∧ row.id = id := by
  simp [isAt]

theorem isAt_congr {row other : Row} (h : row.identity = other.identity)
    (organization id : Uuid) : row.isAt organization id = other.isAt organization id := by
  simp only [identity, Prod.mk.injEq] at h
  simp [isAt, h.1, h.2.2.1]

theorem collides_iff {row other : Row} :
    row.collides other = true ↔ row.id = other.id ∨ row.key = other.key := by
  simp [collides]

/-- The row as an update of an organization's id leaves it. -/
def updated (organization id : Uuid) (data : Text) (updatedAt lastValidatedAt : DateTime)
    (row : Row) : Row :=
  if row.isAt organization id then row.revised data updatedAt lastValidatedAt else row

@[simp] theorem identity_updated (organization id : Uuid) (data : Text)
    (updatedAt lastValidatedAt : DateTime) (row : Row) :
    (row.updated organization id data updatedAt lastValidatedAt).identity = row.identity := by
  unfold updated
  split <;> rfl

end Row

/-! ### Statements -/

namespace Statement

/-- **All that a statement can do to a table.** -/
theorem run_cases (statement : Statement) (table : Table) :
    (statement.run table).2 = table ∨
    (∃ row, statement = .insert row ∧ table.any (·.collides row) = false ∧
      statement.run table = (.ok (.changed 1), table ++ [row])) ∨
    ∃ organization id data updatedAt lastValidatedAt,
      statement = .update organization id data updatedAt lastValidatedAt ∧
      statement.run table = (.ok (.changed (table.countP (·.isAt organization id))),
        table.map (Row.updated organization id data updatedAt lastValidatedAt)) := by
  cases statement with
  | createTable => exact .inl rfl
  | createIndex => exact .inl rfl
  | probe => exact .inl rfl
  | find organization id => exact .inl rfl
  | findAll organization => exact .inl rfl
  | insert row =>
    by_cases h : table.any (·.collides row) = true
    · exact .inl (by simp only [run, h, if_true])
    · have h : table.any (·.collides row) = false := by simpa using h
      exact .inr (.inl ⟨row, rfl, h, by simp [run, h]⟩)
  | update organization id data updatedAt lastValidatedAt =>
    exact .inr (.inr ⟨organization, id, data, updatedAt, lastValidatedAt, rfl, rfl⟩)

theorem run_insert_refused {row : Row} {table : Table} (h : table.any (·.collides row) = true) :
    (Statement.insert row).run table = (.error duplicate, table) := by
  simp only [run, h, if_true]

theorem run_insert_accepted {row : Row} {table : Table} (h : table.any (·.collides row) = false) :
    (Statement.insert row).run table = (.ok (.changed 1), table ++ [row]) := by
  simp [run, h]

theorem run_insert_cases (row : Row) (table : Table) :
    (table.any (·.collides row) = false ∧
      (Statement.insert row).run table = (.ok (.changed 1), table ++ [row])) ∨
    (table.any (·.collides row) = true ∧
      (Statement.insert row).run table = (.error duplicate, table)) := by
  cases h : table.any (·.collides row) with
  | false => exact .inl ⟨rfl, run_insert_accepted h⟩
  | true => exact .inr ⟨rfl, run_insert_refused h⟩

theorem mem_of_insert {row : Row} {table after : Table}
    (h : (Statement.insert row).run table = (.ok (.changed 1), after)) : row ∈ after := by
  rcases run_insert_cases row table with ⟨-, hrun⟩ | ⟨-, hrun⟩
  · rw [hrun] at h
    rw [← (Prod.mk.inj h).2]
    simp
  · rw [hrun] at h
    cases (Prod.mk.inj h).1

/-- What identifies the rows stays, and more rows come behind. -/
theorem identities_prefix (statement : Statement) (table : Table) :
    table.map Row.identity <+: (statement.run table).2.map Row.identity := by
  rcases run_cases statement table with h | ⟨row, -, -, h⟩ | ⟨o, i, d, u, v, -, h⟩
  · simp only [h, List.prefix_rfl]
  · rw [h, List.map_append]
    exact List.prefix_append _ _
  · rw [h]
    simp [Function.comp_def]

/-- What a statement writes into the rows that it changes. -/
def content? : Statement → Option (Text × DateTime × DateTime)
  | .insert row => some row.content
  | .update _ _ data updatedAt lastValidatedAt => some (data, updatedAt, lastValidatedAt)
  | _ => none

/-- **Each row is a row from before, or holds just what the statement writes.** -/
theorem mem_run {statement : Statement} {table : Table} {row : Row}
    (h : row ∈ (statement.run table).2) : row ∈ table ∨ statement.content? = some row.content := by
  rcases run_cases statement table with hr | ⟨new, rfl, -, hr⟩ | ⟨o, i, d, u, v, rfl, hr⟩
  · rw [hr] at h
    exact .inl h
  · rw [hr] at h
    rcases List.mem_append.mp h with h | h
    · exact .inl h
    · obtain rfl : row = new := by simpa using h
      exact .inr rfl
  · rw [hr] at h
    obtain ⟨old, hold, rfl⟩ := List.mem_map.mp h
    by_cases hat : old.isAt o i = true
    · refine .inr ?_
      rw [Row.updated, if_pos hat]
      rfl
    · refine .inl ?_
      rw [Row.updated, if_neg hat]
      exact hold

end Statement

/-! ### Distinct ids and keys -/

namespace Table

/-- No two rows have the same id, and no two the same key. -/
structure Distinct (table : Table) : Prop where
  ids : (table.map Row.id).Nodup
  keys : (table.map Row.key).Nodup

theorem Distinct.nil : Distinct [] := ⟨List.nodup_nil, List.nodup_nil⟩

theorem map_updated {β : Type} (f : Row → β) (g : Uuid × Text × Uuid × DateTime → β)
    (hf : ∀ row : Row, f row = g row.identity) (table : Table) (organization id : Uuid)
    (data : Text) (updatedAt lastValidatedAt : DateTime) :
    (table.map (Row.updated organization id data updatedAt lastValidatedAt)).map f =
      table.map f := by
  simp [Function.comp_def, hf]

theorem Distinct.run {table : Table} (h : Distinct table) (statement : Statement) :
    Distinct (statement.run table).2 := by
  rcases Statement.run_cases statement table with hr | ⟨row, -, hfree, hr⟩ | ⟨o, i, d, u, v, -, hr⟩
  · rw [hr]
    exact h
  · rw [hr]
    have hfree : ∀ r ∈ table, r.id ≠ row.id ∧ r.key ≠ row.key := by
      simpa [Row.collides] using hfree
    constructor
    · rw [List.map_append, List.nodup_append]
      refine ⟨h.ids, by simp, ?_⟩
      intro a ha b hb
      obtain ⟨r, hr, rfl⟩ := List.mem_map.mp ha
      obtain rfl : b = row.id := by simpa using hb
      exact (hfree r hr).1
    · rw [List.map_append, List.nodup_append]
      refine ⟨h.keys, by simp, ?_⟩
      intro a ha b hb
      obtain ⟨r, hr, rfl⟩ := List.mem_map.mp ha
      obtain rfl : b = row.key := by simpa using hb
      exact (hfree r hr).2
  · rw [hr]
    constructor
    · rw [map_updated Row.id (·.1) (fun _ => rfl)]
      exact h.ids
    · rw [map_updated Row.key (·.2.1) (fun _ => rfl)]
      exact h.keys

theorem Distinct.eq_of_id {table : Table} (h : Distinct table) {row other : Row}
    (hr : row ∈ table) (ho : other ∈ table) (he : row.id = other.id) : row = other :=
  List.inj_on_of_nodup_map h.ids hr ho he

theorem Distinct.find?_eq_some {table : Table} (h : Distinct table) {organization id : Uuid}
    {row : Row} (hr : row ∈ table) (ha : row.isAt organization id = true) :
    table.find? (·.isAt organization id) = some row := by
  cases hf : table.find? (·.isAt organization id) with
  | none => exact absurd ha (by simpa using List.find?_eq_none.mp hf row hr)
  | some other =>
    have ho := List.find?_some hf
    rw [h.eq_of_id (List.mem_of_find?_eq_some hf) hr
      ((Row.isAt_iff.mp ho).2.trans (Row.isAt_iff.mp ha).2.symm)]

/-- The number of rows that an update of an organization's id changes. -/
theorem Distinct.countP_isAt {table : Table} (h : Distinct table) (organization id : Uuid) :
    table.countP (·.isAt organization id) =
      if (table.find? (·.isAt organization id)).isSome then 1 else 0 := by
  induction table with
  | nil => rfl
  | cons row table ih =>
    have hd : Distinct table := ⟨(List.nodup_cons.mp h.ids).2, (List.nodup_cons.mp h.keys).2⟩
    rw [List.countP_cons, ih hd, List.find?_cons]
    cases ha : row.isAt organization id with
    | false => simp
    | true =>
      have hnone : table.find? (·.isAt organization id) = none := by
        rw [List.find?_eq_none]
        intro other ho hat
        have hid : row.id = other.id := (Row.isAt_iff.mp ha).2.trans (Row.isAt_iff.mp hat).2.symm
        exact (List.nodup_cons.mp h.ids).1 (hid ▸ List.mem_map_of_mem ho)
      simp [hnone]

/-- **An update writes the one row of the id**, if the organization has it, and else nothing. -/
theorem Distinct.run_update_cases {table : Table} (h : Distinct table) (organization id : Uuid)
    (data : Text) (updatedAt lastValidatedAt : DateTime) :
    ((∃ row ∈ table, row.isAt organization id = true) ∧
      (Statement.update organization id data updatedAt lastValidatedAt).run table =
        (.ok (.changed 1),
          table.map (Row.updated organization id data updatedAt lastValidatedAt))) ∨
    ((∀ row ∈ table, row.isAt organization id = false) ∧
      (Statement.update organization id data updatedAt lastValidatedAt).run table =
        (.ok (.changed 0), table)) := by
  have hrun : (Statement.update organization id data updatedAt lastValidatedAt).run table =
      (.ok (.changed (table.countP (·.isAt organization id))),
        table.map (Row.updated organization id data updatedAt lastValidatedAt)) := rfl
  rw [hrun, h.countP_isAt]
  cases hf : table.find? (·.isAt organization id) with
  | some row =>
    have hat := List.find?_some hf
    exact .inl ⟨⟨row, List.mem_of_find?_eq_some hf, hat⟩, rfl⟩
  | none =>
    have hnone : ∀ row ∈ table, row.isAt organization id = false := by
      simpa using List.find?_eq_none.mp hf
    refine .inr ⟨hnone, Prod.ext rfl ?_⟩
    refine (List.map_congr_left fun row hrow => ?_).trans (List.map_id table)
    rw [Row.updated, hnone row hrow]
    rfl

end Table

end Entitlement
