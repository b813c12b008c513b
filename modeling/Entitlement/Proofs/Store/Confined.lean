import Entitlement.Proofs.Session.Offline
import Entitlement.Proofs.Store.Exchange
import Entitlement.Proofs.Store.Dialogue

/-! # Acts that keep to one organization

The rows of an organization are its part of the table (`Table.owned`). An act *spares* an
organization if it leaves its rows as they are (`Act.Spares`); it is *confined* to an organization
if nothing but the rows of that organization shows in it: on two tables that differ in the rows of
others only, it has one outcome, and what it leaves differs in the rows of others only
(`Act.Confined`). Both properties go through every building block of an act, so all that is left to
say is what a statement does: it spares the organizations whose rows it does not write
(`Statement.Spares.owned`), and it is confined to an organization if it asks for rows of it alone
(`Statement.Within.run`). -/

namespace Entitlement

open Entitlement.Task

/-- The rows of an organization, in their order. -/
def Table.owned (table : Table) (organization : Uuid) : Table :=
  table.filter (·.organization = organization)

namespace Table

variable {table : Table} {organization other : Uuid}

theorem mem_owned {row : Row} :
    row ∈ table.owned organization ↔ row ∈ table ∧ row.organization = organization := by
  simp [owned]

theorem isAt_owned (organization id : Uuid) (row : Row) :
    (decide (row.organization = organization) && row.isAt organization id) =
      row.isAt organization id := by
  simp [Row.isAt]

theorem find?_owned (table : Table) (organization id : Uuid) :
    (table.owned organization).find? (·.isAt organization id) =
      table.find? (·.isAt organization id) := by
  rw [owned, List.find?_filter]
  congr 1
  funext row
  rw [← isAt_owned organization id row]
  simp

theorem countP_owned (table : Table) (organization id : Uuid) :
    (table.owned organization).countP (·.isAt organization id) =
      table.countP (·.isAt organization id) := by
  rw [owned, List.countP_filter]
  congr 1
  funext row
  rw [Bool.and_comm, isAt_owned]

theorem owned_append (table more : Table) (organization : Uuid) :
    (table ++ more).owned organization = table.owned organization ++ more.owned organization :=
  List.filter_append ..

theorem owned_map_updated (table : Table) (organization o id : Uuid) (data : Text)
    (updatedAt lastValidatedAt : DateTime) :
    owned (table.map (Row.updated o id data updatedAt lastValidatedAt)) organization =
      (table.owned organization).map (Row.updated o id data updatedAt lastValidatedAt) := by
  have horg : ∀ row : Row,
      (row.updated o id data updatedAt lastValidatedAt).organization = row.organization :=
    fun row => congrArg (·.2.2.1) (Row.identity_updated o id data updatedAt lastValidatedAt row)
  rw [owned, List.filter_map]
  simp only [Function.comp_def, horg]
  rfl

theorem owned_map_updated_other (h : other ≠ organization) (table : Table) (id : Uuid) (data : Text)
    (updatedAt lastValidatedAt : DateTime) :
    owned (table.map (Row.updated other id data updatedAt lastValidatedAt)) organization =
      table.owned organization := by
  rw [owned_map_updated]
  refine (List.map_congr_left fun row hrow => ?_).trans (List.map_id _)
  have hat : row.isAt other id = false := by
    rw [Bool.eq_false_iff, ne_eq, Row.isAt_iff, (mem_owned.mp hrow).2]
    exact fun hat => h hat.1.symm
  rw [Row.updated, hat]
  rfl

end Table

/-! ### Statements -/

namespace Statement

/-- The statement writes no row of the organization. -/
inductive Spares (organization : Uuid) : Statement → Prop where
  | find (o id : Uuid) : Spares organization (.find o id)
  | findAll (o : Uuid) : Spares organization (.findAll o)
  | insert {row : Row} (h : row.organization ≠ organization) : Spares organization (.insert row)
  | update {o : Uuid} (h : o ≠ organization) (id : Uuid) (data : Text)
    (updatedAt lastValidatedAt : DateTime) :
    Spares organization (.update o id data updatedAt lastValidatedAt)

theorem Spares.owned {organization : Uuid} {statement : Statement}
    (h : statement.Spares organization) (table : Table) :
    (statement.run table).2.owned organization = table.owned organization := by
  cases h with
  | find o id => rfl
  | findAll o => rfl
  | @insert row h =>
    have hrow : Table.owned [row] organization = [] := by simpa [Table.owned] using h
    rcases run_insert_cases row table with ⟨-, hr⟩ | ⟨-, hr⟩
    · rw [hr, Table.owned_append, hrow, List.append_nil]
    · rw [hr]
  | update h id data updatedAt lastValidatedAt =>
    exact Table.owned_map_updated_other h table id data updatedAt lastValidatedAt

/-- The statement asks for rows of the organization alone. -/
inductive Within (organization : Uuid) : Statement → Prop where
  | find (id : Uuid) : Within organization (.find organization id)
  | findAll : Within organization (.findAll organization)
  | update (id : Uuid) (data : Text) (updatedAt lastValidatedAt : DateTime) :
    Within organization (.update organization id data updatedAt lastValidatedAt)

/-- **What asks for rows of an organization alone depends on these rows alone.** -/
theorem Within.run {organization : Uuid} {statement : Statement}
    (h : Within organization statement) {table table' : Table}
    (same : table'.owned organization = table.owned organization) :
    (statement.run table').1 = (statement.run table).1 ∧
      (statement.run table').2.owned organization = (statement.run table).2.owned organization := by
  cases h with
  | find id =>
    refine ⟨?_, same⟩
    rw [Statement.run, Statement.run, ← Table.find?_owned table', same, Table.find?_owned]
  | findAll => exact ⟨congrArg (fun rows => Except.ok (Reply.rows rows)) same, same⟩
  | update id data updatedAt lastValidatedAt =>
    have hrun : ∀ t : Table,
        (Statement.update organization id data updatedAt lastValidatedAt).run t =
          (.ok (.changed (t.countP (·.isAt organization id))),
            t.map (Row.updated organization id data updatedAt lastValidatedAt)) := fun _ => rfl
    rw [hrun, hrun]
    refine ⟨?_, ?_⟩
    · rw [← Table.countP_owned table', same, Table.countP_owned]
    · rw [Table.owned_map_updated, Table.owned_map_updated, same]

end Statement

/-! ### Databases and sessions that differ in the rows of others -/

/-- Two databases that differ in the rows of other organizations only. -/
structure Database.Alike (organization : Uuid) (db db' : Database) : Prop where
  rest : db' = { db with table := db'.table }
  same : db'.table.owned organization = db.table.owned organization

/-- Two sessions that differ in the rows of other organizations only. -/
structure Session.Alike (organization : Uuid) (s s' : Session) : Prop where
  rest : s' = s.over s'.database
  database : s.database.Alike organization s'.database

namespace Database

variable {organization : Uuid} {db db' : Database}

theorem Alike.acquire (h : db.Alike organization db') : db'.acquire = db.acquire := by
  rw [h.rest]
  rfl

theorem Alike.send (h : db.Alike organization db') {statement : Statement}
    (within : statement.Within organization) :
    (db'.send statement).1 = (db.send statement).1 ∧
      (db.send statement).2.Alike organization (db'.send statement).2 := by
  obtain ⟨rest, same⟩ := h
  obtain ⟨hreply, hsame⟩ := within.run same
  generalize db'.table = table' at rest same hreply hsame
  subst rest
  unfold Database.send faultOf
  dsimp only
  split
  · exact ⟨rfl, rfl, same⟩
  · exact ⟨hreply, rfl, hsame⟩

theorem owned_send {statement : Statement} (h : statement.Spares organization) (db : Database) :
    (db.send statement).2.table.owned organization = db.table.owned organization := by
  rcases db.send_cases statement with ⟨-, htable⟩ | ⟨_, -, htable⟩
  · rw [htable]
    exact h.owned db.table
  · rw [htable]

end Database

/-! ### Acts -/

namespace Act

variable {α β : Type} {organization : Uuid}

/-- The act leaves the rows of the organization as they are. -/
def Spares (organization : Uuid) (act : Act α) : Prop :=
  ∀ s, (act.exec s).2.database.table.owned organization = s.database.table.owned organization

/-- The act shows nothing of a table but the rows of the organization. -/
def Confined (organization : Uuid) (act : Act α) : Prop :=
  ∀ s s' : Session, s.Alike organization s' → (act.exec s').1 = (act.exec s).1 ∧
    (act.exec s).2.Alike organization (act.exec s').2

namespace Spares

theorem of_offline {act : Act α} (h : Offline act) : Spares organization act := fun s => by
  rw [h.database_eq]

theorem of_onDatabase {f : Database → Except Fault α × Database}
    (h : ∀ db, (f db).2.table.owned organization = db.table.owned organization) :
    Spares organization (onDatabase f) := fun s => h s.database

theorem bind {act : Act α} {next : α → Act β} (h : Spares organization act)
    (hn : ∀ s a, (act.exec s).1 = .ok a → Spares organization (next a)) :
    Spares organization (act >>= next) := by
  intro s
  have hs := h s
  rcases hr : act.exec s with ⟨fault | a, s'⟩
  · rw [exec_bind_error hr]
    rw [hr] at hs
    exact hs
  · rw [exec_bind_ok hr, hn s a (congrArg Prod.fst hr) s']
    rw [hr] at hs
    exact hs

theorem outcome {act : Act α} (h : Spares organization act) : Spares organization act.outcome :=
  fun s => h s

theorem of_ask {statement : Statement} (h : statement.Spares organization) :
    Spares organization (ask statement) := by
  refine .of_onDatabase fun db => ?_
  unfold Database.ask
  split
  · exact Database.owned_send h db
  · rfl

end Spares

namespace Confined

theorem of_offline {act : Act α} (h : Offline act) : Confined organization act := by
  intro s s' alike
  have hs : act.exec s' = ((act.exec s).1, (act.exec s).2.over s'.database) := by
    conv_lhs => rw [alike.rest]
    exact h s s'.database
  rw [hs]
  refine ⟨rfl, rfl, ?_⟩
  rw [h.database_eq]
  exact alike.database

theorem of_onDatabase {f : Database → Except Fault α × Database}
    (h : ∀ db db' : Database, db.Alike organization db' →
      (f db').1 = (f db).1 ∧ (f db).2.Alike organization (f db').2) :
    Confined organization (onDatabase f) := by
  intro s s' alike
  obtain ⟨hresult, hdatabase⟩ := h _ _ alike.database
  refine ⟨hresult, ?_, hdatabase⟩
  change s'.over (f s'.database).2 = s.over (f s'.database).2
  rw [alike.rest]
  rfl

theorem bind {act : Act α} {next : α → Act β} (h : Confined organization act)
    (hn : ∀ a, Confined organization (next a)) : Confined organization (act >>= next) := by
  intro s s' alike
  obtain ⟨hresult, halike⟩ := h s s' alike
  rcases hr : act.exec s with ⟨fault | a, t⟩ <;> rcases hr' : act.exec s' with ⟨fault' | a', t'⟩ <;>
    rw [hr, hr'] at hresult halike
  · rw [exec_bind_error hr, exec_bind_error hr']
    exact ⟨congrArg Except.error (Except.error.inj hresult), halike⟩
  · cases hresult
  · cases hresult
  · obtain rfl : a' = a := Except.ok.inj hresult
    rw [exec_bind_ok hr, exec_bind_ok hr']
    exact hn a' t t' halike

theorem of_acquire : Confined organization (onDatabase fun db => (db.acquire, db)) :=
  .of_onDatabase fun _ _ alike => ⟨alike.acquire, alike⟩

theorem of_send {statement : Statement} (within : statement.Within organization) :
    Confined organization (onDatabase (·.send statement)) :=
  .of_onDatabase fun _ _ alike => alike.send within

theorem of_ask {statement : Statement} (within : statement.Within organization) :
    Confined organization (ask statement) := by
  refine .of_onDatabase fun db db' alike => ?_
  unfold Database.ask
  rw [alike.acquire]
  cases db.acquire with
  | ok _ => exact alike.send within
  | error fault => exact ⟨rfl, alike⟩

end Confined

end Act

/-! ### The operations of the store -/

namespace Store

open Act

variable {organization : Uuid}

theorem write_spares {statement : Statement} (h : statement.Spares organization) (data : Json) :
    Spares organization (write data statement) := by
  refine (Spares.of_onDatabase fun _ => rfl).bind fun _ _ _ => ?_
  refine (Spares.of_offline (.of_ofExcept _)).bind fun _ _ _ => ?_
  exact .of_onDatabase fun db => Database.owned_send h db

theorem create_spares {stored : StoredLicense} (h : stored.organization ≠ organization) :
    Spares organization (create stored) := by
  refine (write_spares (.insert h) stored.data).outcome.bind fun _ result _ => ?_
  cases result with
  | ok _ => exact .of_offline (.of_log _ _ _ _)
  | error fault =>
    dsimp only
    split
    · exact .of_offline ((Offline.of_log _ _ _ _).bind fun _ => .of_throw _)
    · exact .of_offline (.of_throw _)

theorem afterReply_offline (organization : Uuid) (stored : StoredLicense) (reply : Reply) :
    Offline (match reply with
      | .changed 1 => Act.log logger .info "License updated"
          [idDetail stored.id, organizationDetail organization]
      | _ => throw (missing organization stored.id)) := by
  split
  · exact .of_log _ _ _ _
  · exact .of_throw _

theorem update_spares {other : Uuid} (h : other ≠ organization) (stored : StoredLicense) :
    Spares organization (update other stored) := by
  refine (Spares.of_offline .of_now).bind fun _ now _ => ?_
  refine (write_spares (.update h _ _ _ _) _).bind fun _ reply _ => ?_
  exact .of_offline (afterReply_offline other stored reply)

theorem get_spares (other id : Uuid) : Spares organization (get other id) := by
  refine (Spares.of_ask (.find other id)).bind fun _ reply _ => ?_
  split
  · exact .of_offline (.of_ofExcept _)
  · exact .of_offline (.of_throw _)

theorem getAll_spares (other : Uuid) : Spares organization (getAll other) :=
  (Spares.of_ask (.findAll other)).bind fun _ _ _ => .of_offline (.of_ofExcept _)

theorem get_confined (organization id : Uuid) : Confined organization (get organization id) := by
  refine (Confined.of_ask (.find id)).bind fun reply => ?_
  split
  · exact .of_offline (.of_ofExcept _)
  · exact .of_offline (.of_throw _)

theorem getAll_confined (organization : Uuid) : Confined organization (getAll organization) :=
  (Confined.of_ask .findAll).bind fun _ => .of_offline (.of_ofExcept _)

theorem update_confined (organization : Uuid) (stored : StoredLicense) :
    Confined organization (update organization stored) := by
  refine (Confined.of_offline .of_now).bind fun now => ?_
  refine Confined.bind ?_ fun reply => .of_offline (afterReply_offline organization stored reply)
  refine Confined.of_acquire.bind fun _ => ?_
  refine (Confined.of_offline (.of_ofExcept _)).bind fun _ => ?_
  exact .of_send (.update _ _ _ _)

end Store

end Entitlement
