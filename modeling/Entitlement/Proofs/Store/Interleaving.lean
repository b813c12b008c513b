import Entitlement.Proofs.Store.Dialogue
import Mathlib.Logic.Function.Basic

/-! # Dialogues in between one another

Many dialogues are held with one table at a time; each statement is carried out as a whole, and
between two statements of one dialogue there may be statements of any others. A `Moment` is the
table and what is left of each dialogue, a `Turn` is one statement carried out, and
`Interleaving m turns m'` leads from one moment to another.

What one turn does to the table is known (`Statement.run_cases`), so over any interleaving ids and
keys stay distinct (`Interleaving.distinct`), rows stay and keep what identifies them
(`Interleaving.identities_prefix`), each row holds what the last statement accepted for it wrote
(`Interleaving.origin`), and a key is inserted once (`Interleaving.keys_distinct`). -/

namespace Entitlement

/-- The table and what is left of each dialogue. -/
structure Moment (ι α : Type) where
  table : Table
  left : ι → Dialogue α

/-- A statement that is carried out: whose it is, and the table that it meets. -/
structure Turn (ι : Type) where
  caller : ι
  statement : Statement
  before : Table

namespace Turn

variable {ι : Type} (t : Turn ι)

/-- The reply to the statement. -/
def reply : Except Fault Reply := (t.statement.run t.before).1

/-- The table that the statement leaves. -/
def after : Table := (t.statement.run t.before).2

/-- One row was inserted or written. -/
def Accepted : Prop := t.reply = .ok (.changed 1)

end Turn

/-- **One moment leads to another** by statements that are carried out one by one, in any order that
keeps the order within each dialogue. -/
inductive Interleaving {ι α : Type} [DecidableEq ι] :
    Moment ι α → List (Turn ι) → Moment ι α → Prop where
  | nil (m : Moment ι α) : Interleaving m [] m
  | step {m m' : Moment ι α} {turns : List (Turn ι)} (i : ι) (statement : Statement)
    (next : Except Fault Reply → Dialogue α) (asks : m.left i = .ask statement next)
    (rest : Interleaving ⟨(statement.run m.table).2,
      Function.update m.left i (next (statement.run m.table).1)⟩ turns m') :
    Interleaving m (⟨i, statement, m.table⟩ :: turns) m'

/-! ### What a statement does to a row -/

namespace Statement

/-- The row that the statement inserts, or a row that it writes. -/
def Addresses : Statement → Row → Prop
  | .insert new, row => new.identity = row.identity
  | .update organization id _ _ _, row => row.isAt organization id = true
  | _, _ => False

theorem origin {statement : Statement} {table : Table} (distinct : Table.Distinct table) {row : Row}
    (h : row ∈ (statement.run table).2) :
    ((statement.run table).1 = .ok (.changed 1) ∧ statement.Addresses row ∧
      statement.content? = some row.content) ∨
    (row ∈ table ∧ ((statement.run table).1 = .ok (.changed 1) → ¬ statement.Addresses row)) := by
  cases statement with
  | createTable => exact .inr ⟨h, fun _ => id⟩
  | createIndex => exact .inr ⟨h, fun _ => id⟩
  | probe => exact .inr ⟨h, fun _ => id⟩
  | find organization i => exact .inr ⟨h, fun _ => id⟩
  | findAll organization => exact .inr ⟨h, fun _ => id⟩
  | insert new =>
    rcases run_insert_cases new table with ⟨hfree, hr⟩ | ⟨-, hr⟩
    · rw [hr] at h ⊢
      rcases List.mem_append.mp h with h | h
      · refine .inr ⟨h, fun _ he => ?_⟩
        have hid : row.id = new.id := (congrArg Prod.fst he).symm
        have := List.any_eq_false.mp hfree row h
        exact this (Row.collides_iff.mpr (.inl hid))
      · obtain rfl : row = new := by simpa using h
        exact .inl ⟨rfl, rfl, rfl⟩
    · rw [hr] at h ⊢
      exact .inr ⟨h, nofun⟩
  | update organization i data updatedAt lastValidatedAt =>
    rcases distinct.run_update_cases organization i data updatedAt lastValidatedAt with
      ⟨-, hr⟩ | ⟨-, hr⟩
    · rw [hr] at h ⊢
      obtain ⟨old, hold, rfl⟩ := List.mem_map.mp h
      by_cases hat : old.isAt organization i = true
      · rw [Row.updated, if_pos hat]
        exact .inl ⟨rfl, hat, rfl⟩
      · rw [Row.updated, if_neg hat]
        exact .inr ⟨hold, fun _ => hat⟩
    · rw [hr] at h ⊢
      exact .inr ⟨h, fun ha => by cases ha⟩

end Statement

namespace Interleaving

variable {ι α : Type} [DecidableEq ι] {m m' : Moment ι α} {turns earlier later : List (Turn ι)}
  {t : Turn ι}

/-! ### Runs and their turns -/

theorem split (h : Interleaving m (earlier ++ t :: later) m') :
    ∃ mid next, Interleaving m earlier mid ∧ mid.table = t.before ∧
      mid.left t.caller = .ask t.statement next ∧
      Interleaving ⟨t.after, Function.update mid.left t.caller (next t.reply)⟩ later m' := by
  induction earlier generalizing m with
  | nil =>
    cases h with
    | step i statement next asks rest => exact ⟨m, next, .nil m, rfl, asks, rest⟩
  | cons first earlier ih =>
    cases h with
    | step i statement next asks rest =>
      obtain ⟨mid, next', h1, h2, h3, h4⟩ := ih rest
      exact ⟨mid, next', .step i statement next asks h1, h2, h3, h4⟩

theorem left_eq_of_done (h : Interleaving m turns m') {i : ι} {outcome : Except Fault α}
    (hi : m.left i = .done outcome) : m'.left i = .done outcome := by
  induction h with
  | nil m => exact hi
  | step j statement next asks _ ih =>
    refine ih ?_
    have hne : i ≠ j := by
      rintro rfl
      rw [hi] at asks
      cases asks
    dsimp only
    rw [Function.update_of_ne hne]
    exact hi

theorem not_mem_of_done (h : Interleaving m turns m') {i : ι} {outcome : Except Fault α}
    (hi : m.left i = .done outcome) : i ∉ turns.map Turn.caller := by
  intro hmem
  obtain ⟨t, ht, rfl⟩ := List.mem_map.mp hmem
  obtain ⟨earlier, later, rfl⟩ := List.append_of_mem ht
  obtain ⟨mid, next, hearlier, -, hasks, -⟩ := h.split
  rw [hearlier.left_eq_of_done hi] at hasks
  cases hasks

theorem left_eq_of_not_mem (h : Interleaving m turns m') {i : ι}
    (hi : i ∉ turns.map Turn.caller) : m'.left i = m.left i := by
  induction h with
  | nil m => rfl
  | step j statement next asks _ ih =>
    rw [List.map_cons, List.mem_cons, not_or] at hi
    rw [ih hi.2]
    exact Function.update_of_ne hi.1 _ _

/-- What is left of a dialogue comes from the dialogue, whatever was replied. -/
theorem rest_left (h : Interleaving m turns m') (i : ι) : (m.left i).Rest (m'.left i) := by
  induction h with
  | nil m => exact .refl _
  | step j statement next asks _ ih =>
    dsimp only at ih
    by_cases hij : i = j
    · subst hij
      rw [Function.update_self] at ih
      rw [asks]
      exact .reply _ ih
    · rw [Function.update_of_ne hij] at ih
      exact ih

/-! ### What stays true of the table -/

theorem distinct (h : Interleaving m turns m') (hd : Table.Distinct m.table) :
    Table.Distinct m'.table := by
  induction h with
  | nil m => exact hd
  | step i statement next asks _ ih => exact ih (hd.run statement)

/-- **No row goes away, and what identifies a row does not change.** -/
theorem identities_prefix (h : Interleaving m turns m') :
    m.table.map Row.identity <+: m'.table.map Row.identity := by
  induction h with
  | nil m => exact List.prefix_rfl
  | step i statement next asks _ ih => exact (Statement.identities_prefix statement _).trans ih

/-- The row holds what the last statement accepted for it wrote, or it is as it was at first. -/
def Origin (table : Table) (turns : List (Turn ι)) (row : Row) : Prop :=
  (∃ earlier t later, turns = earlier ++ t :: later ∧ t.Accepted ∧ t.statement.Addresses row ∧
    t.statement.content? = some row.content ∧
    ∀ t' ∈ later, t'.Accepted → ¬ t'.statement.Addresses row) ∨
  (row ∈ table ∧ ∀ t ∈ turns, t.Accepted → ¬ t.statement.Addresses row)

/-- **Data and times of a row come from one accepted statement**, the last one for it. -/
theorem origin (h : Interleaving m turns m') (hd : Table.Distinct m.table) :
    ∀ row ∈ m'.table, Origin m.table turns row := by
  induction h with
  | nil m => exact fun row hrow => .inr ⟨hrow, nofun⟩
  | @step m m' turns i statement next asks _ ih =>
    intro row hrow
    rcases ih (hd.run statement) row hrow with
      ⟨earlier, t, later, rfl, haccepted, haddresses, hcontent, hlast⟩ | ⟨hold, hnone⟩
    · exact .inl ⟨_ :: earlier, t, later, rfl, haccepted, haddresses, hcontent, hlast⟩
    · rcases Statement.origin hd hold with ⟨haccepted, haddresses, hcontent⟩ | ⟨hold, hno⟩
      · exact .inl ⟨[], _, turns, rfl, haccepted, haddresses, hcontent, hnone⟩
      · refine .inr ⟨hold, fun t ht => ?_⟩
        rcases List.mem_cons.mp ht with rfl | ht
        · exact hno
        · exact hnone t ht

theorem key_free (h : Interleaving m turns m') (ht : t ∈ turns) {row : Row}
    (hs : t.statement = .insert row) (ha : t.Accepted) : ∀ old ∈ m.table, old.key ≠ row.key := by
  obtain ⟨earlier, later, rfl⟩ := List.append_of_mem ht
  obtain ⟨mid, next, hearlier, hbefore, -, -⟩ := h.split
  intro old hold he
  have hmem : old.identity ∈ mid.table.map Row.identity :=
    hearlier.identities_prefix.subset (List.mem_map_of_mem hold)
  obtain ⟨old', hold', hid⟩ := List.mem_map.mp hmem
  have hkey : old'.key = row.key := (congrArg (·.2.1) hid).trans he
  rw [hbefore] at hold'
  unfold Turn.Accepted Turn.reply at ha
  rw [hs, Statement.run_insert_refused] at ha
  · cases ha
  · exact List.any_eq_true.mpr ⟨old', hold', Row.collides_iff.mpr (.inr hkey)⟩

/-- **A key is inserted once.** -/
theorem keys_distinct (h : Interleaving m turns m') :
    turns.Pairwise fun t t' => ∀ row row', t.statement = .insert row → t.Accepted →
      t'.statement = .insert row' → t'.Accepted → row.key ≠ row'.key := by
  induction h with
  | nil m => exact .nil
  | @step m m' turns i statement next asks rest ih =>
    refine List.pairwise_cons.mpr ⟨fun t' ht' row row' hs ha hs' ha' => ?_, ih⟩
    dsimp only at hs
    subst hs
    refine rest.key_free ht' hs' ha' row ?_
    rcases Statement.run_insert_cases row m.table with ⟨-, hr⟩ | ⟨-, hr⟩
    · rw [hr]
      simp
    · unfold Turn.Accepted Turn.reply at ha
      dsimp only at ha
      rw [hr] at ha
      cases ha

end Interleaving

end Entitlement
