import Entitlement.Proofs.Service.History
import Mathlib.Data.List.Dedup
import Mathlib.Data.List.FinRange

/-! # Calls in any interleaving are calls one after another

A call takes effect at its last statement. Only an update has an earlier one, its search, and of the
row that it finds it uses what never changes again: its identity, and that it can be read
(`Write.revised_congr`). So an update that is still to write its license would write the same
license if it began only now, whatever was written in the meantime (`Call.Stage.on_eq`), and running
the calls one after another in the order of their last statements gives the same table and the same
results (`Interleaving.serial`, `Service.calls_are_linearizable`). -/

namespace Entitlement

open Entitlement.Task

/-! ### One call after another -/

/-- A database that answers. -/
def Database.holding (table : Table) : Database := ⟨table, [], true, 0, 0, none⟩

theorem Database.answers_holding (table : Table) : (holding table).Answers := ⟨rfl, rfl⟩

/-- A call that has the table for itself: its result, and the table afterwards. -/
def Call.alone (service : Service) (c : Call) (s : Session) (table : Table) :
    Except Fault License × Table :=
  (((c.act service).exec (s.over (.holding table))).1,
    ((c.act service).exec (s.over (.holding table))).2.database.table)

theorem Call.alone_eq (service : Service) (c : Call) (s : Session) (table : Table) :
    c.alone service s table = (c.dialogue service s).on table := by
  obtain ⟨h1, h2⟩ := (c.follows service s).exec (Database.answers_holding table)
  exact Prod.ext h1 h2

/-- The calls of a list, run one after another from one table to another, have the results. -/
def Serial {ι α : Type} (run : ι → Table → α × Table) (results : ι → α) :
    List ι → Table → Table → Prop
  | [], table, table' => table' = table
  | i :: order, table, table' =>
    (run i table).1 = results i ∧ Serial run results order (run i table).2 table'

/-- Calls that find their result in any table and leave it alone can stand anywhere. -/
theorem Serial.of_filter {ι α : Type} {run : ι → Table → α × Table} {results : ι → α}
    {p : ι → Bool} {order : List ι} {table table' : Table}
    (h : Serial run results (order.filter p) table table')
    (idle : ∀ i ∈ order, p i = false → ∀ t, run i t = (results i, t)) :
    Serial run results order table table' := by
  induction order generalizing table with
  | nil => exact h
  | cons i order ih =>
    have hidle : ∀ j ∈ order, p j = false → ∀ t, run j t = (results j, t) := fun j hj =>
      idle j (List.mem_cons_of_mem _ hj)
    rw [List.filter_cons] at h
    split at h
    · exact ⟨h.1, ih h.2 hidle⟩
    · next hp =>
      have hrun := idle i (List.mem_cons_self ..) (by simpa using hp) table
      unfold Serial
      rw [hrun]
      exact ⟨rfl, ih h hidle⟩

/-! ### Tables of filed rows -/

/-- A table of calls: ids and keys are distinct, and every row is filed. -/
structure Table.Sound (features : Json) (table : Table) : Prop where
  distinct : table.Distinct
  filed : ∀ row ∈ table, row.Filed features

/-- What a statement writes is filed data. -/
def Statement.Files (features : Json) (statement : Statement) : Prop :=
  ∀ content, statement.content? = some content → ∃ members,
    Json.decode content.1 = .ok (.object members) ∧ Payload.Filed features members

theorem Table.Sound.run {features : Json} {table : Table} (h : table.Sound features)
    {statement : Statement} (files : statement.Files features) :
    Table.Sound features (statement.run table).2 := by
  refine ⟨h.distinct.run statement, fun row hrow => ?_⟩
  rcases Statement.mem_run hrow with hold | hnew
  · exact h.filed row hold
  · obtain ⟨members, hdecode, hfiled⟩ := files row.content hnew
    exact ⟨members, hdecode, hfiled⟩

namespace Write

variable {service : Service}

theorem statement_content (w : Write) (l : License) (now : DateTime) :
    ∃ updatedAt lastValidatedAt, (w.statement l now).content? =
      some (l.stored.data.storedText, updatedAt, lastValidatedAt) := by
  cases w <;> exact ⟨_, _, rfl⟩

theorem statement_files (w : Write) {l : License} (h : FromPayload service l)
    (hw : l.stored.data.isWritable = true) (now : DateTime) :
    (w.statement l now).Files (service.catalog.json.reread .stored) := by
  intro content hcontent
  obtain ⟨members, hdecode, hfiled⟩ := h.filed service hw
  obtain ⟨updatedAt, lastValidatedAt, hc⟩ := w.statement_content l now
  rw [hc] at hcontent
  obtain rfl := Option.some.inj hcontent
  exact ⟨members, hdecode, hfiled⟩

/-- **Of the row that an update finds only the identity matters.** -/
theorem revised_congr {features : Json} {row row' : Row} (hfiled : row.Filed features)
    (hfiled' : row'.Filed features) (he : row.identity = row'.identity) (organization id : Uuid)
    (payload : Document) (now : DateTime) :
    revised service organization id payload now (.ok (.rows [row])) =
      revised service organization id payload now (.ok (.rows [row'])) := by
  obtain ⟨stored, old, hrow, hold, hid, hkey, horg, hcreated⟩ := hfiled.readable service.catalog
  obtain ⟨stored', old', hrow', hold', hid', hkey', horg', hcreated'⟩ :=
    hfiled'.readable service.catalog
  simp only [Row.identity, Prod.mk.injEq] at he
  obtain ⟨h1, h2, h3, h4⟩ := he
  have hterms : ∀ fresh : License, old.withTerms fresh now = old'.withTerms fresh now := by
    intro fresh
    unfold License.withTerms
    rw [License.mk.injEq]
    exact ⟨by rw [hid, hid', h1], by rw [hkey, hkey', h2], by rw [horg, horg', h3], rfl,
      by rw [hcreated, hcreated', h4], rfl, rfl⟩
  have hget : Store.afterGet organization id (.ok (.rows [row])) = .ok stored := hrow
  have hget' : Store.afterGet organization id (.ok (.rows [row'])) = .ok stored' := hrow'
  rw [revised_eq service hget hold, revised_eq service hget' hold', horg, horg', h3]
  simp only [hterms]

end Write

/-! ### How far a call is -/

namespace Call

variable {service : Service} {s : Session} {c : Call} {table table' : Table}

/-- **What can be left of a call** while other calls change the table: all of it; of an update that
has found its row, the writing of its license; or nothing. -/
inductive Stage (service : Service) (s : Session) (c : Call) (table : Table) :
    Dialogue License → Prop where
  | whole : Stage service s c table (c.dialogue service s)
  | revising {organization id : Uuid} {payload : Document} {row : Row} {l : License}
    (call : c = .write (.update organization id payload)) (mem : row ∈ table)
    (found : row.isAt organization id = true)
    (revised : Write.revised service organization id payload s.environment.utc
      (.ok (.rows [row])) = .ok l) :
    Stage service s c table ((Write.update organization id payload).recording l s.environment.utc)
  | done (outcome : Except Fault License) : Stage service s c table (.done outcome)

theorem Stage.mono {features : Json} {d : Dialogue License} (h : Stage service s c table d)
    (sound : table.Sound features) (sound' : table'.Sound features)
    (grows : table.map Row.identity <+: table'.map Row.identity) : Stage service s c table' d := by
  cases h with
  | whole => exact .whole
  | @revising organization id payload row l call mem found revised =>
    obtain ⟨row', hrow', he⟩ := List.mem_map.mp (grows.subset (List.mem_map_of_mem mem))
    refine .revising call hrow' (Row.isAt_congr he organization id ▸ found) ?_
    rw [Write.revised_congr (sound'.filed row' hrow') (sound.filed row mem) he]
    exact revised
  | done outcome => exact .done outcome

/-- **A call that goes on now does what it would do if it began now.** -/
theorem Stage.on_eq {d : Dialogue License} (h : Stage service s c table d)
    (distinct : table.Distinct) {statement : Statement}
    {next : Except Fault Reply → Dialogue License} (hd : d = .ask statement next) :
    d.on table = (c.dialogue service s).on table := by
  cases h with
  | whole => rfl
  | @revising organization id payload row l call mem found revised =>
    subst call
    have hfind := distinct.find?_eq_some mem found
    show _ = (Write.dialogue service s (.update organization id payload)).on table
    unfold Write.dialogue
    rw [Dialogue.on_ask]
    simp only [Statement.run, hfind, Option.toList_some, revised]
  | done outcome => cases hd

/-- After its license is drafted a call asks to store filed data, and ends. -/
theorem recording_step {w : Write} {l : License} {now : DateTime} (h : Write.FromPayload service l)
    {statement : Statement} {next : Except Fault Reply → Dialogue License}
    (hd : w.recording l now = .ask statement next) :
    statement.Files (service.catalog.json.reread .stored) ∧
      ∀ reply, ∃ outcome, next reply = .done outcome := by
  obtain ⟨hw, rfl, hnext⟩ := Write.recording_eq_ask hd
  exact ⟨w.statement_files h hw now, fun reply => ⟨_, hnext reply⟩⟩

/-- **One statement of a call**: what it writes is filed; the call has a stage after it again, and
if it is not done then, the statement was a search. -/
theorem Stage.step {d : Dialogue License} (h : Stage service s c table d)
    {statement : Statement} {next : Except Fault Reply → Dialogue License}
    (hd : d = .ask statement next) :
    statement.Files (service.catalog.json.reread .stored) ∧
      ((∃ outcome, next (statement.run table).1 = .done outcome) ∨
        (statement.run table).2 = table ∧
          Stage service s c table (next (statement.run table).1)) := by
  cases h with
  | done outcome => cases hd
  | revising call mem found revised =>
    obtain ⟨hfiles, hnext⟩ := recording_step (Write.revised_fromPayload service revised) hd
    exact ⟨hfiles, .inl (hnext _)⟩
  | whole =>
    cases c with
    | view organization =>
      obtain ⟨rfl, rfl⟩ := Dialogue.ask.inj hd
      exact ⟨nofun, .inl ⟨_, rfl⟩⟩
    | write w =>
      cases w with
      | activate organization key =>
        dsimp only [dialogue, Write.dialogue] at hd
        cases hdraft : (((Write.activate organization key).draft service).exec s).1 with
        | error fault =>
          rw [hdraft] at hd
          cases hd
        | ok l =>
          rw [hdraft] at hd
          obtain ⟨hfiles, hnext⟩ := recording_step (Write.draft_fromPayload service _ s hdraft) hd
          exact ⟨hfiles, .inl (hnext _)⟩
      | update organization id payload =>
        obtain ⟨rfl, rfl⟩ := Dialogue.ask.inj hd
        refine ⟨nofun, ?_⟩
        dsimp only [Statement.run]
        cases hfind : table.find? (·.isAt organization id) with
        | none => exact .inl ⟨_, rfl⟩
        | some row =>
          have hat := List.find?_some hfind
          cases hr : Write.revised service organization id payload s.environment.utc
              (.ok (.rows [row])) with
          | error fault =>
            refine .inl ⟨.error fault, ?_⟩
            simp only [Option.toList_some, hr]
          | ok l =>
            refine .inr ⟨rfl, ?_⟩
            simp only [Option.toList_some, hr]
            exact .revising rfl (List.mem_of_find?_eq_some hfind) hat hr

end Call

/-! ### Moments of calls -/

section

variable {ι : Type} [DecidableEq ι] {service : Service} {calls : ι → Call} {sessions : ι → Session}
  {m m' : Moment ι License} {turns : List (Turn ι)}

/-- A moment that calls come to: the table is sound, and each call is at one of its stages. -/
structure Moment.Staged (service : Service) (calls : ι → Call) (sessions : ι → Session)
    (m : Moment ι License) : Prop where
  sound : m.table.Sound (service.catalog.json.reread .stored)
  stage : ∀ i, Call.Stage service (sessions i) (calls i) m.table (m.left i)

omit [DecidableEq ι] in
theorem Moment.staged_start (service : Service) (calls : ι → Call) (sessions : ι → Session)
    {table : Table} (sound : table.Sound (service.catalog.json.reread .stored)) :
    Staged service calls sessions ⟨table, fun i => (calls i).dialogue service (sessions i)⟩ :=
  ⟨sound, fun _ => .whole⟩

theorem Moment.Staged.step (h : m.Staged service calls sessions) {i : ι} {statement : Statement}
    {next : Except Fault Reply → Dialogue License} (asks : m.left i = .ask statement next) :
    Staged service calls sessions ⟨(statement.run m.table).2,
      Function.update m.left i (next (statement.run m.table).1)⟩ := by
  obtain ⟨files, hnext⟩ := (h.stage i).step asks
  have sound := h.sound.run files
  refine ⟨sound, fun j => ?_⟩
  by_cases hji : j = i
  · subst hji
    dsimp only
    rw [Function.update_self]
    rcases hnext with ⟨outcome, hdone⟩ | ⟨htable, hstage⟩
    · rw [hdone]
      exact .done outcome
    · rw [htable]
      exact hstage
  · dsimp only
    rw [Function.update_of_ne hji]
    exact (h.stage j).mono h.sound sound (Statement.identities_prefix statement m.table)

/-- **Where a call takes effect.** A statement that is the last one of its call does all that the
call alone would do on the table that the statement meets; any other leaves the table as it is. -/
theorem Moment.Staged.effect (hm : m.Staged service calls sessions) {i : ι}
    {statement : Statement} {next : Except Fault Reply → Dialogue License}
    (asks : m.left i = .ask statement next)
    (rest : Interleaving ⟨(statement.run m.table).2,
      Function.update m.left i (next (statement.run m.table).1)⟩ turns m')
    {result : Except Fault License} (ends : m'.left i = .done result) :
    (i ∉ turns.map Turn.caller ∧
      (calls i).alone service (sessions i) m.table = (result, (statement.run m.table).2)) ∨
    (i ∈ turns.map Turn.caller ∧ (statement.run m.table).2 = m.table) := by
  by_cases hi : i ∈ turns.map Turn.caller
  · refine .inr ⟨hi, ?_⟩
    rcases ((hm.stage i).step asks).2 with ⟨outcome, hdone⟩ | ⟨htable, -⟩
    · have hleft :
          (Function.update m.left i (next (statement.run m.table).1)) i = .done outcome := by
        rw [Function.update_self, hdone]
      exact absurd hi (rest.not_mem_of_done hleft)
    · exact htable
  · refine .inl ⟨hi, ?_⟩
    have hnext : next (statement.run m.table).1 = .done result := by
      have hleft := rest.left_eq_of_not_mem hi
      rw [ends] at hleft
      dsimp only at hleft
      rw [Function.update_self] at hleft
      exact hleft.symm
    rw [Call.alone_eq, ← (hm.stage i).on_eq hm.sound.distinct asks, asks, Dialogue.on_ask, hnext]
    rfl

namespace Interleaving

theorem staged (h : Interleaving m turns m') (hm : m.Staged service calls sessions) :
    m'.Staged service calls sessions := by
  induction h with
  | nil m => exact hm
  | step i statement next asks _ ih => exact ih (hm.step asks)

/-- **Interleaved calls are calls one after another**, in the order of their last statements. -/
theorem serial (h : Interleaving m turns m') (hm : m.Staged service calls sessions)
    {results : ι → Except Fault License} (ends : ∀ i, m'.left i = .done (results i)) :
    Serial (fun i => (calls i).alone service (sessions i)) results
      (turns.map Turn.caller).dedup m.table m'.table := by
  induction h with
  | nil m => rfl
  | @step m m' turns i statement next asks rest ih =>
    have hrest := ih (hm.step asks) ends
    rw [List.map_cons]
    rcases hm.effect asks rest (ends i) with ⟨hlast, halone⟩ | ⟨hmore, hsame⟩
    · rw [List.dedup_cons_of_notMem hlast]
      unfold Serial
      rw [halone]
      exact ⟨rfl, hrest⟩
    · rw [List.dedup_cons_of_mem hmore, ← hsame]
      exact hrest

theorem alone_at_last {earlier later : List (Turn ι)} {t : Turn ι}
    (h : Interleaving m (earlier ++ t :: later) m') (hm : m.Staged service calls sessions)
    {results : ι → Except Fault License} (ends : ∀ i, m'.left i = .done (results i))
    (last : t.caller ∉ later.map Turn.caller) :
    (calls t.caller).alone service (sessions t.caller) t.before = (results t.caller, t.after) := by
  obtain ⟨mid, next, hearlier, hbefore, hasks, hlater⟩ := h.split
  unfold Turn.after Turn.reply at hlater
  rw [← hbefore] at hlater
  rcases (hearlier.staged hm).effect hasks hlater (ends t.caller) with ⟨-, halone⟩ | ⟨hmore, -⟩
  · unfold Turn.after
    rw [← hbefore]
    exact halone
  · exact absurd hmore last

/-- An order of all calls in which those that have turns stand in the order of their last turns. -/
structure Ordered (turns : List (Turn ι)) (order : List ι) : Prop where
  nodup : order.Nodup
  all : ∀ i, i ∈ order
  asking : order.filter (fun i => decide (i ∈ turns.map Turn.caller)) =
    (turns.map Turn.caller).dedup

theorem exists_ordered [Fintype ι] (turns : List (Turn ι)) : ∃ order, Ordered turns order := by
  refine ⟨(turns.map Turn.caller).dedup ++
    Finset.univ.toList.filter fun i => decide (i ∉ turns.map Turn.caller), ?_, fun i => ?_, ?_⟩
  · refine (List.nodup_dedup _).append (Finset.univ.nodup_toList.filter _) fun i hi hi' => ?_
    have hcaller := List.mem_dedup.mp hi
    have hidle := (List.mem_filter.mp hi').2
    exact absurd hcaller (of_decide_eq_true hidle)
  · by_cases hi : i ∈ turns.map Turn.caller
    · exact List.mem_append_left _ (List.mem_dedup.mpr hi)
    · refine List.mem_append_right _ (List.mem_filter.mpr ⟨?_, decide_eq_true hi⟩)
      exact Finset.mem_toList.mpr (Finset.mem_univ i)
  · rw [List.filter_append, List.filter_filter]
    have hasking : (turns.map Turn.caller).dedup.filter
        (fun i => decide (i ∈ turns.map Turn.caller)) = (turns.map Turn.caller).dedup :=
      List.filter_eq_self.mpr fun i hi => decide_eq_true (List.mem_dedup.mp hi)
    have hidle : Finset.univ.toList.filter (fun i => decide (i ∈ turns.map Turn.caller) &&
        decide (i ∉ turns.map Turn.caller)) = [] := by
      rw [List.filter_eq_nil_iff]
      intro i _
      by_cases hi : i ∈ turns.map Turn.caller <;> simp [hi]
    rw [hasking, hidle, List.append_nil]

end Interleaving

/-- **Calls are linearizable.** Activations, updates and views have their statements carried out in
any order on a table that is empty at first, until every call has its result. Then there are orders
of the calls in which those that ask anything stand in the order of their last statements and the
others anywhere; and in any such order the calls, run one after another, have the same results and
leave the same table. In particular the last statement of a call does what the whole call would do
there. -/
theorem Service.calls_are_linearizable (service : Service) [Fintype ι] (calls : ι → Call)
    (sessions : ι → Session) {turns : List (Turn ι)} {m : Moment ι License}
    (h : Interleaving ⟨[], fun i => (calls i).dialogue service (sessions i)⟩ turns m)
    {results : ι → Except Fault License} (ends : ∀ i, m.left i = .done (results i)) :
    (∃ order, Interleaving.Ordered turns order) ∧
    (∀ order, Interleaving.Ordered turns order →
      Serial (fun i => (calls i).alone service (sessions i)) results order [] m.table) ∧
    ∀ earlier t later, turns = earlier ++ t :: later → t.caller ∉ later.map Turn.caller →
      (calls t.caller).alone service (sessions t.caller) t.before =
        (results t.caller, t.after) := by
  have staged := Moment.staged_start service calls sessions ⟨.nil, nofun⟩
  refine ⟨Interleaving.exists_ordered turns, fun order ordered => ?_, ?_⟩
  · refine Serial.of_filter (ordered.asking ▸ h.serial staged ends) fun i _ hi table => ?_
    -- A call without a turn is done from the start.
    have hleft := h.left_eq_of_not_mem (of_decide_eq_false hi)
    rw [ends i] at hleft
    dsimp only at hleft
    rw [Call.alone_eq, ← hleft]
    rfl
  · rintro earlier t later rfl last
    exact h.alone_at_last staged ends last

end

/-! ### Updates that overlap -/

namespace Service

/-- A payload with a plan of this name. -/
def planPayload (plan : Text) : Text :=
  "\x7b\"id\": \"00000000000040008000000000000001\", \"key\": \"K\", \"status\": \"S\", "
    ++ ("\"plan\": \x7b\"name\": \"" : Text) ++ plan ++ ("\"\x7d\x7d" : Text)

/-- The license of that payload. -/
def planLicense (plan : Text) : License :=
  let data : Dictionary := .ofMembers [("status", .string "S"),
    ("plan", .object [("name", .string plan)]), ("features", Catalog.standard.json)]
  ⟨.first, "K", .nil, ⟨plan, "S", [], DateTime.first, 0, 0, Catalog.standard, data⟩,
    DateTime.first, DateTime.first, DateTime.first⟩

def planRow (plan : Text) : Row := (planLicense plan).stored.row

/-- The statement that writes that license. -/
def planUpdate (plan : Text) : Statement :=
  Store.revisingAt .nil (planLicense plan).stored DateTime.first

/-- A session whose authority answers with the payload of the first plan. -/
def planSession : Session :=
  { Write.lateSession with
    line := { Line.empty with script := [.ok ⟨200, Utf8.encode (planPayload "P")⟩] } }

def planName : Fin 3 → Text
  | 0 => "P"
  | 1 => "Q"
  | 2 => "R"

/-- An activation, and two updates of its license. -/
def planWrite (i : Fin 3) : Write :=
  if i = 0 then .activate .nil "K" else .update .nil .first (.text (planPayload (planName i)))

theorem planLicense_writable (i : Fin 3) :
    (planLicense (planName i)).stored.data.isWritable = true := by
  revert i
  decide +kernel

theorem planLicense_drafted :
    (((planWrite 0).draft Write.plainService).exec planSession).1 = .ok (planLicense "P") :=
  Outcome.eq_ok_of_toOption (by decide +kernel)

theorem planLicense_ending (i : Fin 3) : (planWrite i).ending (planLicense (planName i))
    (.ok (.changed 1)) = .ok (planLicense (planName i)) := by
  match i with
  | 0 => rfl
  | 1 => rfl
  | 2 => rfl

theorem planUpdate_dialogue {i : Fin 3} (later : i ≠ 0) :
    ∃ next, (planWrite i).dialogue Write.plainService planSession = .ask (.find .nil .first) next ∧
      next (.ok (.rows [planRow "P"])) = .ask (planUpdate (planName i)) fun reply =>
        .done ((planWrite i).ending (planLicense (planName i)) reply) := by
  have hrevised : ∀ i : Fin 3, i ≠ 0 → (Write.revised Write.plainService .nil .first
      (.text (planPayload (planName i))) DateTime.first (.ok (.rows [planRow "P"]))).toOption =
        some (planLicense (planName i)) := by
    decide +kernel
  have hlicense : Write.revised Write.plainService .nil .first (.text (planPayload (planName i)))
      planSession.environment.utc (.ok (.rows [planRow "P"])) = .ok (planLicense (planName i)) :=
    Outcome.eq_ok_of_toOption (hrevised i later)
  rw [show planWrite i = .update .nil .first (.text (planPayload (planName i))) from if_neg later]
  refine ⟨_, rfl, ?_⟩
  rw [hlicense]
  exact Write.recording_of_writable (planLicense_writable i) _

/-- Both updates find the row before either writes it, and the one that found it first writes
last. -/
def overlap : List (Turn (Fin 3)) :=
  [⟨0, .insert (planRow "P"), []⟩, ⟨1, .find .nil .first, [planRow "P"]⟩,
    ⟨2, .find .nil .first, [planRow "P"]⟩, ⟨2, planUpdate "R", [planRow "P"]⟩,
    ⟨1, planUpdate "Q", [planRow "R"]⟩]

theorem interleaving_overlap : ∃ m : Moment (Fin 3) License,
    Interleaving ⟨[], fun i => (planWrite i).dialogue Write.plainService planSession⟩ overlap m ∧
      m.table = [planRow "Q"] ∧ ∀ i, m.left i = .done (.ok (planLicense (planName i))) := by
  have h0 : (planWrite 0).dialogue Write.plainService planSession =
      .ask (.insert (planRow "P")) fun reply =>
        .done ((planWrite 0).ending (planLicense "P") reply) :=
    Write.activate_dialogue planLicense_drafted (planLicense_writable 0)
  obtain ⟨next1, h1, hnext1⟩ := planUpdate_dialogue (i := 1) (by decide)
  obtain ⟨next2, h2, hnext2⟩ := planUpdate_dialogue (i := 2) (by decide)
  refine ⟨_, .step 0 _ _ h0 (.step 1 _ next1 h1 (.step 2 _ next2 h2
    (.step 2 _ _ hnext2 (.step 1 _ _ hnext1 (.nil _))))), rfl, fun i => ?_⟩
  rw [← planLicense_ending i]
  match i with
  | 0 => rfl
  | 1 => rfl
  | 2 => rfl

/-- The update that found the row first has the effect that it would have after the other one. -/
theorem overlap_is_linear : ∃ m : Moment (Fin 3) License,
    Interleaving ⟨[], fun i => (Call.write (planWrite i)).dialogue Write.plainService planSession⟩
      overlap m ∧
    (∀ i, m.left i = .done (.ok (planLicense (planName i)))) ∧ m.table = [planRow "Q"] ∧
    Serial (fun i => (Call.write (planWrite i)).alone Write.plainService planSession)
      (fun i => .ok (planLicense (planName i))) [0, 2, 1] [] m.table := by
  obtain ⟨m, h, htable, ends⟩ := interleaving_overlap
  obtain ⟨-, hserial, -⟩ := calls_are_linearizable Write.plainService
    (fun i => Call.write (planWrite i)) (fun _ => planSession) h ends
  exact ⟨m, h, ends, htable, hserial [0, 2, 1] ⟨by decide, by decide, rfl⟩⟩

end Service

end Entitlement
