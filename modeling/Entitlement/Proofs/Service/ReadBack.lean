import Entitlement.Proofs.License.ReadBack
import Entitlement.Proofs.Service.View
import Entitlement.Proofs.Store.Rows

/-! # What is handed out and what is stored

A call that returns a license leaves the row of this license in the table (`Write.returned_row`).
The license that any later reading rebuilds from the row has the same identity, moments and
features; it is the license that was returned if and only if the data, the features aside, is joined
(`Write.returned_is_stored_iff`). A payload whose bytes carry the two halves of a surrogate pair is
accepted and is not joined: its plan is handed out under one name and kept under another
(`Write.splitActivation_is_kept_otherwise`). -/

namespace Entitlement

open Entitlement.Task

namespace Store

theorem afterGet_find {table : Table} {organization id : Uuid} {stored : StoredLicense}
    (h : afterGet organization id ((Statement.find organization id).run table).1 = .ok stored) :
    ∃ row ∈ table, row.isAt organization id = true ∧ ofRow row = .ok stored := by
  dsimp only [Statement.run, afterGet, rowsOf] at h
  cases hf : table.find? (·.isAt organization id) with
  | none =>
    rw [hf] at h
    cases h
  | some row =>
    have hat := List.find?_some hf
    rw [hf] at h
    exact ⟨row, List.mem_of_find?_eq_some hf, hat, h⟩

theorem get_of_mem {s : Session} (answers : s.database.Answers)
    (distinct : Table.Distinct s.database.table) {row : Row} (hrow : row ∈ s.database.table) :
    ((get row.organization row.id).exec s).1 = ofRow row := by
  have hat : row.isAt row.organization row.id = true := Row.isAt_iff.mpr ⟨rfl, rfl⟩
  rw [get_exec, answers.ask, answers.send]
  dsimp only [Statement.run, afterGet, rowsOf]
  rw [distinct.find?_eq_some hrow hat]
  rfl

end Store

namespace Write

variable (service : Service) (w : Write) (s : Session)

theorem mem_of_revision {organization id : Uuid} {payload : Document} {l : License}
    {after : Table}
    (hdraft : (((update organization id payload).draft service).exec s).1 = .ok l)
    (hrun : ((update organization id payload).statement l s.environment.utc).run s.database.table =
      (.ok (.changed 1), after)) : l.stored.row ∈ after := by
  rw [update_draft_exec] at hdraft
  obtain ⟨stored, old, fresh, hget, hold, -, rfl⟩ := revised_eq_ok service hdraft
  have hreply : Store.afterGet organization id
      ((Statement.find organization id).run s.database.table).1 = .ok stored := by
    rcases Database.ask_cases s.database (.find organization id) with ⟨hreply, -⟩ | ⟨fault, hreply, -⟩
    · rw [← hreply]
      exact hget
    · rw [hreply] at hget
      cases hget
  obtain ⟨row, hrow, hat, hrowOf⟩ := Store.afterGet_find hreply
  obtain ⟨hid, hkey, horg, hcreated⟩ := License.ofStored_identity hold
  -- The revised license has the identity of the row that was found, so this row becomes its row.
  have hidentity : row.identity = (old.withTerms fresh s.environment.utc).stored.row.identity := by
    rw [← Store.identity_of_ofRow hrowOf]
    simp only [Row.identity, StoredLicense.row, License.stored, License.withTerms, hid, hkey, horg,
      hcreated]
  have hatNew : row.isAt organization old.id = true := by
    rw [Row.isAt_iff] at hat ⊢
    refine ⟨hat.1, ?_⟩
    exact congrArg Prod.fst hidentity
  have hafter : after = s.database.table.map (Row.updated organization old.id
      (old.withTerms fresh s.environment.utc).stored.data.storedText s.environment.utc
        s.environment.utc) := (Prod.mk.inj hrun).2.symm
  have hupdated : row.updated organization old.id
      (old.withTerms fresh s.environment.utc).stored.data.storedText s.environment.utc
        s.environment.utc = (old.withTerms fresh s.environment.utc).stored.row := by
    refine Row.eq_of_identity_content ?_ ?_
    · rw [Row.identity_updated, hidentity]
    · rw [Row.updated, if_pos hatNew]
      rfl
  rw [hafter, ← hupdated]
  exact List.mem_map_of_mem hrow

/-- **A call that returns a license leaves its row in the table.** -/
theorem returned_row (distinct : Table.Distinct s.database.table) {l : License}
    (h : w.result service s = .ok l) :
    l.stored.row ∈ w.tableAfter service s ∧ l.stored.data.checkWritable = .ok () ∧
      Table.Distinct (w.tableAfter service s) ∧ FromPayload service l := by
  obtain ⟨l', hstores, -, hl'⟩ | ⟨l', -, -, hfault⟩ | ⟨-, ⟨fault, hfault⟩, -⟩ :=
    ending_cases service w s distinct
  · obtain rfl : l' = l := Except.ok.inj (hl'.symm.trans h)
    have hpayload := w.draft_fromPayload service s hstores.drafted
    obtain ⟨hw, hrun⟩ := hstores.run service w s distinct
    have hcheck := Json.checkWritable_eq_ok_iff.mpr ⟨hw, hpayload.nesting_le service⟩
    have hdistinct := distinct.run
      (w.statement l' ((w.draft service).exec s).2.environment.utc)
    rw [hrun] at hdistinct
    refine ⟨?_, hcheck, hdistinct, hpayload⟩
    cases w with
    | activate organization key => exact Statement.mem_of_insert hrun
    | update organization id payload =>
      rw [update_draft_exec] at hrun
      exact mem_of_revision service s hstores.drafted hrun
  · rw [h] at hfault
    cases hfault
  · rw [h] at hfault
    cases hfault

theorem get_returned (distinct : Table.Distinct s.database.table) {l : License}
    (h : w.result service s = .ok l) {s' : Session}
    (htable : s'.database.table = w.tableAfter service s) (answers : s'.database.Answers) :
    ((Store.get l.organization l.id).exec s').1 =
      .ok { l.stored with data := l.stored.data.reread .stored } := by
  obtain ⟨hrow, hcheck, hafter, -⟩ := returned_row service w s distinct h
  rw [← htable] at hrow hafter
  have hget := Store.get_of_mem answers hafter hrow
  rw [Store.ofRow_row hcheck] at hget
  exact hget

/-- **What is handed out is what was stored, if and only if it is joined.** Reading the row back and
rebuilding the license from it always succeeds; the license that comes of it has the identity, the
moments and the features of the one that was returned, and it is the same license if and only if the
data, the features aside, is joined. -/
theorem returned_is_stored_iff (distinct : Table.Distinct s.database.table) {l : License}
    (h : w.result service s = .ok l) :
    ∀ s' : Session, s'.database.table = w.tableAfter service s → s'.database.Answers →
      ∃ stored l', ((Store.get l.organization l.id).exec s').1 = .ok stored ∧
        License.ofStored stored service.catalog = .ok l' ∧
        l'.id = l.id ∧ l'.key = l.key ∧ l'.organization = l.organization ∧
        l'.createdAt = l.createdAt ∧ l'.updatedAt = l.updatedAt ∧
        l'.lastValidatedAt = l.lastValidatedAt ∧ l'.terms.features = l.terms.features ∧
        (l' = l ↔ l.ownData.json.isJoined = true) := by
  intro s' htable answers
  obtain ⟨-, -, -, payload, organization, now, fresh, hparse, hterms⟩ :=
    returned_row service w s distinct h
  obtain ⟨l', hread, hsame⟩ := License.ofStored_reread hparse hterms
  have hget := get_returned service w s distinct h htable answers
  exact ⟨_, l', hget, hread, hsame⟩

/-! ### A license that is kept otherwise -/

/-- A payload that spells the name of its plan with the two halves of a surrogate pair. -/
def splitPayload : Text :=
  "\x7b\"id\": \"00000000000000000000000000000001\", \"key\": \"K\", \"status\": \"S\", "
    ++ ("\"plan\": \x7b\"name\": \"" : Text) ++ ([0xD83D, 0xDE00] : Text)
    ++ ("\"\x7d\x7d" : Text)

/-- A session on an empty table whose authority answers with the payload. -/
def splitSession : Session :=
  { lateSession with
    line := { Line.empty with script := [.ok ⟨200, Utf8.encode splitPayload⟩] } }

/-- The activation with that payload. -/
def splitActivation : Write := .activate .nil ("K" : Text)

/-- The name of the plan that is handed out, and the name under which it is kept. -/
def planNames (catalog : Catalog) (result : Except Fault License) : Option (Text × Text) :=
  match result with
  | .error _ => none
  | .ok l =>
    match License.ofStored { l.stored with data := l.stored.data.reread .stored } catalog with
    | .error _ => none
    | .ok l' => some (l.terms.planName, l'.terms.planName)

theorem planNames_splitActivation :
    planNames plainService.catalog (splitActivation.result plainService splitSession) =
      some ([0xD83D, 0xDE00], [0x1F600]) := by
  decide +kernel

/-- The activation returns a license, and any license that is rebuilt from its row has another
plan. -/
theorem splitActivation_plans : ∃ l, splitActivation.result plainService splitSession = .ok l ∧
    l.terms.planName = [0xD83D, 0xDE00] ∧
    ∀ (s' : Session) (stored : StoredLicense) (l' : License),
      s'.database.table = splitActivation.tableAfter plainService splitSession →
      s'.database.Answers → ((Store.get l.organization l.id).exec s').1 = .ok stored →
      License.ofStored stored plainService.catalog = .ok l' → l'.terms.planName = [0x1F600] := by
  have hplans := planNames_splitActivation
  cases hr : splitActivation.result plainService splitSession with
  | error fault =>
    rw [hr] at hplans
    cases hplans
  | ok l =>
    rw [hr] at hplans
    unfold planNames at hplans
    dsimp only at hplans
    cases hl' : License.ofStored { l.stored with data := l.stored.data.reread .stored }
        plainService.catalog with
    | error fault =>
      rw [hl'] at hplans
      cases hplans
    | ok kept =>
      rw [hl'] at hplans
      obtain ⟨hplan, hkept⟩ := Prod.mk.inj (Option.some.inj hplans)
      refine ⟨l, rfl, hplan, fun s' stored l' htable answers hget hread => ?_⟩
      rw [get_returned plainService splitActivation splitSession .nil hr htable answers] at hget
      obtain rfl := Except.ok.inj hget
      rw [← hkept, Except.ok.inj (hread.symm.trans hl')]

/-- The plan of that activation is handed out under one name and kept under another, and so its data
is not joined. -/
theorem splitActivation_is_kept_otherwise :
    Table.Distinct splitSession.database.table ∧
      ∃ l, splitActivation.result plainService splitSession = .ok l ∧
        l.ownData.json.isJoined = false ∧
        ∃ stored l', ((Store.get l.organization l.id).exec (Service.sessionOn
            (splitActivation.tableAfter plainService splitSession))).1 = .ok stored ∧
          License.ofStored stored plainService.catalog = .ok l' ∧ l'.id = l.id ∧
          l.terms.planName = [0xD83D, 0xDE00] ∧ l'.terms.planName = [0x1F600] := by
  obtain ⟨l, hl, hplan, hkept⟩ := splitActivation_plans
  obtain ⟨stored, l', hget, hread, hid, -, -, -, -, -, -, hsame⟩ :=
    returned_is_stored_iff plainService splitActivation splitSession .nil hl
      (Service.sessionOn (splitActivation.tableAfter plainService splitSession))
      (Service.sessionOn_table _) (Service.sessionOn_answers _)
  have hplan' := hkept _ stored l' (Service.sessionOn_table _) (Service.sessionOn_answers _) hget hread
  refine ⟨.nil, l, hl, ?_, stored, l', hget, hread, hid, hplan, hplan'⟩
  refine Bool.eq_false_iff.mpr fun hjoined => ?_
  rw [hsame.mpr hjoined, hplan] at hplan'
  cases hplan'

/-- The name of the plan is handed out as two halves of a pair, and read back from the store as the
one code point that they make. -/
theorem not_every_returned_license_is_stored :
    ¬ ∀ (service : Service) (w : Write) (s s' : Session) (l : License),
      Table.Distinct s.database.table → w.result service s = .ok l →
        s'.database.table = w.tableAfter service s → s'.database.Answers →
          ∃ stored, ((Store.get l.organization l.id).exec s').1 = .ok stored ∧
            License.ofStored stored service.catalog = .ok l := by
  intro always
  obtain ⟨l, hl, hplan, hkept⟩ := splitActivation_plans
  obtain ⟨s', htable, answers⟩ : ∃ s' : Session, s'.database.table =
      splitActivation.tableAfter plainService splitSession ∧ s'.database.Answers :=
    ⟨_, Service.sessionOn_table _, Service.sessionOn_answers _⟩
  obtain ⟨stored, hget, hread⟩ := always _ _ _ s' l .nil hl htable answers
  have hplan' := hkept s' stored l htable answers hget hread
  rw [hplan] at hplan'
  cases hplan'

end Write

end Entitlement
