import Entitlement.Proofs.Service.Call
import Entitlement.Proofs.Store.Interleaving

/-! # Concurrent writers

Any number of activations and updates have their statements carried out in between one another. The
history of the table stays sound all the same (`Service.concurrent_writers_keep_history`): rows and
what identifies them stay, and what a row holds comes from one statement. Of the activations that
bring one key, one is accepted; each other one that comes to its insertion is refused and told that
the license exists (`Interleaving.refused`). -/

namespace Entitlement

open Entitlement.Task

namespace Write

/-- An activation whose payload carries the key. -/
def Carries (service : Service) (s : Session) (key : Text) : Write → Prop
  | .activate _ name => ∃ payload members,
    ((service.client.fetchLicense name).exec s).1 = .ok payload ∧
      Payload.decode (.bytes payload) = .ok members ∧
      Members.get? members "key" = some (.string key)
  | .update _ _ _ => False

theorem draft_key {service : Service} {s : Session} {organization : Uuid} {name key : Text}
    {l : License} (carries : (Write.activate organization name).Carries service s key)
    (h : (((Write.activate organization name).draft service).exec s).1 = .ok l) : l.key = key := by
  obtain ⟨payload, members, hfetch, hdecode, hkey⟩ := carries
  unfold draft at h
  rw [exec_bind, Service.wrapping_exec, hfetch] at h
  dsimp only [Except.mapError] at h
  rw [Act.exec_now_bind, Service.wrapping_exec] at h
  obtain ⟨members', hdecode', -, -, -, -, hkey'⟩ := License.parse_ok (mapError_eq_ok h)
  obtain rfl : members' = members := Except.ok.inj (hdecode'.symm.trans hdecode)
  rw [hkey] at hkey'
  exact (Json.string.inj (Option.some.inj hkey')).symm

theorem recording_rest {w : Write} {l : License} {now : DateTime} {statement : Statement}
    {next : Except Fault Reply → Dialogue License}
    (h : (w.recording l now).Rest (.ask statement next)) :
    statement = w.statement l now ∧ ∀ reply, next reply = .done (w.ending l reply) := by
  generalize hd : w.recording l now = d at h
  cases h with
  | refl => exact (recording_eq_ask hd).2
  | reply reply h =>
    rw [(recording_eq_ask hd).2.2 reply] at h
    cases h.of_done

/-- **Only an activation inserts**, and it inserts the license that it drafts. -/
theorem insertion_rest {service : Service} {s : Session} {w : Write} {row : Row}
    {next : Except Fault Reply → Dialogue License}
    (h : (w.dialogue service s).Rest (.ask (.insert row) next)) :
    ∃ organization key l, w = .activate organization key ∧ ((w.draft service).exec s).1 = .ok l ∧
      row = l.stored.row ∧ ∀ reply, next reply = .done (w.ending l reply) := by
  cases w with
  | activate organization key =>
    dsimp only [dialogue] at h
    cases hd : (((Write.activate organization key).draft service).exec s).1 with
    | error fault =>
      rw [hd] at h
      cases h.of_done
    | ok l =>
      rw [hd] at h
      obtain ⟨hs, hnext⟩ := recording_rest h
      exact ⟨organization, key, l, rfl, rfl, Statement.insert.inj hs, hnext⟩
  | update organization id payload =>
    dsimp only [dialogue] at h
    cases h with
    | reply reply h =>
      dsimp only at h
      cases hr : revised service organization id payload s.environment.utc reply with
      | error fault =>
        rw [hr] at h
        cases h.of_done
      | ok l =>
        rw [hr] at h
        obtain ⟨hs, -⟩ := recording_rest h
        cases hs

theorem ending_duplicate (organization : Uuid) (key : Text) (l : License) :
    (Write.activate organization key).ending l (.error Statement.duplicate) =
      .error (Store.taken l.id) := rfl

end Write

namespace Interleaving

variable {ι : Type} [DecidableEq ι] {service : Service} {calls : ι → Write} {sessions : ι → Session}
  {table : Table} {turns : List (Turn ι)} {m : Moment ι License}

/-- Every insertion is the one of an activation that has drafted its license. -/
theorem insertion
    (h : Interleaving ⟨table, fun i => (calls i).dialogue service (sessions i)⟩ turns m)
    {t : Turn ι} (ht : t ∈ turns) {row : Row} (hs : t.statement = .insert row) :
    ∃ organization key l, calls t.caller = .activate organization key ∧
      (((calls t.caller).draft service).exec (sessions t.caller)).1 = .ok l ∧ row = l.stored.row ∧
      m.left t.caller = .done ((calls t.caller).ending l t.reply) := by
  obtain ⟨earlier, later, rfl⟩ := List.append_of_mem ht
  obtain ⟨mid, next, hearlier, -, hasks, hlater⟩ := h.split
  have hrest := hearlier.rest_left t.caller
  rw [hasks, hs] at hrest
  obtain ⟨organization, key, l, hcall, hdraft, hrow, hnext⟩ := Write.insertion_rest hrest
  refine ⟨organization, key, l, hcall, hdraft, hrow, hlater.left_eq_of_done ?_⟩
  dsimp only
  rw [Function.update_self, hnext]

theorem refused (h : Interleaving ⟨table, fun i => (calls i).dialogue service (sessions i)⟩ turns m)
    {t : Turn ι} (ht : t ∈ turns) {row : Row} (hs : t.statement = .insert row) (ha : ¬ t.Accepted) :
    t.after = t.before ∧ m.left t.caller = .done (.error (Store.taken row.id)) := by
  obtain ⟨organization, key, l, hcall, -, rfl, hleft⟩ := h.insertion ht hs
  have hrun := Statement.run_insert_cases l.stored.row t.before
  rw [← hs] at hrun
  rcases hrun with ⟨-, hr⟩ | ⟨-, hr⟩
  · exact absurd (congrArg Prod.fst hr) ha
  · have hreply : t.reply = .error Statement.duplicate := congrArg Prod.fst hr
    rw [hcall, hreply, Write.ending_duplicate] at hleft
    exact ⟨congrArg Prod.snd hr, hleft⟩

end Interleaving

namespace Service

/-- **Concurrent writers keep the history.** Activations and updates, any number of them, have their
statements carried out in any order, on a table of distinct ids and keys; the statements are those
of the dialogues, which the calls follow. At every moment ids and keys are distinct; rows stay, with
what identifies them; the data and the times of a row come from the last statement accepted for it.
Of the activations whose payloads carry one key at most one is accepted; each other one that comes
to its insertion changes nothing and is told that the license exists. -/
theorem concurrent_writers_keep_history (service : Service) {ι : Type} [DecidableEq ι]
    (calls : ι → Write) (sessions : ι → Session) {table : Table} (distinct : Table.Distinct table)
    {turns : List (Turn ι)} {m : Moment ι License}
    (h : Interleaving ⟨table, fun i => (calls i).dialogue service (sessions i)⟩ turns m) :
    (∀ i, Act.Follows ((calls i).act service) (sessions i)
      ((calls i).dialogue service (sessions i))) ∧
    Table.Distinct m.table ∧
    table.map Row.identity <+: m.table.map Row.identity ∧
    (∀ later m', Interleaving m later m' → m.table.map Row.identity <+: m'.table.map Row.identity) ∧
    (∀ row ∈ m.table, Interleaving.Origin table turns row) ∧
    (∀ key, turns.Pairwise fun t t' => ∀ row row',
      (calls t.caller).Carries service (sessions t.caller) key →
      (calls t'.caller).Carries service (sessions t'.caller) key →
      t.statement = .insert row → t'.statement = .insert row' → ¬ (t.Accepted ∧ t'.Accepted)) ∧
    ∀ t ∈ turns, ∀ row, t.statement = .insert row → ¬ t.Accepted →
      t.after = t.before ∧ m.left t.caller = .done (.error (Store.taken row.id)) := by
  refine ⟨fun i => (calls i).follows service (sessions i), h.distinct distinct,
    h.identities_prefix, fun later m' h' => h'.identities_prefix, h.origin distinct, fun key => ?_,
    fun t ht row hs ha => h.refused ht hs ha⟩
  have hkey : ∀ t ∈ turns, ∀ row, (calls t.caller).Carries service (sessions t.caller) key →
      t.statement = .insert row → row.key = key := by
    intro t ht row hcarries hs
    obtain ⟨organization, name, l, hcall, hdraft, rfl, -⟩ := h.insertion ht hs
    rw [hcall] at hcarries hdraft
    exact Write.draft_key hcarries hdraft
  refine (h.keys_distinct.imp_of_mem fun {t t'} ht ht' hdistinct => ?_)
  rintro row row' hcarries hcarries' hs hs' ⟨ha, ha'⟩
  refine hdistinct row row' hs ha hs' ha' ?_
  rw [hkey t ht row hcarries hs, hkey t' ht' row' hcarries' hs']

/-- Two activations bring one payload, and the second one inserts right behind the first one. -/
theorem interleaving_lateRace : ∃ (l : License) (m : Moment (Fin 2) License),
    Interleaving
      ⟨[], fun _ : Fin 2 => Write.lateActivation.dialogue Write.plainService Write.lateSession⟩
      [⟨0, .insert l.stored.row, []⟩, ⟨1, .insert l.stored.row, [l.stored.row]⟩] m ∧
    ∀ i, ∃ outcome, m.left i = .done outcome := by
  obtain ⟨l, hasks⟩ : ∃ l, Write.lateActivation.dialogue Write.plainService Write.lateSession =
      .ask (.insert l.stored.row) fun reply => .done (Write.lateActivation.ending l reply) := by
    rcases Write.lateActivation.tableAfter_cases Write.plainService Write.lateSession .nil with
      h | ⟨l, now, hdraft, hw, -⟩
    · exact absurd h Write.lateActivation_fails_and_stores.2
    · exact ⟨l, Write.activate_dialogue hdraft hw⟩
  rw [hasks]
  refine ⟨l, _, .step 0 _ _ rfl (.step 1 _ _ rfl (.nil _)), fun i => ?_⟩
  match i with
  | 0 => exact ⟨_, rfl⟩
  | 1 => exact ⟨_, rfl⟩

/-- The license of the race is stored once. -/
theorem history_of_lateRace : ∃ (l : License) (m : Moment (Fin 2) License), Table.Distinct [] ∧
    Interleaving
      ⟨[], fun _ : Fin 2 => Write.lateActivation.dialogue Write.plainService Write.lateSession⟩
      [⟨0, .insert l.stored.row, []⟩, ⟨1, .insert l.stored.row, [l.stored.row]⟩] m ∧
    Table.Distinct m.table ∧ m.left 1 = .done (.error (Store.taken l.id)) := by
  obtain ⟨l, m, h, -⟩ := interleaving_lateRace
  obtain ⟨-, distinct, -, -, -, -, refused⟩ := concurrent_writers_keep_history Write.plainService
    (fun _ : Fin 2 => Write.lateActivation) (fun _ => Write.lateSession) .nil h
  refine ⟨l, m, .nil, h, distinct, ?_⟩
  have htaken : [l.stored.row].any (Row.collides l.stored.row) = true := by simp [Row.collides]
  refine (refused ⟨1, .insert l.stored.row, [l.stored.row]⟩ (by simp) _ rfl fun ha => ?_).2
  unfold Turn.Accepted Turn.reply at ha
  rw [Statement.run_insert_refused htaken] at ha
  cases ha

end Service

end Entitlement
