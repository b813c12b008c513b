import Entitlement.Proofs.Service.Write

/-! # What a failed write leaves behind

A call that fails before its row is written leaves the table as it was. The announcement comes
after the row is written, though, and it fails when the end of the free period has no moment in UTC:
then the call fails and the row stays (`Write.late_of_stores`). This is the only way
(`failed_write_leaves_no_trace_iff`). -/

namespace Entitlement

open Entitlement.Task

namespace Write

variable (service : Service) (w : Write) (s : Session)

/-- What the call comes to. -/
def result : Except Fault License := ((w.act service).exec s).1

/-- The table after the call. -/
def tableAfter : Table := ((w.act service).exec s).2.database.table

/-- The call drafts the license, and the store takes it. -/
structure Stores (l : License) : Prop where
  drafted : ((w.draft service).exec s).1 = .ok l
  recorded : ((w.record l).exec ((w.draft service).exec s).2).1 = .ok ()

/-- **The ways a call can end:** the license is stored and announced, or it is stored and announcing
it fails, or nothing happens to the table. -/
theorem ending_cases (distinct : Table.Distinct s.database.table) :
    (∃ l, Stores service w s l ∧ l.terms.freeUntil.toUtc?.isSome ∧ w.result service s = .ok l) ∨
    (∃ l, Stores service w s l ∧ l.terms.freeUntil.toUtc? = none ∧
      w.result service s = .error Service.lateFault) ∨
    ((∀ l, ¬ Stores service w s l) ∧ (∃ fault, w.result service s = .error fault) ∧
      w.tableAfter service s = s.database.table) := by
  unfold result tableAfter
  rw [act_eq]
  have hdraft := draft_table service w s
  rcases hd : (w.draft service).exec s with ⟨fault | l, s₁⟩
  · rw [exec_bind_error hd]
    refine .inr (.inr ⟨fun l hl => ?_, ⟨fault, rfl⟩, by rw [hd] at hdraft; exact hdraft⟩)
    have := hl.drafted
    rw [hd] at this
    cases this
  rw [exec_bind_ok hd]
  have ht : s₁.database.table = s.database.table := by rw [hd] at hdraft; exact hdraft
  rcases w.record_cases l s₁ (ht ▸ distinct) with ⟨hr, -, -⟩ | ⟨fault, hr, htable⟩
  · have hstores : Stores service w s l := ⟨by rw [hd], by rw [hd]; exact hr⟩
    rw [exec_bind, show (w.record l).exec s₁ = (.ok (), ((w.record l).exec s₁).2) from
      Prod.ext hr rfl]
    dsimp only
    obtain ⟨ha, -⟩ := Service.announce_exec w.event w.organization l ((w.record l).exec s₁).2
    rw [exec_bind, show (Service.announce w.event w.organization l).exec ((w.record l).exec s₁).2 =
      (l.stats.map (fun _ => ()), _) from Prod.ext ha rfl]
    rcases Service.stats_cases l with ⟨hutc, stats, hstats⟩ | ⟨hutc, hstats⟩
    · rw [hstats]
      exact .inl ⟨l, hstores, hutc, rfl⟩
    · rw [hstats]
      exact .inr (.inl ⟨l, hstores, hutc, rfl⟩)
  · rw [exec_bind, show (w.record l).exec s₁ = (.error fault, ((w.record l).exec s₁).2) from
      Prod.ext hr rfl]
    refine .inr (.inr ⟨fun l' hl => ?_, ⟨fault, rfl⟩, htable.trans ht⟩)
    have h1 := hl.drafted
    have h2 := hl.recorded
    rw [hd] at h1 h2
    cases h1
    rw [hr] at h2
    cases h2

/-- A license that is stored although its free period has no end in UTC fails the call. -/
theorem late_of_stores (distinct : Table.Distinct s.database.table) {l : License}
    (h : Stores service w s l) (hutc : l.terms.freeUntil.toUtc? = none) :
    w.result service s = .error Service.lateFault := by
  have unique : ∀ l', Stores service w s l' → l' = l := fun l' hl' =>
    Except.ok.inj (hl'.drafted.symm.trans h.drafted)
  rcases ending_cases service w s distinct with ⟨l', hl', hsome, -⟩ | ⟨l', -, -, hr⟩ | ⟨hno, -, -⟩
  · rw [unique l' hl', hutc] at hsome
    cases hsome
  · exact hr
  · exact absurd h (hno l)

/-- **When a failed call leaves no trace.** A call that fails leaves the table as it was, and only a
call that returns its license changes the table, if and only if the call does not change the table
by storing a license whose free period has no end in UTC. -/
theorem failed_write_leaves_no_trace_iff (distinct : Table.Distinct s.database.table) :
    ((∀ fault, w.result service s = .error fault → w.tableAfter service s = s.database.table) ∧
      (w.tableAfter service s ≠ s.database.table → ∃ l, w.result service s = .ok l)) ↔
    ∀ l, Stores service w s l → l.terms.freeUntil.toUtc? = none →
      w.tableAfter service s = s.database.table := by
  constructor
  · rintro ⟨traceless, -⟩ l hl hutc
    exact traceless _ (late_of_stores service w s distinct hl hutc)
  · intro harmless
    rcases ending_cases service w s distinct with
      ⟨l, -, -, hr⟩ | ⟨l, hl, hutc, -⟩ | ⟨-, -, htable⟩
    · refine ⟨fun fault hf => ?_, fun _ => ⟨l, hr⟩⟩
      rw [hr] at hf
      cases hf
    · have htable := harmless l hl hutc
      exact ⟨fun _ _ => htable, fun hne => absurd htable hne⟩
    · exact ⟨fun _ _ => htable, fun hne => absurd htable hne⟩

/-! ### An activation that leaves a trace -/

/-- A service that reaches its authority at a plain address. -/
def plainService : Service where
  client := .make "http://a" Authority.Client.standardTimeout .standard "K" false
  flags := ⟨[], []⟩
  catalog := .standard
  dotMetrics := false
  counts := false

/-- A payload with a free period that ends before the first year begins in UTC. -/
def latePayload : Text :=
  "\x7b\"id\": \"00000000000000000000000000000001\", \"key\": \"K\", \"status\": \"S\", "
    ++ ("\"plan\": \x7b\"name\": \"P\"\x7d, " : Text)
    ++ ("\"free_until\": \"0001-01-01T00:00:00+01:00\"\x7d" : Text)

/-- A session on an empty table whose authority answers with the payload. -/
def lateSession : Session where
  environment := ⟨DateTime.first, .zero, .zero⟩
  database := ⟨[], [], true, 0, 0, none⟩
  line := { Line.empty with script := [.ok ⟨200, Utf8.encode latePayload⟩] }
  telemetry := ⟨.empty, none, [], .empty ("licensing" : Text)⟩

/-- The activation with that payload. -/
def lateActivation : Write := .activate .nil ("K" : Text)

/-- The number of rows that a call leaves when it fails. -/
def rowsOfFailure : Except Fault License × Session → Nat
  | (.error _, s) => s.database.table.length
  | (.ok _, _) => 0

theorem fails_of_rowsOfFailure (h : rowsOfFailure ((w.act service).exec s) = 1) :
    (∃ fault, w.result service s = .error fault) ∧ w.tableAfter service s ≠ [] := by
  unfold result tableAfter
  generalize (w.act service).exec s = outcome at h ⊢
  obtain ⟨fault | l, s'⟩ := outcome
  · refine ⟨⟨fault, rfl⟩, fun ht => ?_⟩
    dsimp only [rowsOfFailure] at h ht
    rw [ht] at h
    cases h
  · cases h

theorem rowsOfFailure_lateActivation :
    rowsOfFailure ((lateActivation.act plainService).exec lateSession) = 1 := by
  decide +kernel

theorem lateActivation_fails_and_stores :
    (∃ fault, lateActivation.result plainService lateSession = .error fault) ∧
      lateActivation.tableAfter plainService lateSession ≠ [] :=
  fails_of_rowsOfFailure _ _ _ rowsOfFailure_lateActivation

/-- The activation fails after its license is stored, as the end of the free period has no moment in
UTC. -/
theorem not_every_failed_write_traceless :
    ¬ ∀ (service : Service) (w : Write) (s : Session) (fault : Fault),
      Table.Distinct s.database.table → w.result service s = .error fault →
        w.tableAfter service s = s.database.table := by
  intro traceless
  obtain ⟨⟨fault, hr⟩, hne⟩ := lateActivation_fails_and_stores
  exact hne (traceless _ _ _ fault .nil hr)

/-- The activation stores a license whose free period has no end in UTC. -/
theorem lateActivation_stores_late_license :
    Table.Distinct lateSession.database.table ∧
      ∃ l, Stores plainService lateActivation lateSession l ∧
        l.terms.freeUntil.toUtc? = none := by
  refine ⟨.nil, ?_⟩
  by_contra hno
  obtain ⟨⟨fault, hr⟩, hne⟩ := lateActivation_fails_and_stores
  refine hne ?_
  refine ((failed_write_leaves_no_trace_iff plainService lateActivation lateSession .nil).mpr ?_).1
    fault hr
  exact fun l hl hutc => absurd ⟨l, hl, hutc⟩ hno

end Write

end Entitlement
