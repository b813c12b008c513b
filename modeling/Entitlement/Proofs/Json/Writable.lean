import Entitlement.Json.Decoded
import Entitlement.Proofs.Json.Roundtrip

/-! # Values that can be written

Writing a value fails at its first obstacle, an integer that is too long or a nesting that is too
deep. There is none just where all integers can be written and the nesting stays within the limit
(`Json.checkWritable_eq_ok_iff`), which is all that the text needs to be read back. Where the
nesting stays within the limit an integer is the only obstacle there can be
(`Json.checkWritable_of_nesting_le`). -/

namespace Entitlement

namespace Json

variable {depth : Nat}

theorem itemsObstacle?_eq_none_iff {items : List Json} :
    itemsObstacle? depth items = none ↔ ∀ x ∈ items, obstacle? depth x = none := by
  induction items with
  | nil => simp [itemsObstacle?]
  | cons x rest ih => simp [itemsObstacle?, ih]

theorem membersObstacle?_eq_none_iff {members : Members} :
    membersObstacle? depth members = none ↔ ∀ m ∈ members, obstacle? depth m.2 = none := by
  induction members with
  | nil => simp [membersObstacle?]
  | cons m rest ih => simp [membersObstacle?, ih]

/-- **There is no obstacle** where all integers can be written and the nesting is not too deep. -/
theorem obstacle?_eq_none_iff {v : Json} :
    v.obstacle? depth = none ↔ v.isWritable = true ∧ v.nesting ≤ depth := by
  induction depth generalizing v with
  | zero =>
    cases v with
    | int i => simp [obstacle?, nesting]
    | array items => simp [obstacle?, nesting]
    | object members => simp [obstacle?, nesting]
    | _ => simp [obstacle?, nesting, isWritable]
  | succ depth ih =>
    cases v with
    | int i => simp [obstacle?, nesting]
    | array items =>
      rw [obstacle?, itemsObstacle?_eq_none_iff, isWritable, itemsWritable_iff, nesting]
      simp only [ih, Nat.succ_le_succ_iff, itemsNesting_le_iff]
      exact forall₂_and
    | object members =>
      rw [obstacle?, membersObstacle?_eq_none_iff, isWritable, membersWritable_iff, nesting]
      simp only [ih, Nat.succ_le_succ_iff, membersNesting_le_iff]
      exact forall₂_and
    | _ => simp [obstacle?, nesting, isWritable]

theorem itemsObstacle?_eq_some {items : List Json} {fault : Fault}
    (h : itemsObstacle? depth items = some fault) : ∃ x ∈ items, obstacle? depth x = some fault := by
  induction items with
  | nil => cases h
  | cons x rest ih =>
    rcases Option.or_eq_some_iff.mp h with hx | ⟨-, hrest⟩
    · exact ⟨x, List.mem_cons_self .., hx⟩
    · obtain ⟨y, hy, hfault⟩ := ih hrest
      exact ⟨y, List.mem_cons_of_mem _ hy, hfault⟩

theorem membersObstacle?_eq_some {members : Members} {fault : Fault}
    (h : membersObstacle? depth members = some fault) :
    ∃ m ∈ members, obstacle? depth m.2 = some fault := by
  induction members with
  | nil => cases h
  | cons m rest ih =>
    rcases Option.or_eq_some_iff.mp h with hm | ⟨-, hrest⟩
    · exact ⟨m, List.mem_cons_self .., hm⟩
    · obtain ⟨n, hn, hfault⟩ := ih hrest
      exact ⟨n, List.mem_cons_of_mem _ hn, hfault⟩

theorem obstacle?_eq_some {v : Json} {fault : Fault} (h : v.obstacle? depth = some fault) :
    fault = unwritable ∨ fault = tooDeep ∧ depth < v.nesting := by
  have hint : ∀ {d : Nat} {i : Int}, obstacle? d (.int i) = some fault → fault = unwritable := by
    intro d i h
    rw [obstacle?] at h
    split at h
    · cases h
    · exact (Option.some.inj h).symm
  induction depth generalizing v with
  | zero =>
    cases v with
    | int i => exact .inl (hint h)
    | array items => exact .inr ⟨(Option.some.inj h).symm, by simp [nesting]⟩
    | object members => exact .inr ⟨(Option.some.inj h).symm, by simp [nesting]⟩
    | _ => cases h
  | succ depth ih =>
    cases v with
    | int i => exact .inl (hint h)
    | array items =>
      obtain ⟨x, hx, hfault⟩ := itemsObstacle?_eq_some h
      rcases ih hfault with hlong | ⟨htoo, hlt⟩
      · exact .inl hlong
      refine .inr ⟨htoo, ?_⟩
      by_contra hle
      have hitems := itemsNesting_le_iff.mp (Nat.le_of_succ_le_succ (Nat.le_of_not_lt hle))
      exact absurd (hitems x hx) (Nat.not_le_of_lt hlt)
    | object members =>
      obtain ⟨m, hm, hfault⟩ := membersObstacle?_eq_some h
      rcases ih hfault with hlong | ⟨htoo, hlt⟩
      · exact .inl hlong
      refine .inr ⟨htoo, ?_⟩
      by_contra hle
      have hmembers := membersNesting_le_iff.mp (Nat.le_of_succ_le_succ (Nat.le_of_not_lt hle))
      exact absurd (hmembers m hm) (Nat.not_le_of_lt hlt)
    | _ => cases h

theorem checkWritable_eq_ok_iff {v : Json} :
    v.checkWritable = .ok () ↔ v.isWritable = true ∧ v.nesting ≤ Reader.depthLimit := by
  rw [← obstacle?_eq_none_iff, checkWritable]
  cases v.obstacle? Reader.depthLimit <;> simp

/-- A value that is not nested too deeply fails for its integers only. -/
theorem checkWritable_of_nesting_le {v : Json} (hd : v.nesting ≤ Reader.depthLimit) :
    v.checkWritable = if v.isWritable then .ok () else .error unwritable := by
  split
  · next hw => exact checkWritable_eq_ok_iff.mpr ⟨hw, hd⟩
  · next hw =>
    unfold checkWritable
    cases h : v.obstacle? Reader.depthLimit with
    | none => exact absurd (obstacle?_eq_none_iff.mp h).1 hw
    | some fault =>
      rcases obstacle?_eq_some h with rfl | ⟨-, hlt⟩
      · rfl
      · exact absurd hd (Nat.not_le_of_lt hlt)

end Json

end Entitlement
