import Entitlement.Proofs.Text.Decimal
import Entitlement.Text.Case

/-! # Lower case in ASCII

Of a text in ASCII the lower form is the one in ASCII (`lower_ascii`). A letter of another script
never becomes one of the first letters in lower case, nor a digit or a mark
(`exists_mem_lowerForm`): the table holds a few that become ASCII letters, but none before `g`. So
lowering gives a text of such code points just where lowering in ASCII does (`lower_eq_iff`). -/

namespace Entitlement

namespace CodePoint

/-- The lower form of a code point apart from its neighbours. -/
def lowerAlone (c : CodePoint) : Text := c.mapBy lowerSpecial lowerShifts

theorem lowerAlone_ascii {c : CodePoint} (h : c.isAscii = true) : lowerAlone c = [c.lowerAscii] := by
  have hall : ∀ n < 0x80, lowerAlone (ofNat n) = [(ofNat n).lowerAscii] := by decide +kernel
  have hc := hall c.val (of_decide_eq_true h)
  rwa [ofNat_val] at hc

theorem lt_val_ofNat {k n : Nat} (hk : k < 0xFFFD) (h : k < n) : k < (ofNat n).val := by
  unfold ofNat
  split
  · exact h
  · exact hk

theorem shift_foreign : ∀ s ∈ lowerShifts, s.last < 0x80 ∨ 0x66 < s.first + s.distance := by
  have hall : lowerShifts.all (fun s => s.last < 0x80 || 0x66 < s.first + s.distance) = true := by
    decide +kernel
  intro s hs
  have := List.all_eq_true.mp hall s hs
  simpa using this

theorem shiftBy_foreign {c : CodePoint} (h : c.isAscii = false) :
    0x66 < (shiftBy lowerShifts c).val := by
  have hc : ¬ c.val < 0x80 := of_decide_eq_false h
  unfold shiftBy
  split
  · next s hs =>
    have hmoves := List.find?_some hs
    simp only [Shift.moves, Bool.and_eq_true, decide_eq_true_eq, beq_iff_eq] at hmoves
    obtain ⟨⟨hfirst, hlast⟩, -⟩ := hmoves
    refine lt_val_ofNat (by decide) ?_
    have := shift_foreign s (List.mem_of_find?_eq_some hs)
    omega
  · omega

theorem exists_mem_lowerAlone {c : CodePoint} (h : c.isAscii = false) :
    ∃ d ∈ lowerAlone c, 0x66 < d.val := by
  unfold lowerAlone mapBy
  split
  · next ns hns =>
    have hspecial : ∀ n ns, lowerSpecial.lookup n = some ns → ns = [0x69, 0x307] := by
      intro n ns hlookup
      rw [lowerSpecial, List.lookup_cons] at hlookup
      split at hlookup
      · exact (Option.some.inj hlookup).symm
      · cases hlookup
    rw [hspecial _ _ hns]
    exact ⟨ofNat 0x69, List.mem_cons_self, by decide⟩
  · exact ⟨_, List.mem_cons_self, shiftBy_foreign h⟩

end CodePoint

namespace Text

/-- Only a capital sigma looks at its neighbours. -/
theorem lowerForm_eq {c : CodePoint} (hc : c ≠ 0x3A3) (before after : Text) :
    lowerForm before c after = c.lowerAlone := if_neg hc

theorem lowerForm_ascii {c : CodePoint} (h : c.isAscii = true) (before after : Text) :
    lowerForm before c after = [c.lowerAscii] := by
  have hc : c ≠ 0x3A3 := by
    rintro rfl
    cases h
  rw [lowerForm_eq hc, CodePoint.lowerAlone_ascii h]

theorem exists_mem_lowerForm {c : CodePoint} (h : c.isAscii = false) (before after : Text) :
    ∃ d ∈ lowerForm before c after, 0x66 < d.val := by
  by_cases hc : c = 0x3A3
  · rw [lowerForm, if_pos hc]
    split
    · exact ⟨0x3C2, List.mem_cons_self, by decide⟩
    · exact ⟨0x3C3, List.mem_cons_self, by decide⟩
  · rw [lowerForm_eq hc]
    exact CodePoint.exists_mem_lowerAlone h

theorem lowerFrom_ascii {t : Text} (h : ∀ c ∈ t, c.isAscii = true) (before : Text) :
    lowerFrom before t = t.lowerAscii := by
  induction t generalizing before with
  | nil => rfl
  | cons c t ih =>
    rw [lowerFrom, lowerForm_ascii (h c List.mem_cons_self),
      ih fun d hd => h d (List.mem_cons_of_mem c hd)]
    rfl

theorem lower_ascii {t : Text} (h : ∀ c ∈ t, c.isAscii = true) : t.lower = t.lowerAscii :=
  lowerFrom_ascii h []

theorem exists_mem_lowerFrom {t : Text} {c : CodePoint} (hc : c ∈ t) (h : c.isAscii = false)
    (before : Text) : ∃ d ∈ lowerFrom before t, 0x66 < d.val := by
  induction t generalizing before with
  | nil => cases hc
  | cons c' t ih =>
    rw [lowerFrom]
    rcases List.mem_cons.mp hc with rfl | hc
    · obtain ⟨d, hd, hlt⟩ := exists_mem_lowerForm h before t
      exact ⟨d, List.mem_append_left _ hd, hlt⟩
    · obtain ⟨d, hd, hlt⟩ := ih hc (c' :: before)
      exact ⟨d, List.mem_append_right _ hd, hlt⟩

/-- **A text of digits, marks and the first letters** comes of lowering just where it comes of
lowering in ASCII. -/
theorem lower_eq_iff {t target : Text} (htarget : ∀ c ∈ target, c.val ≤ 0x66) :
    t.lower = target ↔ t.lowerAscii = target := by
  constructor
  · rintro rfl
    refine (lower_ascii fun c hc => ?_).symm
    by_contra hno
    obtain ⟨d, hd, hlt⟩ := exists_mem_lowerFrom hc (Bool.eq_false_iff.mpr hno) []
    exact absurd (htarget d hd) (by omega)
  · rintro rfl
    refine lower_ascii fun c hc => ?_
    by_contra hno
    -- a code point beyond ASCII is kept
    have hc' := htarget c.lowerAscii (List.mem_map_of_mem hc)
    have hlarge : ¬ c.val < 0x80 := of_decide_eq_false (Bool.eq_false_iff.mpr hno)
    have hkept : c.lowerAscii = c := if_neg (by omega)
    rw [hkept] at hc'
    omega

end Text

end Entitlement
