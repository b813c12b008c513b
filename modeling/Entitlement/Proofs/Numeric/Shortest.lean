import Entitlement.Numeric.Shortest
import Entitlement.Proofs.Numeric.Rounding

/-! # Shortest numerals read back

A decimal *reads as* a number if reading it gives that number (`Decimal.ReadsAs`). A hit of the
search reads as the number because it was tried (`onGrid?_readsAs`); where nothing is hit, the
expansion is the number itself (`expansion_readsAs`); and dropping zeros at the end does not change
the fraction that a decimal is (`trimmed_readsAs`). So every finite number is the one that its
shortest numeral reads as (`decimal_reads_back`). -/

namespace Entitlement

open Binary64

namespace Decimal

/-- The decimal as a fraction. -/
def value (d : Decimal) : ℚ := decimalRatio d.digits d.exponent

/-- Reading the decimal gives the finite number. -/
def ReadsAs (d : Decimal) (exponent : Fin 2047) (fraction : Fin (Nat.pow 2 52)) : Prop :=
  ofDecimal false d.digits d.exponent = .finite false exponent fraction

variable {d d' : Decimal} {exponent : Fin 2047} {fraction : Fin (Nat.pow 2 52)}

theorem ReadsAs.congr (h : d.ReadsAs exponent fraction) (hv : d'.value = d.value) :
    d'.ReadsAs exponent fraction :=
  (ofDecimal_congr false hv).trans h

theorem ReadsAs.signed (h : d.ReadsAs exponent fraction) (negative : Bool) :
    ofDecimal negative d.digits d.exponent = .finite negative exponent fraction := by
  rw [ofDecimal_sign, h]
  rfl

theorem readsAs_of_value (h : d.value = magnitude exponent fraction) :
    d.ReadsAs exponent fraction := by
  rw [ReadsAs, ofDecimal_eq, ← ofRatio_ratio]
  refine ofRatio_congr false (by positivity) (ratio_den_pos exponent fraction) ?_
  rw [decimal_div_eq, ratio_eq]
  exact h

theorem trimmed_value (fuel : Nat) (d : Decimal) : (d.trimmed fuel).value = d.value := by
  induction fuel generalizing d with
  | zero => rfl
  | succ fuel ih =>
    unfold trimmed
    split
    · next h =>
      rw [ih]
      have hd : (d.digits : ℚ) = (d.digits / 10 : Nat) * 10 := by
        have : d.digits = d.digits / 10 * 10 := by omega
        exact_mod_cast this
      unfold value decimalRatio
      dsimp only
      rw [hd, zpow_add₀ (by norm_num), zpow_one]
      ring
    · rfl

/-- Dropping zeros at the end changes nothing for the reader. -/
theorem trimmed_readsAs (fuel : Nat) (h : d.ReadsAs exponent fraction) :
    (d.trimmed fuel).ReadsAs exponent fraction :=
  h.congr (trimmed_value fuel d)

end Decimal

namespace Shortest

open Decimal

variable {exponent : Fin 2047} {fraction : Fin (Nat.pow 2 52)}

/-- **A hit on a grid reads as the number.** -/
theorem onGrid?_readsAs {unit : Int} {d : Decimal}
    (h : onGrid? (ratio exponent fraction).1 (ratio exponent fraction).2 unit = some d) :
    d.ReadsAs exponent fraction := by
  unfold onGrid? at h
  rw [ofRatio_ratio] at h
  dsimp only [Nat.pow_eq] at h
  split at h
  · next low high =>
    obtain rfl := Option.some.inj h
    rcases roundQuotient_cases ((ratio exponent fraction).1 * 10 ^ (-unit).toNat)
      ((ratio exponent fraction).2 * 10 ^ unit.toNat) with hr | hr
    · rw [ReadsAs, hr]
      exact of_decide_eq_true low
    · rw [ReadsAs, hr]
      exact of_decide_eq_true high
  · next low high =>
    obtain rfl := Option.some.inj h
    rw [ReadsAs]
    exact of_decide_eq_true low
  · next low high =>
    obtain rfl := Option.some.inj h
    rw [ReadsAs]
    exact of_decide_eq_true high
  · cases h

theorem search_readsAs {magnitude : Int} {fuel : Nat} {d : Decimal}
    (h : search (ratio exponent fraction).1 (ratio exponent fraction).2 magnitude fuel = some d) :
    d.ReadsAs exponent fraction := by
  induction fuel with
  | zero => cases h
  | succ fuel ih =>
    unfold search at h
    split at h
    · next d' hit =>
      obtain rfl := Option.some.inj h
      exact onGrid?_readsAs hit
    · exact ih h

theorem expansion_readsAs (exponent : Fin 2047) (fraction : Fin (Nat.pow 2 52)) :
    (expansion (significand exponent fraction) (scale exponent)).ReadsAs exponent fraction := by
  refine readsAs_of_value ?_
  unfold value decimalRatio expansion Binary64.magnitude
  simp only [Nat.pow_eq]
  generalize scale exponent = q
  rcases Int.le_total 0 q with hq | hq
  · obtain ⟨k, rfl⟩ := Int.eq_ofNat_of_zero_le hq
    rw [min_eq_right hq, show (-(k : Int)).toNat = 0 by omega, Int.toNat_natCast]
    push_cast
    rw [zpow_natCast]
    ring
  · obtain ⟨k, hk⟩ := Int.eq_ofNat_of_zero_le (a := -q) (by omega)
    obtain rfl : q = -(k : Int) := by omega
    rw [min_eq_left hq, show (-(k : Int)).toNat = 0 by omega, neg_neg, Int.toNat_natCast]
    push_cast
    rw [zpow_neg, zpow_neg, zpow_natCast, zpow_natCast, mul_one,
      show (10 : ℚ) = 2 * 5 by norm_num, mul_pow]
    field_simp

theorem decimal_readsAs (exponent : Fin 2047) (fraction : Fin (Nat.pow 2 52)) :
    (decimal exponent fraction).ReadsAs exponent fraction := by
  unfold decimal
  dsimp only
  split
  · next h =>
    obtain ⟨rfl, rfl⟩ := (ratio_num_eq_zero_iff exponent fraction).mp h
    rfl
  · refine trimmed_readsAs _ ?_
    cases h : search (ratio exponent fraction).1 (ratio exponent fraction).2
        (Shortest.magnitude (ratio exponent fraction).1 (ratio exponent fraction).2) 17 with
    | some d => exact search_readsAs h
    | none => exact expansion_readsAs exponent fraction

/-- **The shortest numeral reads back**, with its sign. -/
theorem decimal_reads_back (negative : Bool) (exponent : Fin 2047) (fraction : Fin (Nat.pow 2 52)) :
    ofDecimal negative (decimal exponent fraction).digits (decimal exponent fraction).exponent =
      .finite negative exponent fraction :=
  (decimal_readsAs exponent fraction).signed negative

end Shortest

end Entitlement
