import Entitlement.Proofs.Numeric.Rounding

/-! # The integer part of a number

A finite number is a fraction (`Binary64.value?`), and cutting the number gives the integer part of
that fraction, toward zero (`Binary64.truncate?_eq`). So all fractions from one integer up to the
next one away from zero are cut to the same integer, and `-1` is what is left of those above `-2`
and up to `-1` (`integerPart_eq_neg_one_iff`). -/

namespace Entitlement

/-- The integer part of a fraction, toward zero. -/
def integerPart (v : ℚ) : Int := if v < 0 then ⌈v⌉ else ⌊v⌋

theorem integerPart_intCast (i : Int) : integerPart i = i := by
  unfold integerPart
  split
  · exact Int.ceil_intCast i
  · exact Int.floor_intCast i

theorem integerPart_of_nonneg {v : ℚ} (h : 0 ≤ v) : integerPart v = ⌊v⌋ := if_neg h.not_gt

theorem integerPart_neg {v : ℚ} (h : 0 ≤ v) : integerPart (-v) = -⌊v⌋ := by
  rcases h.eq_or_lt with rfl | hpos
  · decide
  · rw [integerPart, if_pos (neg_neg_of_pos hpos), Int.ceil_neg]

theorem integerPart_nonpos {v : ℚ} (h : v < 0) : integerPart v ≤ 0 := by
  rw [integerPart, if_pos h]
  exact Int.ceil_le.mpr (by exact_mod_cast h.le)

theorem integerPart_eq_neg_one_iff {v : ℚ} : integerPart v = -1 ↔ -2 < v ∧ v ≤ -1 := by
  by_cases h : v < 0
  · rw [integerPart, if_pos h, Int.ceil_eq_iff]
    norm_num
  · have hv : 0 ≤ v := not_lt.mp h
    have hfloor : 0 ≤ ⌊v⌋ := Int.floor_nonneg.mpr hv
    rw [integerPart_of_nonneg hv]
    constructor
    · intro hneg
      omega
    · rintro ⟨-, hle⟩
      linarith

namespace Binary64

/-- The fraction that a finite number is. -/
def value? : Binary64 → Option ℚ
  | .finite negative exponent fraction =>
    let m := magnitude exponent fraction
    some (if negative then -m else m)
  | _ => none

theorem magnitude_nonneg (exponent : Fin 2047) (fraction : Fin (Nat.pow 2 52)) :
    0 ≤ magnitude exponent fraction := by
  unfold magnitude
  positivity

theorem floor_magnitude (exponent : Fin 2047) (fraction : Fin (Nat.pow 2 52)) :
    ⌊magnitude exponent fraction⌋ =
      ((ratio exponent fraction).1 / (ratio exponent fraction).2 : Nat) := by
  rw [← ratio_eq, Rat.floor_natCast_div_natCast, Int.natCast_div]

/-- **Cutting a number gives the integer part of the fraction that it is.** -/
theorem truncate?_eq (x : Binary64) : x.truncate? = x.value?.map integerPart := by
  cases x with
  | infinite negative => rfl
  | nan => rfl
  | finite negative exponent fraction =>
    have hm := magnitude_nonneg exponent fraction
    have hfloor := floor_magnitude exponent fraction
    unfold truncate? value?
    dsimp only
    rw [Option.map_some, ← hfloor]
    cases negative with
    | true => exact congrArg some (integerPart_neg hm).symm
    | false => exact congrArg some (integerPart_of_nonneg hm).symm

end Binary64

end Entitlement
