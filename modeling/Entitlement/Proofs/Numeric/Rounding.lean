import Entitlement.Numeric.Binary64
import Mathlib.Algebra.Order.Field.Power
import Mathlib.Data.Int.Log
import Mathlib.Data.Rat.Floor
import Mathlib.Tactic.FieldSimp
import Mathlib.Tactic.Linarith
import Mathlib.Tactic.Positivity
import Mathlib.Tactic.Ring

/-! # Rounding to a double precision number

The number nearest to a fraction depends on the fraction alone, not on how it is written
(`ofRatio_congr`): the power of two that is divided out is given by the binary logarithm of the
fraction (`scaleOf_eq`), and rounding a quotient is not changed by a common factor
(`roundQuotient_congr`). A number is the one nearest to itself (`ofRatio_ratio`). A decimal is read
as the fraction that it is, far beyond both ends too (`ofDecimal_eq`). -/

namespace Entitlement

namespace Binary64

/-! ### Rounding a quotient -/

theorem roundQuotient_mul (num den : Nat) {k : Nat} (hk : 0 < k) :
    roundQuotient (num * k) (den * k) = roundQuotient num den := by
  unfold roundQuotient
  simp only [Nat.mul_div_mul_right num den hk, Nat.mul_mod_mul_right, ← Nat.mul_assoc,
    Nat.mul_lt_mul_right hk, Nat.mul_left_inj hk.ne']

theorem roundQuotient_congr {num den num' den' : Nat} (hd : 0 < den) (hd' : 0 < den')
    (h : num * den' = num' * den) : roundQuotient num den = roundQuotient num' den' := by
  rw [← roundQuotient_mul num den hd', ← roundQuotient_mul num' den' hd, h, Nat.mul_comm den]

theorem roundQuotient_exact (m : Nat) {den : Nat} (hd : 0 < den) :
    roundQuotient (m * den) den = m := by
  simp [roundQuotient, Nat.mul_div_cancel m hd]
  omega

theorem div_le_roundQuotient (num den : Nat) : num / den ≤ roundQuotient num den := by
  unfold roundQuotient
  dsimp only
  split <;> omega

theorem roundQuotient_eq_zero {num den : Nat} (h : 2 * num < den) : roundQuotient num den = 0 := by
  have hlt : num < den := by omega
  simp [roundQuotient, Nat.div_eq_of_lt hlt, Nat.mod_eq_of_lt hlt]
  omega

theorem roundQuotient_cases (num den : Nat) :
    roundQuotient num den = num / den ∨ roundQuotient num den = num / den + 1 := by
  unfold roundQuotient
  dsimp only
  split
  · exact .inr rfl
  · exact .inl rfl

/-! ### The power of two that is divided out -/

@[simp] theorem shiftUp_eq (n : Nat) (k : Int) : shiftUp n k = n * 2 ^ k.toNat :=
  Nat.shiftLeft_eq n _

/-- A power of any sign, from its two halves. -/
theorem pow_toNat_mul (b : ℚ) (hb : b ≠ 0) (k : Int) :
    b ^ k.toNat = b ^ k * b ^ (-k).toNat := by
  rw [← zpow_natCast b k.toNat, ← zpow_natCast b (-k).toNat, ← zpow_add₀ hb]
  congr 1
  omega

/-- The comparison that finds the power, said about the fraction. -/
theorem shifted_lt_iff {num den : Nat} (hd : 0 < den) (q : Int) :
    shiftUp num (-q) < shiftUp den q * 2 ^ 53 ↔ (num / den : ℚ) < 2 ^ (q + 53) := by
  have hd' : (0 : ℚ) < den := by exact_mod_cast hd
  have h2 : (0 : ℚ) < 2 ^ (-q).toNat := by positivity
  rw [div_lt_iff₀ hd', ← mul_lt_mul_iff_left₀ h2, shiftUp_eq, shiftUp_eq]
  rw [show (2 : ℚ) ^ (q + 53) * den * 2 ^ (-q).toNat = den * 2 ^ q.toNat * 2 ^ 53 by
    rw [pow_toNat_mul 2 (by norm_num) q, zpow_add₀ (by norm_num : (2 : ℚ) ≠ 0)]
    push_cast
    ring]
  exact_mod_cast Iff.rfl

theorem two_pow_le_iff_le_log {x : ℚ} (hx : 0 < x) (k : Int) :
    (2 : ℚ) ^ k ≤ x ↔ k ≤ Int.log 2 x := by
  have := Int.zpow_le_iff_le_log (b := 2) (by omega) hx (x := k)
  simpa using this

theorem lt_two_pow_iff_log_lt {x : ℚ} (hx : 0 < x) (k : Int) :
    x < (2 : ℚ) ^ k ↔ Int.log 2 x < k := by
  have := Int.lt_zpow_iff_log_lt (b := 2) (by omega) hx (x := k)
  simpa using this

theorem log_eq {x : ℚ} (hx : 0 < x) {k : Int} (h1 : (2 : ℚ) ^ k ≤ x) (h2 : x < (2 : ℚ) ^ (k + 1)) :
    Int.log 2 x = k := by
  have := (two_pow_le_iff_le_log hx k).mp h1
  have := (lt_two_pow_iff_log_lt hx (k + 1)).mp h2
  omega

theorem ratio_pos {num den : Nat} (hn : num ≠ 0) (hd : 0 < den) : (0 : ℚ) < num / den := by
  have hn : (0 : ℚ) < num := by exact_mod_cast Nat.pos_of_ne_zero hn
  have hd : (0 : ℚ) < den := by exact_mod_cast hd
  exact div_pos hn hd

/-- The bit lengths give the logarithm of the fraction up to one. -/
theorem log_bounds {num den : Nat} (hn : num ≠ 0) (hd : 0 < den) :
    (num.log2 : Int) - den.log2 - 1 ≤ Int.log 2 (num / den : ℚ) ∧
      Int.log 2 (num / den : ℚ) ≤ (num.log2 : Int) - den.log2 := by
  have hx := ratio_pos hn hd
  have hd' : (0 : ℚ) < den := by exact_mod_cast hd
  have n1 : (2 : ℚ) ^ (num.log2 : Int) ≤ num := by exact_mod_cast Nat.log2_self_le hn
  have n2 : (num : ℚ) < 2 ^ ((num.log2 : Int) + 1) := by
    exact_mod_cast (Nat.lt_log2_self : num < 2 ^ (num.log2 + 1))
  have d1 : (2 : ℚ) ^ (den.log2 : Int) ≤ den := by exact_mod_cast Nat.log2_self_le hd.ne'
  have d2 : (den : ℚ) < 2 ^ ((den.log2 : Int) + 1) := by
    exact_mod_cast (Nat.lt_log2_self : den < 2 ^ (den.log2 + 1))
  constructor
  · rw [← two_pow_le_iff_le_log hx, le_div_iff₀ hd']
    calc (2 : ℚ) ^ ((num.log2 : Int) - den.log2 - 1) * den
        ≤ 2 ^ ((num.log2 : Int) - den.log2 - 1) * 2 ^ ((den.log2 : Int) + 1) := by gcongr
      _ = 2 ^ (num.log2 : Int) := by rw [← zpow_add₀ (by norm_num : (2 : ℚ) ≠ 0)]; congr 1; ring
      _ ≤ num := n1
  · rw [← Int.lt_add_one_iff, ← lt_two_pow_iff_log_lt hx, div_lt_iff₀ hd']
    calc (num : ℚ) < 2 ^ ((num.log2 : Int) + 1) := n2
      _ = 2 ^ ((num.log2 : Int) - den.log2 + 1) * 2 ^ (den.log2 : Int) := by
        rw [← zpow_add₀ (by norm_num : (2 : ℚ) ≠ 0)]; congr 1; ring
      _ ≤ 2 ^ ((num.log2 : Int) - den.log2 + 1) * den := by gcongr

/-- **The power of two that is divided out leaves 53 bits before the point**, unless the numbers end
before. -/
theorem scaleOf_eq {num den : Nat} (hn : num ≠ 0) (hd : 0 < den) :
    scaleOf num den = max (Int.log 2 (num / den : ℚ) - 52) (-1074) := by
  have hx := ratio_pos hn hd
  obtain ⟨h1, h2⟩ := log_bounds hn hd
  unfold scaleOf
  simp only [Nat.pow_eq]
  congr 1
  split
  · next h =>
    rw [shifted_lt_iff hd, lt_two_pow_iff_log_lt hx] at h
    omega
  · next h =>
    rw [shifted_lt_iff hd, lt_two_pow_iff_log_lt hx] at h
    omega

/-! ### The nearest number -/

theorem ofRatio_zero (negative : Bool) (den : Nat) : ofRatio negative 0 den = zeroOf negative := by
  simp [ofRatio]

theorem ofRatio_congr (negative : Bool) {num den num' den' : Nat} (hd : 0 < den) (hd' : 0 < den')
    (h : (num / den : ℚ) = num' / den') :
    ofRatio negative num den = ofRatio negative num' den' := by
  have hc : (den : ℚ) ≠ 0 := by exact_mod_cast hd.ne'
  have hc' : (den' : ℚ) ≠ 0 := by exact_mod_cast hd'.ne'
  have hcross : num * den' = num' * den := by
    rw [div_eq_div_iff hc hc'] at h
    exact_mod_cast h
  by_cases hn : num = 0
  · obtain rfl : num' = 0 := by
      rw [hn, Nat.zero_mul] at hcross
      exact (Nat.mul_eq_zero.mp hcross.symm).resolve_right hd.ne'
    rw [hn, ofRatio_zero, ofRatio_zero]
  · have hn' : num' ≠ 0 := by
      rintro rfl
      rw [Nat.zero_mul] at hcross
      exact (Nat.mul_ne_zero hn hd'.ne') hcross
    have hs : scaleOf num den = scaleOf num' den' := by rw [scaleOf_eq hn hd, scaleOf_eq hn' hd', h]
    unfold ofRatio
    rw [if_neg hn, if_neg hn', hs]
    dsimp only
    congr 1
    rw [shiftUp_eq, shiftUp_eq, shiftUp_eq, shiftUp_eq]
    refine roundQuotient_congr (by positivity) (by positivity) ?_
    calc num * 2 ^ (-scaleOf num' den').toNat * (den' * 2 ^ (scaleOf num' den').toNat)
        = num * den' * (2 ^ (-scaleOf num' den').toNat * 2 ^ (scaleOf num' den').toNat) := by ring
      _ = num' * den * (2 ^ (-scaleOf num' den').toNat * 2 ^ (scaleOf num' den').toNat) := by
        rw [hcross]
      _ = _ := by ring

/-- The magnitude of a number, as a fraction. -/
def magnitude (exponent : Fin 2047) (fraction : Fin (Nat.pow 2 52)) : ℚ :=
  significand exponent fraction * 2 ^ scale exponent

theorem ratio_den_pos (exponent : Fin 2047) (fraction : Fin (Nat.pow 2 52)) :
    0 < (ratio exponent fraction).2 := by
  simp [ratio]

theorem ratio_eq (exponent : Fin 2047) (fraction : Fin (Nat.pow 2 52)) :
    ((ratio exponent fraction).1 / (ratio exponent fraction).2 : ℚ) =
      magnitude exponent fraction := by
  have h2 : (2 : ℚ) ^ (-scale exponent).toNat ≠ 0 := by positivity
  simp only [ratio, shiftUp_eq, magnitude, Nat.one_mul]
  push_cast
  rw [div_eq_iff h2, pow_toNat_mul 2 (by norm_num) (scale exponent)]
  ring

theorem ratio_num_eq_zero_iff (exponent : Fin 2047) (fraction : Fin (Nat.pow 2 52)) :
    (ratio exponent fraction).1 = 0 ↔ exponent = 0 ∧ fraction = 0 := by
  have hs : significand exponent fraction = 0 ↔ exponent = 0 ∧ fraction = 0 := by
    unfold significand
    split
    · next h =>
      have he : exponent = 0 := Fin.ext h
      rw [show fraction = 0 ↔ fraction.val = 0 from ⟨fun h => h ▸ rfl, fun h => Fin.ext h⟩]
      exact ⟨fun hf => ⟨he, hf⟩, And.right⟩
    · next h =>
      refine ⟨fun hf => by omega, fun hf => absurd (hf.1 ▸ rfl) h⟩
  simpa [ratio] using hs

/-- The scale of a number that is not zero is the one that its magnitude is rounded at. -/
theorem scaleOf_ratio {exponent : Fin 2047} {fraction : Fin (Nat.pow 2 52)}
    (h : (ratio exponent fraction).1 ≠ 0) :
    scaleOf (ratio exponent fraction).1 (ratio exponent fraction).2 = scale exponent := by
  have hx := ratio_pos h (ratio_den_pos exponent fraction)
  rw [scaleOf_eq h (ratio_den_pos exponent fraction)]
  rw [ratio_eq] at hx ⊢
  have hpos : (0 : ℚ) < 2 ^ scale exponent := by positivity
  have hf : fraction.val < 2 ^ 52 := fraction.isLt
  by_cases he : exponent.val = 0
  · have hm : magnitude exponent fraction < 2 ^ (52 + scale exponent) := by
      rw [magnitude, zpow_add₀ (by norm_num : (2 : ℚ) ≠ 0)]
      refine mul_lt_mul_of_pos_right ?_ hpos
      rw [significand, if_pos he]
      exact_mod_cast hf
    rw [lt_two_pow_iff_log_lt hx] at hm
    rw [scale, if_pos he] at hm ⊢
    omega
  · have hs : (significand exponent fraction : ℚ) = 2 ^ 52 + fraction.val := by
      rw [significand, if_neg he]
      push_cast
      ring
    have hf' : (fraction.val : ℚ) < 2 ^ 52 := by exact_mod_cast hf
    have h1 : (2 : ℚ) ^ (52 + scale exponent) ≤ magnitude exponent fraction := by
      rw [magnitude, zpow_add₀ (by norm_num : (2 : ℚ) ≠ 0), hs]
      refine mul_le_mul_of_nonneg_right ?_ hpos.le
      norm_num
    have h2 : magnitude exponent fraction < 2 ^ (52 + scale exponent + 1) := by
      rw [magnitude, show 52 + scale exponent + 1 = 53 + scale exponent by ring,
        zpow_add₀ (by norm_num : (2 : ℚ) ≠ 0), hs]
      refine mul_lt_mul_of_pos_right ?_ hpos
      rw [show (2 : ℚ) ^ (53 : Int) = 2 ^ 52 + 2 ^ 52 by norm_num]
      exact add_lt_add_right hf' _
    rw [log_eq hx h1 h2, scale, if_neg he]
    omega

theorem pack_finite (negative : Bool) {m : Nat} {q : Int} (hm : m ≠ 2 ^ 53) {e : Nat}
    (he : e < 2047)
    (h : (if m < 2 ^ 52 then 0 else (q + 1075).toNat) = e) :
    pack negative m q = .finite negative ⟨e, he⟩ (fractionOf m) := by
  subst h
  simp only [pack, Nat.pow_eq, if_neg hm, dif_pos he]

theorem pack_infinite (negative : Bool) {m : Nat} {q : Int} (hm : 2 ^ 52 ≤ m) (hq : 972 ≤ q) :
    pack negative m q = .infinite negative := by
  by_cases h : m = 2 ^ 53
  · simp only [pack, Nat.pow_eq, if_pos h, lt_irrefl, if_false]
    exact dif_neg (by omega)
  · simp only [pack, Nat.pow_eq, if_neg h, if_neg (Nat.not_lt.mpr hm)]
    exact dif_neg (by omega)

theorem pack_significand (negative : Bool) (exponent : Fin 2047) (fraction : Fin (Nat.pow 2 52)) :
    pack negative (significand exponent fraction) (scale exponent) =
      .finite negative exponent fraction := by
  have hf : fraction.val < 2 ^ 52 := fraction.isLt
  have he := exponent.isLt
  have hm : significand exponent fraction ≠ 2 ^ 53 ∧
      significand exponent fraction % 2 ^ 52 = fraction.val := by
    unfold significand
    simp only [Nat.pow_eq]
    split <;> omega
  rw [pack_finite negative hm.1 he]
  · exact congrArg (Binary64.finite negative exponent) (Fin.ext hm.2)
  · unfold significand scale
    simp only [Nat.pow_eq]
    by_cases h0 : exponent.val = 0
    · rw [if_pos h0, if_pos hf, h0]
    · rw [if_neg h0, if_neg h0, if_neg (by omega)]
      omega

/-- **A number is the one nearest to itself.** -/
theorem ofRatio_ratio (negative : Bool) (exponent : Fin 2047) (fraction : Fin (Nat.pow 2 52)) :
    ofRatio negative (ratio exponent fraction).1 (ratio exponent fraction).2 =
      .finite negative exponent fraction := by
  by_cases h : (ratio exponent fraction).1 = 0
  · obtain ⟨he, hf⟩ := (ratio_num_eq_zero_iff exponent fraction).mp h
    rw [h, ofRatio_zero, he, hf]
    rfl
  · unfold ofRatio
    rw [if_neg h, scaleOf_ratio h]
    dsimp only
    rw [show roundQuotient _ _ = significand exponent fraction from ?_, pack_significand]
    simp only [ratio, shiftUp_eq, Nat.one_mul, Nat.mul_assoc]
    rw [Nat.mul_comm (2 ^ (scale exponent).toNat)]
    exact roundQuotient_exact _ (by positivity)

/-! ### The sign -/

/-- The number with a sign. -/
def withSign (negative : Bool) : Binary64 → Binary64
  | .finite _ exponent fraction => .finite negative exponent fraction
  | .infinite _ => .infinite negative
  | .nan => .nan

theorem pack_sign (negative : Bool) (m : Nat) (q : Int) :
    pack negative m q = (pack false m q).withSign negative := by
  unfold pack
  generalize (if m = Nat.pow 2 53 then (Nat.pow 2 52, q + 1) else (m, q)) = normal
  dsimp only
  generalize (if normal.1 < Nat.pow 2 52 then 0 else (normal.2 + 1075).toNat) = exponent
  by_cases h : exponent < 2047
  · rw [dif_pos h, dif_pos h]
    rfl
  · rw [dif_neg h, dif_neg h]
    rfl

theorem ofRatio_sign (negative : Bool) (num den : Nat) :
    ofRatio negative num den = (ofRatio false num den).withSign negative := by
  unfold ofRatio
  split
  · rfl
  · exact pack_sign negative _ _

/-! ### Both ends -/

theorem ofRatio_eq_infinite (negative : Bool) {num den : Nat} (hn : num ≠ 0) (hd : 0 < den)
    (h : 1024 ≤ Int.log 2 (num / den : ℚ)) : ofRatio negative num den = .infinite negative := by
  have hs : scaleOf num den = Int.log 2 (num / den : ℚ) - 52 := by
    rw [scaleOf_eq hn hd]
    omega
  obtain ⟨k, hk⟩ : ∃ k : Nat, scaleOf num den = (k : Int) + 1 :=
    ⟨(scaleOf num den - 1).toNat, by omega⟩
  have hbig : ¬ shiftUp num (-(k : Int)) < shiftUp den k * 2 ^ 53 := by
    rw [shifted_lt_iff hd, lt_two_pow_iff_log_lt (ratio_pos hn hd)]
    omega
  have hround : 2 ^ 52 ≤
      roundQuotient (shiftUp num (-scaleOf num den)) (shiftUp den (scaleOf num den)) := by
    refine le_trans ?_ (div_le_roundQuotient _ _)
    rw [shiftUp_eq, shiftUp_eq] at hbig ⊢
    rw [show (-(k : Int)).toNat = 0 by omega, Int.toNat_natCast] at hbig
    rw [hk, show (-((k : Int) + 1)).toNat = 0 by omega, show ((k : Int) + 1).toNat = k + 1 by omega,
      Nat.le_div_iff_mul_le (by positivity)]
    calc 2 ^ 52 * (den * 2 ^ (k + 1)) = den * 2 ^ k * 2 ^ 53 := by ring
      _ ≤ num * 2 ^ 0 := Nat.le_of_not_lt hbig
  unfold ofRatio
  rw [if_neg hn]
  exact pack_infinite negative hround (by omega)

theorem ofRatio_eq_zero (negative : Bool) {num den : Nat} (hn : num ≠ 0) (hd : 0 < den)
    (h : Int.log 2 (num / den : ℚ) < -1075) : ofRatio negative num den = zeroOf negative := by
  have hs : scaleOf num den = -1074 := by
    rw [scaleOf_eq hn hd]
    omega
  have hsmall : shiftUp num (- -1128) < shiftUp den (-1128) * 2 ^ 53 := by
    rw [shifted_lt_iff hd, lt_two_pow_iff_log_lt (ratio_pos hn hd)]
    omega
  have hround : roundQuotient (shiftUp num (- -1074)) (shiftUp den (-1074)) = 0 := by
    refine roundQuotient_eq_zero ?_
    rw [shiftUp_eq, shiftUp_eq] at hsmall ⊢
    rw [show (- -1128 : Int).toNat = (- -1074 : Int).toNat + 54 from rfl, pow_add, ← Nat.mul_assoc,
      show (-1128 : Int).toNat = (-1074 : Int).toNat from rfl] at hsmall
    omega
  unfold ofRatio
  rw [if_neg hn, hs]
  dsimp only
  rw [hround, pack_finite negative (by omega) (by omega : 0 < 2047) rfl]
  rfl

/-! ### Decimals -/

/-- A decimal as a fraction. -/
def decimalRatio (digits : Nat) (exponent : Int) : ℚ := digits * 10 ^ exponent

theorem decimal_div_eq (digits : Nat) (exponent : Int) :
    ((digits * 10 ^ exponent.toNat : Nat) / (10 ^ (-exponent).toNat : Nat) : ℚ) =
      decimalRatio digits exponent := by
  have h : (10 : ℚ) ^ (-exponent).toNat ≠ 0 := by positivity
  push_cast
  rw [decimalRatio, div_eq_iff h, pow_toNat_mul 10 (by norm_num) exponent]
  ring

theorem ten_pow_small : (2 : ℚ) * 10 ^ (-400 : Int) < 2 ^ (-1075 : Int) := by
  have h : (2 : ℚ) * 2 ^ (1075 : Int) < 10 ^ (400 : Int) := by
    calc (2 : ℚ) * 2 ^ (1075 : Int) = 2 ^ (1 + 1075 : Int) := by
          rw [zpow_add₀ (by norm_num), zpow_one]
      _ ≤ 2 ^ (1080 : Int) := zpow_le_zpow_right₀ (by norm_num) (by omega)
      _ = (2 ^ 135) ^ 8 := by rw [← pow_mul, ← zpow_natCast]; rfl
      _ < (10 ^ 50) ^ 8 := pow_lt_pow_left₀ (by norm_num) (by norm_num) (by omega)
      _ = 10 ^ (400 : Int) := by rw [← pow_mul, ← zpow_natCast]; rfl
  rw [zpow_neg, zpow_neg, ← div_eq_mul_inv, div_lt_iff₀ (by positivity), inv_mul_eq_div,
    lt_div_iff₀ (by positivity)]
  exact h

theorem two_pow_le_decimalRatio {digits : Nat} {exponent : Int} (h0 : digits ≠ 0)
    (h : 400 ≤ exponent) : (2 : ℚ) ^ (1024 : Int) ≤ decimalRatio digits exponent := by
  have h1 : (1 : ℚ) ≤ digits := by exact_mod_cast Nat.one_le_iff_ne_zero.mpr h0
  calc (2 : ℚ) ^ (1024 : Int) = (2 ^ 128) ^ 8 := by rw [← pow_mul, ← zpow_natCast]; rfl
    _ ≤ (10 ^ 50) ^ 8 := pow_le_pow_left₀ (by norm_num) (by norm_num) 8
    _ = 10 ^ (400 : Int) := by rw [← pow_mul, ← zpow_natCast]; rfl
    _ ≤ 10 ^ exponent := zpow_le_zpow_right₀ (by norm_num) h
    _ ≤ digits * 10 ^ exponent := le_mul_of_one_le_left (by positivity) h1

theorem decimalRatio_lt_two_pow {digits : Nat} {exponent : Int}
    (h : exponent ≤ -(400 + (digits.log2 : Int))) :
    decimalRatio digits exponent < (2 : ℚ) ^ (-1075 : Int) := by
  have hd : (digits : ℚ) < 2 ^ (digits.log2 + 1) := by
    exact_mod_cast (Nat.lt_log2_self : digits < 2 ^ (digits.log2 + 1))
  have h2 : (2 : ℚ) ^ digits.log2 ≤ 10 ^ digits.log2 :=
    pow_le_pow_left₀ (by norm_num) (by norm_num) _
  have h10 : (10 : ℚ) ^ (-(400 + (digits.log2 : Int))) * 10 ^ digits.log2 = 10 ^ (-400 : Int) := by
    rw [← zpow_natCast (10 : ℚ) digits.log2, ← zpow_add₀ (by norm_num)]
    congr 1
    ring
  calc (digits : ℚ) * 10 ^ exponent
      < 2 ^ (digits.log2 + 1) * 10 ^ exponent := mul_lt_mul_of_pos_right hd (by positivity)
    _ ≤ 2 ^ (digits.log2 + 1) * 10 ^ (-(400 + (digits.log2 : Int))) :=
      mul_le_mul_of_nonneg_left (zpow_le_zpow_right₀ (by norm_num) h) (by positivity)
    _ = 2 * 10 ^ (-(400 + (digits.log2 : Int))) * 2 ^ digits.log2 := by ring
    _ ≤ 2 * 10 ^ (-(400 + (digits.log2 : Int))) * 10 ^ digits.log2 :=
      mul_le_mul_of_nonneg_left h2 (by positivity)
    _ = 2 * 10 ^ (-400 : Int) := by rw [mul_assoc, h10]
    _ < (2 : ℚ) ^ (-1075 : Int) := ten_pow_small

/-- **A decimal is read as the fraction that it is.** The plain answers beyond both ends are the
rounded ones. -/
theorem ofDecimal_eq (negative : Bool) (digits : Nat) (exponent : Int) :
    ofDecimal negative digits exponent =
      ofRatio negative (digits * 10 ^ exponent.toNat) (10 ^ (-exponent).toNat) := by
  unfold ofDecimal
  split
  · next h => rw [h, Nat.zero_mul, ofRatio_zero]
  next h0 =>
  have hn : digits * 10 ^ exponent.toNat ≠ 0 := Nat.mul_ne_zero h0 (by positivity)
  have hd : 0 < 10 ^ (-exponent).toNat := by positivity
  have hx := ratio_pos hn hd
  split
  · next h =>
    refine (ofRatio_eq_infinite negative hn hd ?_).symm
    rw [← two_pow_le_iff_le_log hx, decimal_div_eq]
    exact two_pow_le_decimalRatio h0 h.le
  split
  · next h =>
    refine (ofRatio_eq_zero negative hn hd ?_).symm
    rw [← lt_two_pow_iff_log_lt hx, decimal_div_eq]
    exact decimalRatio_lt_two_pow h.le
  · rfl

theorem ofDecimal_congr (negative : Bool) {digits digits' : Nat} {exponent exponent' : Int}
    (h : decimalRatio digits exponent = decimalRatio digits' exponent') :
    ofDecimal negative digits exponent = ofDecimal negative digits' exponent' := by
  rw [ofDecimal_eq, ofDecimal_eq]
  refine ofRatio_congr negative (by positivity) (by positivity) ?_
  rw [decimal_div_eq, decimal_div_eq, h]

theorem ofDecimal_sign (negative : Bool) (digits : Nat) (exponent : Int) :
    ofDecimal negative digits exponent = (ofDecimal false digits exponent).withSign negative := by
  rw [ofDecimal_eq, ofDecimal_eq, ofRatio_sign]

end Binary64

end Entitlement
