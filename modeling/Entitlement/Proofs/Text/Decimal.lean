import Entitlement.Text.Basic
import Mathlib.Data.List.Basic
import Mathlib.Data.Nat.Log
import Mathlib.Tactic.Ring

/-! # Decimal numerals

A numeral is the numeral of the tens followed by the last digit (`decimal_eq`); so it holds digits
only, starts with no zero unless it is `0` (`head_decimal`), and stands for its number
(`digitsValue_decimal`). The value of digits put together is `digitsValue_append`. Different
integers have different numerals (`ofInt_injective`). -/

namespace Entitlement

namespace CodePoint

theorem val_ofNat {n : Nat} (h : n < 0x110000) : (ofNat n).val = n := by
  unfold ofNat
  rw [dif_pos h]

theorem ofNat_val (c : CodePoint) : ofNat c.val = c := by
  unfold ofNat
  rw [dif_pos c.isLt]

/-- The code point of a decimal digit. -/
def digit (n : Nat) : CodePoint := ofNat (0x30 + n)

theorem val_digit {n : Nat} (h : n < 10) : (digit n).val = 0x30 + n := val_ofNat (by omega)

theorem isDigit_iff {c : CodePoint} : c.isDigit = true ↔ 0x30 ≤ c.val ∧ c.val ≤ 0x39 := by
  simp [isDigit]

theorem isDigit_digit {n : Nat} (h : n < 10) : (digit n).isDigit = true := by
  rw [isDigit_iff, val_digit h]
  omega

end CodePoint

namespace Text

open CodePoint

/-! ### The recursion on the tens -/

theorem decimalOnto_append (fuel n : Nat) (tail : Text) :
    decimalOnto fuel n tail = decimalOnto fuel n [] ++ tail := by
  induction fuel generalizing n tail with
  | zero => rfl
  | succ fuel ih =>
    unfold decimalOnto
    dsimp only
    split
    · rfl
    · rw [ih (n / 10) (_ :: tail), ih (n / 10) [_]]
      simp

/-- Any fuel above the number of digits gives the same numeral. -/
theorem decimalOnto_fuel {f g n : Nat} (hf : n < 10 ^ (f + 1)) (hg : n < 10 ^ (g + 1))
    (tail : Text) :
    decimalOnto (f + 1) n tail = decimalOnto (g + 1) n tail := by
  induction f generalizing g n tail with
  | zero =>
    unfold decimalOnto
    simp only [show n < 10 by simpa using hf, if_true]
  | succ f ih =>
    unfold decimalOnto
    dsimp only
    split
    · rfl
    · next h =>
      obtain ⟨g, rfl⟩ : ∃ k, g = k + 1 :=
        ⟨g - 1, by
          rcases g with _ | g
          · exact absurd (by simpa using hg) h
          · omega⟩
      exact ih (by rw [pow_succ] at hf; omega) (by rw [pow_succ] at hg; omega) _

theorem lt_ten_pow_log2 (n : Nat) : n < 10 ^ (n.log2 + 1) :=
  Nat.lt_log2_self.trans_le (Nat.pow_le_pow_left (by decide) _)

/-- A numeral ends with the last digit; before it stands the numeral of the tens, if there are
any. -/
theorem decimal_eq (n : Nat) :
    decimal n = (if n < 10 then [] else decimal (n / 10)) ++ [digit (n % 10)] := by
  unfold decimal
  rw [decimalOnto]
  split
  · rfl
  · next h =>
    have hn : n / 10 < 10 ^ n.log2 := by
      have := lt_ten_pow_log2 n
      rw [pow_succ] at this
      omega
    obtain ⟨f, hf⟩ : ∃ f, n.log2 = f + 1 := by
      refine ⟨n.log2 - 1, ?_⟩
      have : 3 ≤ n.log2 := (Nat.le_log2 (by omega)).mpr (by omega)
      omega
    rw [decimalOnto_append, hf, decimalOnto_fuel (by rw [← hf]; exact hn) (lt_ten_pow_log2 (n / 10))]
    rfl

theorem decimal_ne_nil (n : Nat) : decimal n ≠ [] := by
  rw [decimal_eq]
  simp

theorem isDigit_of_mem_decimal (n : Nat) : ∀ c ∈ decimal n, c.isDigit = true := by
  induction n using Nat.strong_induction_on with
  | _ n ih =>
    intro c hc
    rw [decimal_eq] at hc
    rcases List.mem_append.mp hc with hc | hc
    · split at hc
      · cases hc
      · exact ih (n / 10) (by omega) c hc
    · obtain rfl : c = digit (n % 10) := by simpa using hc
      exact isDigit_digit (Nat.mod_lt _ (by omega))

theorem head_decimal {n : Nat} (h : n ≠ 0) : (decimal n).head? ≠ some (digit 0) := by
  induction n using Nat.strong_induction_on with
  | _ n ih =>
    rw [decimal_eq]
    split
    · next hn =>
      intro he
      have hv := congrArg Fin.val (show digit (n % 10) = digit 0 by simpa using he)
      rw [val_digit (Nat.mod_lt _ (by omega)), val_digit (by omega)] at hv
      omega
    · next hn =>
      rw [List.head?_append_of_ne_nil _ (decimal_ne_nil _)]
      exact ih (n / 10) (by omega) (by omega)

/-! ### The value of digits -/

theorem digitsValue_append (a b : Text) :
    digitsValue (a ++ b) = digitsValue a * 10 ^ b.length + digitsValue b := by
  have fold : ∀ (b : Text) (n : Nat), b.foldl (fun n c => n * 10 + (c.val - 0x30)) n =
      n * 10 ^ b.length + digitsValue b := by
    intro b
    induction b with
    | nil => intro n; simp [digitsValue]
    | cons c b ih =>
      intro n
      have hc : digitsValue (c :: b) = (c.val - 0x30) * 10 ^ b.length + digitsValue b := by
        rw [digitsValue, List.foldl_cons, ih, Nat.zero_mul, Nat.zero_add]
      rw [List.foldl_cons, ih, hc, List.length_cons, pow_succ]
      ring
  rw [digitsValue, List.foldl_append, fold]
  rfl

theorem digitsValue_digit {n : Nat} (h : n < 10) : digitsValue [digit n] = n := by
  simp [digitsValue, val_digit h]

@[simp] theorem digitsValue_decimal (n : Nat) : digitsValue (decimal n) = n := by
  induction n using Nat.strong_induction_on with
  | _ n ih =>
    rw [decimal_eq, digitsValue_append, digitsValue_digit (Nat.mod_lt _ (by omega))]
    split
    · simp [digitsValue]
      omega
    · rw [ih (n / 10) (by omega)]
      simp
      omega

theorem digitsValue_lt {digits : Text} (h : ∀ c ∈ digits, c.isDigit = true) :
    digitsValue digits < 10 ^ digits.length := by
  induction digits with
  | nil => simp [digitsValue]
  | cons c digits ih =>
    have hc := isDigit_iff.mp (h c (List.mem_cons_self ..))
    have hrest := ih fun d hd => h d (List.mem_cons_of_mem _ hd)
    have hfirst : digitsValue [c] ≤ 9 := by
      simp [digitsValue]
      omega
    rw [← List.singleton_append, digitsValue_append, List.singleton_append, List.length_cons, pow_succ]
    calc digitsValue [c] * 10 ^ digits.length + digitsValue digits
      _ < 9 * 10 ^ digits.length + 10 ^ digits.length :=
          Nat.add_lt_add_of_le_of_lt (Nat.mul_le_mul_right _ hfirst) hrest
      _ = 10 ^ digits.length * 10 := by ring

theorem length_decimal_le {n k : Nat} (hk : 0 < k) (h : n < 10 ^ k) : (decimal n).length ≤ k := by
  induction k generalizing n with
  | zero => omega
  | succ k ih =>
    rw [decimal_eq, List.length_append, List.length_singleton]
    split
    · simp
    · next hn =>
      have hk' : 0 < k := by
        rcases k with _ | k
        · exact absurd (by simpa using h) hn
        · omega
      have htens : n / 10 < 10 ^ k := by
        rw [pow_succ] at h
        omega
      exact Nat.succ_le_succ (ih hk' htens)

theorem digitsValue_zeros (n : Nat) : digitsValue (List.replicate n (digit 0)) = 0 := by
  induction n with
  | zero => rfl
  | succ n ih =>
    rw [List.replicate_succ, ← List.singleton_append, digitsValue_append, ih,
      digitsValue_digit (by omega)]
    simp

theorem digitsValue_append_zeros (a : Text) (n : Nat) :
    digitsValue (a ++ List.replicate n (digit 0)) = digitsValue a * 10 ^ n := by
  rw [digitsValue_append, digitsValue_zeros, List.length_replicate, Nat.add_zero]

theorem digitsValue_zeros_append (n : Nat) (a : Text) :
    digitsValue (List.replicate n (digit 0) ++ a) = digitsValue a := by
  rw [digitsValue_append, digitsValue_zeros, Nat.zero_mul, Nat.zero_add]

theorem digitsValue_padded (width n : Nat) : digitsValue (padded width n) = n := by
  have h : padded width n = List.replicate (width - (decimal n).length) (digit 0) ++ decimal n := rfl
  rw [h, digitsValue_zeros_append, digitsValue_decimal]

/-! ### Integers -/

theorem mem_ofInt {i : Int} {c : CodePoint} (h : c ∈ ofInt i) : c = '-' ∨ c.isDigit = true := by
  unfold ofInt at h
  split at h
  · rcases List.mem_cons.mp h with rfl | h
    · exact .inl rfl
    · exact .inr (isDigit_of_mem_decimal _ c h)
  · exact .inr (isDigit_of_mem_decimal _ c h)

theorem decimal_injective {m n : Nat} (h : decimal m = decimal n) : m = n := by
  rw [← digitsValue_decimal m, h, digitsValue_decimal]

theorem ofInt_injective {i j : Int} (h : ofInt i = ofInt j) : i = j := by
  have hsign : ∀ {m n : Nat}, ('-' : CodePoint) :: decimal m ≠ decimal n := by
    intro m n heq
    have hminus := isDigit_of_mem_decimal n '-' (heq ▸ List.mem_cons_self)
    revert hminus
    decide
  unfold ofInt at h
  split at h <;> split at h
  · have := decimal_injective (List.cons.inj h).2
    omega
  · exact absurd h hsign
  · exact absurd h.symm hsign
  · have := decimal_injective h
    omega

/-! ### Zeros -/

theorem isDigit_of_mem_zeros {n : Nat} : ∀ c ∈ List.replicate n (digit 0), c.isDigit = true := by
  intro c hc
  rw [(List.mem_replicate.mp hc).2]
  rfl

theorem isDigit_of_mem_padded (width n : Nat) : ∀ c ∈ padded width n, c.isDigit = true := by
  intro c hc
  rcases List.mem_append.mp hc with hc | hc
  · exact isDigit_of_mem_zeros c hc
  · exact isDigit_of_mem_decimal n c hc

end Text

end Entitlement
