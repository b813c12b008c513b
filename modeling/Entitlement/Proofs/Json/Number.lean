import Entitlement.Proofs.Json.Numeral
import Entitlement.Proofs.Numeric.Shortest

/-! # Numbers written and read

A number text that is written has four parts: a sign, digits before the point, digits after it, and
an exponent with a sign (`Literal`). With well-formed parts it is a number text of the grammar
(`Literal.spelled`). Both layouts of a finite number have such parts, and as a fraction the parts
are the shortest decimal (`NumberLayout.write_literal`). -/

namespace Entitlement

open CodePoint

namespace Json.Reader

open Grammar

/-! ### Number texts -/

/-- The parts of a number text; an exponent is a sign and digits. -/
structure Literal where
  negative : Bool
  whole : Text
  fraction : Text
  exponent : Option (Bool × Text)

namespace Literal

/-- The parts consist of digits, with at least one where one is needed. -/
structure WellFormed (l : Literal) : Prop where
  whole : IsWhole l.whole
  fraction : ∀ c ∈ l.fraction, c.isDigit = true
  exponent : ∀ e ∈ l.exponent, e.2 ≠ [] ∧ ∀ c ∈ e.2, c.isDigit = true

def exponentText : Option (Bool × Text) → Text
  | none => []
  | some (negative, digits) => ('e' : CodePoint) :: (if negative then '-' else '+') :: digits

/-- The text of the parts. -/
def text (l : Literal) : Text :=
  signText l.negative ++ (l.whole ++ (fractionText l.fraction ++ exponentText l.exponent))

/-- The value of an exponent. -/
def exponentValue (e : Bool × Text) : Int :=
  if e.1 then -(Text.digitsValue e.2 : Int) else Text.digitsValue e.2

/-- What the text is read as. -/
def numeral (l : Literal) : Numeral :=
  ⟨l.negative, l.whole, l.fraction, l.exponent.map exponentValue⟩

theorem spelled_exponentText {exponent : Option (Bool × Text)}
    (h : ∀ e ∈ exponent, e.2 ≠ [] ∧ ∀ c ∈ e.2, c.isDigit = true) :
    SpellsExponent (exponentText exponent) (exponent.map exponentValue) := by
  cases exponent with
  | none => exact .none
  | some e =>
    obtain ⟨negative, digits⟩ := e
    obtain ⟨hne, hdigits⟩ := h _ rfl
    cases negative with
    | false => exact .some (.inl rfl) .plus hne hdigits
    | true => exact .some (.inl rfl) .minus hne hdigits

theorem spelled {l : Literal} (h : l.WellFormed) : SpellsNumeral l.text l.numeral :=
  .intro h.whole h.fraction (spelled_exponentText h.exponent)

theorem value_numeral {l : Literal} (h : l.fraction ≠ [] ∨ l.exponent.isSome) :
    l.numeral.value = .ok (.float (.ofDecimal l.negative
      (Text.digitsValue (l.whole ++ l.fraction))
      ((l.exponent.map exponentValue).getD 0 - l.fraction.length))) := by
  have hpoint : l.numeral.fraction ≠ [] ∨ l.numeral.exponent ≠ none := by
    rcases h with hfraction | hexponent
    · exact .inl hfraction
    · obtain ⟨e, he⟩ := Option.isSome_iff_exists.mp hexponent
      exact .inr (by simp [numeral, he])
  exact Numeral.value_decimal hpoint

end Literal

end Json.Reader

/-! ### The layouts -/

open Json.Reader Literal

namespace Json.Reader.Literal

/-- The decimal that the parts are, as a fraction. -/
def value (l : Literal) : ℚ :=
  Binary64.decimalRatio (Text.digitsValue (l.whole ++ l.fraction))
    ((l.exponent.map exponentValue).getD 0 - l.fraction.length)

theorem isWhole_decimal (n : Nat) : IsWhole (Text.decimal n) := by
  refine ⟨Text.decimal_ne_nil n, Text.isDigit_of_mem_decimal n, fun h => ?_⟩
  by_cases hn : n = 0
  · rw [hn]
    rfl
  · exact absurd h (Text.head_decimal hn)

/-- The digits of a number with zeros behind or some of them cut off stand before a point as they
are. -/
theorem isWhole_of_head {n : Nat} (hn : n ≠ 0) {whole : Text} (hne : whole ≠ [])
    (hd : ∀ c ∈ whole, c.isDigit = true) (hh : whole.head? = (Text.decimal n).head?) :
    IsWhole whole :=
  ⟨hne, hd, fun h => absurd (hh ▸ h) (Text.head_decimal hn)⟩

theorem isWhole_digit {c : CodePoint} (h : c.isDigit = true) : IsWhole [c] := by
  refine ⟨by simp, by simpa using h, fun hc => ?_⟩
  simpa using hc

end Json.Reader.Literal

namespace Shortest

theorem decimal_of_digits_eq_zero {exponent : Fin 2047} {fraction : Fin (Nat.pow 2 52)}
    (h : (decimal exponent fraction).digits = 0) : decimal exponent fraction = ⟨0, 0⟩ := by
  have hread := decimal_reads_back false exponent fraction
  rw [h] at hread
  obtain ⟨rfl, rfl⟩ : exponent = 0 ∧ fraction = 0 := by
    have : Binary64.zeroOf false = .finite false exponent fraction := hread
    cases this
    exact ⟨rfl, rfl⟩
  rfl

end Shortest

namespace Json.Reader.Literal

/-- Parts whose digits are those of `n` with `k` zeros behind are a decimal of `n`. -/
theorem value_of_digits {l : Literal} {n k : Nat} {e : Int}
    (hn : Text.digitsValue (l.whole ++ l.fraction) = n * 10 ^ k)
    (he : (l.exponent.map exponentValue).getD 0 - l.fraction.length = e - k) :
    l.value = Decimal.value ⟨n, e⟩ := by
  unfold value Decimal.value Binary64.decimalRatio
  rw [hn, he, zpow_sub₀ (by norm_num), zpow_natCast]
  push_cast
  field_simp

end Json.Reader.Literal

namespace NumberLayout

/-- The text of a literal with a point in it that stands for the decimal. -/
def HasPoint (d : Decimal) (t : Text) : Prop :=
  ∃ l : Literal, l.WellFormed ∧ l.negative = false ∧ l.fraction ≠ [] ∧ l.value = d.value ∧
    t = l.text

theorem hasPoint_before {n : Nat} {e : Int} (hp : e + (Text.decimal n).length ≤ 0) :
    HasPoint ⟨n, e⟩ (positional (Text.decimal n) (e + (Text.decimal n).length)) := by
  have hfraction : ∀ c ∈ List.replicate (-(e + (Text.decimal n).length)).toNat (digit 0) ++
      Text.decimal n, c.isDigit = true := fun c hc =>
    (List.mem_append.mp hc).elim (Text.isDigit_of_mem_zeros c) (Text.isDigit_of_mem_decimal n c)
  have hne : List.replicate (-(e + (Text.decimal n).length)).toNat (digit 0) ++
      Text.decimal n ≠ [] := by simp [Text.decimal_ne_nil]
  unfold positional
  rw [if_pos hp]
  refine ⟨⟨false, [digit 0], _, none⟩, ⟨isWhole_digit rfl, hfraction, nofun⟩, rfl, hne,
    value_of_digits (k := 0) ?_ ?_, ?_⟩
  · rw [show [digit 0] = List.replicate 1 (digit 0) from rfl, Text.digitsValue_zeros_append,
      Text.digitsValue_zeros_append, Text.digitsValue_decimal, pow_zero, Nat.mul_one]
  · simp only [Option.map_none, Option.getD_none, List.length_append, List.length_replicate]
    omega
  · simp only [text, fractionText, if_neg hne, exponentText, List.append_nil, List.append_assoc]
    rfl

theorem hasPoint_behind {n : Nat} {e : Int} (hz : n = 0 → e = 0) (he : 0 ≤ e)
    (hp : ¬ e + (Text.decimal n).length ≤ 0) :
    HasPoint ⟨n, e⟩ (positional (Text.decimal n) (e + (Text.decimal n).length)) := by
  have hlen := List.length_pos_of_ne_nil (Text.decimal_ne_nil n)
  have hwhole : IsWhole (Text.decimal n ++ List.replicate
      ((e + (Text.decimal n).length).toNat - (Text.decimal n).length) (digit 0)) := by
    by_cases hn : n = 0
    · rw [hn, hz hn]
      exact isWhole_digit rfl
    · refine isWhole_of_head hn (by simp [Text.decimal_ne_nil]) (fun c hc => ?_)
        (List.head?_append_of_ne_nil _ (Text.decimal_ne_nil n))
      exact (List.mem_append.mp hc).elim (Text.isDigit_of_mem_decimal n c)
        (Text.isDigit_of_mem_zeros c)
  unfold positional
  rw [if_neg hp]
  dsimp only
  rw [if_pos (by omega)]
  refine ⟨⟨false, _, [digit 0], none⟩, ⟨hwhole, by simp [isDigit_digit], nofun⟩, rfl, by simp,
    value_of_digits (k := (e + (Text.decimal n).length).toNat - (Text.decimal n).length + 1)
      ?_ ?_, ?_⟩
  · dsimp only
    rw [List.append_assoc, show [digit 0] = List.replicate 1 (digit 0) from rfl,
      ← List.replicate_add, Text.digitsValue_append_zeros, Text.digitsValue_decimal]
  · simp only [Option.map_none, Option.getD_none, List.length_singleton]
    omega
  · simp only [text, fractionText, List.cons_ne_nil, if_false, exponentText, List.append_nil]
    rfl

theorem hasPoint_among {n : Nat} {e : Int} (hz : n = 0 → e = 0) (he : e < 0)
    (hp : ¬ e + (Text.decimal n).length ≤ 0) :
    HasPoint ⟨n, e⟩ (positional (Text.decimal n) (e + (Text.decimal n).length)) := by
  have hdigits := Text.isDigit_of_mem_decimal n
  have hcut := List.take_append_drop (e + (Text.decimal n).length).toNat (Text.decimal n)
  have hfraction : (Text.decimal n).drop (e + (Text.decimal n).length).toNat ≠ [] := by
    simp
    omega
  have hwhole : IsWhole ((Text.decimal n).take (e + (Text.decimal n).length).toNat) := by
    have hne : (Text.decimal n).take (e + (Text.decimal n).length).toNat ≠ [] := by
      simp [Text.decimal_ne_nil]
      omega
    have hn : n ≠ 0 := fun hn => by have := hz hn; omega
    refine isWhole_of_head hn hne (fun c hc => hdigits c (List.mem_of_mem_take hc)) ?_
    rw [← List.head?_append_of_ne_nil _ hne, hcut]
  unfold positional
  rw [if_neg hp]
  dsimp only
  rw [if_neg (by omega)]
  refine ⟨⟨false, _, _, none⟩, ⟨hwhole, fun c hc => hdigits c (List.mem_of_mem_drop hc), nofun⟩,
    rfl, hfraction, value_of_digits (k := 0) ?_ ?_, ?_⟩
  · dsimp only
    rw [hcut, Text.digitsValue_decimal, pow_zero, Nat.mul_one]
  · simp only [Option.map_none, Option.getD_none, List.length_drop]
    omega
  · simp only [text, fractionText, if_neg hfraction, exponentText, List.append_nil]
    rfl

/-- With a point between them the digits are those of the decimal, and zeros. -/
theorem positional_literal (d : Decimal) (hz : d.digits = 0 → d.exponent = 0) :
    HasPoint d (positional (Text.decimal d.digits)
      (d.exponent + (Text.decimal d.digits).length)) := by
  by_cases hp : d.exponent + (Text.decimal d.digits).length ≤ 0
  · exact hasPoint_before hp
  · rcases Int.lt_or_le d.exponent 0 with he | he
    · exact hasPoint_among hz he hp
    · exact hasPoint_behind hz he hp

theorem scientific_literal (layout : NumberLayout) (d : Decimal) :
    ∃ l : Literal, l.WellFormed ∧ l.negative = false ∧ l.exponent.isSome ∧ l.value = d.value ∧
      layout.scientific (Text.decimal d.digits) (d.exponent + (Text.decimal d.digits).length) =
        l.text := by
  obtain ⟨n, e⟩ := d
  dsimp only
  have hdigits := Text.isDigit_of_mem_decimal n
  have hvalue := Text.digitsValue_decimal n
  have hne := Text.decimal_ne_nil n
  generalize Text.decimal n = digits at hdigits hvalue hne
  cases digits with
  | nil => exact absurd rfl hne
  | cons c fraction =>
    have hexponent : ∀ i : Int,
        exponentValue (decide (i < 0), Text.padded layout.exponentWidth i.natAbs) = i := by
      intro i
      unfold exponentValue
      simp only [Text.digitsValue_padded, decide_eq_true_eq]
      omega
    refine ⟨⟨false, [c], fraction, some (decide (e + (c :: fraction).length - 1 < 0),
      Text.padded layout.exponentWidth (e + (c :: fraction).length - 1).natAbs)⟩,
      ⟨isWhole_digit (hdigits c (by simp)), fun c hc => hdigits c (by simp [hc]), ?_⟩, rfl, rfl,
      value_of_digits (k := 0) ?_ ?_, ?_⟩
    · intro e' he'
      obtain rfl := Option.some.inj he'
      refine ⟨?_, Text.isDigit_of_mem_padded _ _⟩
      simp [Text.padded, Text.decimal_ne_nil]
    · simpa using hvalue
    · simp only [Option.map_some, Option.getD_some, hexponent, List.length_cons]
      omega
    · unfold scientific
      generalize e + ((c :: fraction).length : Int) - 1 = i
      have hsign : (if i < 0 then ("-" : Text) else "+") =
          [if decide (i < 0) = true then ('-' : CodePoint) else '+'] := by
        by_cases h : i < 0 <;> simp only [h, decide_true, decide_false, if_true, if_false] <;> rfl
      dsimp only
      rw [hsign]
      cases fraction <;> simp [text, fractionText, exponentText, signText]

/-- **The parts of the text of a finite number are its shortest decimal.** -/
theorem write_literal (layout : NumberLayout) (negative : Bool) (exponent : Fin 2047)
    (fraction : Fin (Nat.pow 2 52)) :
    ∃ l : Literal, l.WellFormed ∧ l.negative = negative ∧
      (l.fraction ≠ [] ∨ l.exponent.isSome) ∧
      l.value = (Shortest.decimal exponent fraction).value ∧
      layout.write negative exponent fraction = l.text := by
  have hsigned : ∀ (l : Literal) (magnitude : Text), l.negative = false → magnitude = l.text →
      (if negative then ('-' : CodePoint) :: magnitude else magnitude) =
        ({ l with negative } : Literal).text := by
    rintro l _ hl rfl
    unfold text signText
    rw [hl]
    cases negative <;> rfl
  have hz : (Shortest.decimal exponent fraction).digits = 0 →
      (Shortest.decimal exponent fraction).exponent = 0 := fun h => by
    rw [Shortest.decimal_of_digits_eq_zero h]
  unfold write
  dsimp only
  by_cases h : layout.lowest < (Shortest.decimal exponent fraction).exponent +
        (Text.decimal (Shortest.decimal exponent fraction).digits).length ∧
      (Shortest.decimal exponent fraction).exponent +
        (Text.decimal (Shortest.decimal exponent fraction).digits).length ≤ layout.highest
  · rw [if_pos h]
    obtain ⟨l, hl, hneg, hf, hv, ht⟩ := positional_literal (Shortest.decimal exponent fraction) hz
    exact ⟨{ l with negative }, ⟨hl.whole, hl.fraction, hl.exponent⟩, rfl, .inl hf, hv,
      hsigned l _ hneg ht⟩
  · rw [if_neg h]
    obtain ⟨l, hl, hneg, he, hv, ht⟩ :=
      layout.scientific_literal (Shortest.decimal exponent fraction)
    exact ⟨{ l with negative }, ⟨hl.whole, hl.fraction, hl.exponent⟩, rfl, .inr he, hv,
      hsigned l _ hneg ht⟩

end NumberLayout

end Entitlement
