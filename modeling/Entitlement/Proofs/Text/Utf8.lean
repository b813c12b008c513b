import Entitlement.Proofs.Text.Decimal
import Entitlement.Text.Encoding
import Mathlib.Tactic.SplitIfs

/-! # UTF-8 written and read

The bytes of a code point are read as that code point, surrogates included, whatever follows them
(`Utf8.step_encodePoint`): one case for each number of bytes. So the bytes of a text are read as the
text (`Utf8.decode_encode`), and if it starts with two ASCII characters, also where the encoding has
to be found out (`Bytes.detectAndDecode_encode`). -/

namespace Entitlement

namespace Utf8

open CodePoint

theorem toNat_ofNat {n : Nat} (h : n < 0x100) : (UInt8.ofNat n).toNat = n := by
  rw [UInt8.toNat_ofNat']
  exact Nat.mod_eq_of_lt h

/-- A byte that carries six bits. -/
def follow (k : Nat) : UInt8 := .ofNat (0x80 + k % 0x40)

theorem toNat_follow (k : Nat) : (follow k).toNat = 0x80 + k % 0x40 := toNat_ofNat (by omega)

theorem isContinuation_follow (k : Nat) : isContinuation (follow k) = true := by
  rw [isContinuation, toNat_follow, Bool.and_eq_true, decide_eq_true_iff, decide_eq_true_iff]
  omega

theorem payload_follow (k : Nat) : payload (follow k) = k % 0x40 := by
  rw [payload, toNat_follow]
  omega

theorem eq_iff_toNat {a b : UInt8} : a = b ↔ a.toNat = b.toNat := UInt8.toNat_inj.symm

variable {n : Nat} (rest : Bytes)

theorem step2_bytes (h : n < 0x800) :
    step2 (.ofNat (0xC0 + n / 0x40)) (follow n :: rest) = .point (.ofNat n) rest := by
  have ha : (UInt8.ofNat (0xC0 + n / 0x40)).toNat = 0xC0 + n / 0x40 := toNat_ofNat (by omega)
  have hvalue : (0xC0 + n / 0x40) % 0x20 * 0x40 + n % 0x40 = n := by omega
  unfold step2
  dsimp only
  rw [if_pos (isContinuation_follow n), ha, payload_follow, hvalue]

theorem step3_bytes (hlow : 0x800 ≤ n) (hhigh : n < 0x10000) :
    step3 true (.ofNat (0xE0 + n / 0x1000)) (follow (n / 0x40) :: follow n :: rest) =
      .point (.ofNat n) rest := by
  have ha : (UInt8.ofNat (0xE0 + n / 0x1000)).toNat = 0xE0 + n / 0x1000 := toNat_ofNat (by omega)
  have hvalue : (0xE0 + n / 0x1000) % 0x10 * 0x1000 + n / 0x40 % 0x40 * 0x40 + n % 0x40 = n := by
    omega
  have hlong : ¬ (UInt8.ofNat (0xE0 + n / 0x1000) = 0xE0 ∧ (follow (n / 0x40)).toNat < 0xA0) := by
    rintro ⟨hfirst, hsecond⟩
    rw [eq_iff_toNat, ha] at hfirst
    rw [toNat_follow] at hsecond
    have : (0xE0 : UInt8).toNat = 0xE0 := rfl
    omega
  unfold step3
  dsimp only
  rw [if_neg (by
    simp only [isContinuation_follow, Bool.not_true, Bool.false_or, Bool.and_eq_true,
      decide_eq_true_iff]
    exact hlong)]
  split
  · rw [if_pos (by simp [isContinuation_follow]), ha, payload_follow, payload_follow, hvalue]
  · rw [if_pos (isContinuation_follow n), ha, payload_follow, payload_follow, hvalue]

theorem step4_bytes (hlow : 0x10000 ≤ n) (hhigh : n < 0x110000) :
    step4 (.ofNat (0xF0 + n / 0x40000))
      (follow (n / 0x1000) :: follow (n / 0x40) :: follow n :: rest) = .point (.ofNat n) rest := by
  have ha : (UInt8.ofNat (0xF0 + n / 0x40000)).toNat = 0xF0 + n / 0x40000 :=
    toNat_ofNat (by omega)
  have hvalue : (0xF0 + n / 0x40000) % 8 * 0x40000 + n / 0x1000 % 0x40 * 0x1000 +
      n / 0x40 % 0x40 * 0x40 + n % 0x40 = n := by
    omega
  have hlong : ¬ (UInt8.ofNat (0xF0 + n / 0x40000) = 0xF0 ∧
      (follow (n / 0x1000)).toNat < 0x90) := by
    rintro ⟨hfirst, hsecond⟩
    rw [eq_iff_toNat, ha] at hfirst
    rw [toNat_follow] at hsecond
    have : (0xF0 : UInt8).toNat = 0xF0 := rfl
    omega
  have hbound : ¬ (UInt8.ofNat (0xF0 + n / 0x40000) = 0xF4 ∧
      0x90 ≤ (follow (n / 0x1000)).toNat) := by
    rintro ⟨hfirst, hsecond⟩
    rw [eq_iff_toNat, ha] at hfirst
    rw [toNat_follow] at hsecond
    have : (0xF4 : UInt8).toNat = 0xF4 := rfl
    omega
  unfold step4
  dsimp only
  rw [if_neg (by
    simp only [isContinuation_follow, Bool.not_true, Bool.false_or, Bool.or_eq_true,
      Bool.and_eq_true, decide_eq_true_iff, not_or]
    exact ⟨hlong, hbound⟩), if_neg (by simp [isContinuation_follow]),
    if_pos (isContinuation_follow n), ha, payload_follow, payload_follow, payload_follow, hvalue]

/-- **The bytes of a code point are read as that code point**, and nothing behind them. -/
theorem step_encodePoint (c : CodePoint) : step true (encodePoint c ++ rest) = .point c rest := by
  have hlt : c.val < 0x110000 := c.isLt
  have hpoint : CodePoint.ofNat c.val = c := ofNat_val c
  unfold encodePoint
  dsimp only
  split
  · next h =>
    have ha : (UInt8.ofNat c.val).toNat = c.val := toNat_ofNat (by omega)
    rw [List.cons_append, step, ha, if_pos h, hpoint, List.nil_append]
  split
  · next h0 h =>
    have ha : (UInt8.ofNat (0xC0 + c.val / 0x40)).toNat = 0xC0 + c.val / 0x40 :=
      toNat_ofNat (by omega)
    rw [List.cons_append, step, ha, if_neg (by omega), if_neg (by omega), if_pos (by omega)]
    exact (step2_bytes rest h).trans (by rw [hpoint])
  split
  · next h0 h1 h =>
    have ha : (UInt8.ofNat (0xE0 + c.val / 0x1000)).toNat = 0xE0 + c.val / 0x1000 :=
      toNat_ofNat (by omega)
    rw [List.cons_append, step, ha, if_neg (by omega), if_neg (by omega), if_neg (by omega),
      if_pos (by omega)]
    exact (step3_bytes rest (by omega) h).trans (by rw [hpoint])
  · next h0 h1 h2 =>
    have ha : (UInt8.ofNat (0xF0 + c.val / 0x40000)).toNat = 0xF0 + c.val / 0x40000 :=
      toNat_ofNat (by omega)
    rw [List.cons_append, step, ha, if_neg (by omega), if_neg (by omega), if_neg (by omega),
      if_neg (by omega), if_pos (by omega)]
    exact (step4_bytes rest (by omega) hlt).trans (by rw [hpoint])

theorem length_encodePoint_pos (c : CodePoint) : 0 < (encodePoint c).length := by
  unfold encodePoint
  dsimp only
  split_ifs <;> simp

theorem decodeFrom_encode (total : Nat) (t read : Text) {fuel : Nat}
    (h : (encode t).length ≤ fuel) :
    decodeFrom true total fuel (encode t) read = .ok (read.reverse ++ t) := by
  -- On the text: each code point takes one round, and has a byte at least.
  induction t generalizing fuel read with
  | nil =>
    rw [List.append_nil]
    cases fuel <;> rfl
  | cons c t ih =>
    have hencode : encode (c :: t) = encodePoint c ++ encode t := rfl
    have hpos := length_encodePoint_pos c
    rw [hencode, List.length_append] at h
    obtain ⟨fuel, rfl⟩ : ∃ k, fuel = k + 1 := ⟨fuel - 1, by omega⟩
    rw [hencode, decodeFrom, step_encodePoint]
    dsimp only
    rw [ih (c :: read) (by omega), List.reverse_cons, List.append_assoc]
    rfl

theorem decode_encode (t : Text) : decode (encode t) = .ok t :=
  decodeFrom_encode _ t [] (Nat.le_refl _)

/-! ### Bytes without a mark -/

theorem encode_cons_ascii {c : CodePoint} (h : c.val < 0x80) (t : Text) :
    encode (c :: t) = .ofNat c.val :: encode t := by
  show encodePoint c ++ encode t = _
  unfold encodePoint
  dsimp only
  rw [if_pos h]
  rfl

end Utf8

namespace Encoding

theorem detect_ascii {a b : UInt8} (ha : 0 < a.toNat ∧ a.toNat < 0x80)
    (hb : 0 < b.toNat ∧ b.toNat < 0x80) (rest : Bytes) :
    detect (a :: b :: rest) = .utf8 false := by
  have ha0 : a ≠ 0 := by
    rintro rfl
    exact absurd ha.1 (by decide)
  have hb0 : b ≠ 0 := by
    rintro rfl
    exact absurd hb.1 (by decide)
  -- No mark starts with an ASCII character but zero.
  have hmark : ∀ mark ∈ [(0x00 : UInt8), 0xFF, 0xFE, 0xEF], (mark == a) = false := by
    intro mark hmem
    have hstart : mark.toNat = 0 ∨ 0x80 ≤ mark.toNat := by
      simp only [List.mem_cons, List.not_mem_nil, or_false] at hmem
      rcases hmem with rfl | rfl | rfl | rfl <;> decide
    rw [beq_eq_false_iff_ne]
    rintro rfl
    omega
  have hzero := hmark 0x00 (by simp)
  have hff := hmark 0xFF (by simp)
  have hfe := hmark 0xFE (by simp)
  have hef := hmark 0xEF (by simp)
  have hzeros : ofZeros (a :: b :: rest) = .utf8 false := by
    rcases rest with _ | ⟨c, _ | ⟨d, rest⟩⟩
    · rw [ofZeros, if_neg ha0, if_neg hb0]
    · rfl
    · rw [ofZeros, if_neg ha0, if_neg hb0]
  simp only [detect, List.isPrefixOf, hzero, hff, hfe, hef, Bool.false_and, Bool.false_eq_true,
    if_false, hzeros]

end Encoding

/-- **The bytes of a text are read as the text** in the encoding that they show. -/
theorem Bytes.detectAndDecode_encode {c d : CodePoint} (hc : 0 < c.val ∧ c.val < 0x80)
    (hd : 0 < d.val ∧ d.val < 0x80) (t : Text) :
    detectAndDecode (Utf8.encode (c :: d :: t)) = .ok (c :: d :: t) := by
  have hdetect : Encoding.detect (Utf8.encode (c :: d :: t)) = .utf8 false := by
    rw [Utf8.encode_cons_ascii hc.2, Utf8.encode_cons_ascii hd.2]
    refine Encoding.detect_ascii ?_ ?_ _
    · rw [Utf8.toNat_ofNat (by omega)]
      exact hc
    · rw [Utf8.toNat_ofNat (by omega)]
      exact hd
  unfold detectAndDecode
  rw [hdetect]
  exact Utf8.decode_encode _

end Entitlement
