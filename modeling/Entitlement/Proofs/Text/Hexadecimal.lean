import Entitlement.Proofs.Text.Cutting
import Entitlement.Proofs.Text.Decimal
import Entitlement.Text.Numeral
import Mathlib.Data.List.Forall2
import Mathlib.Data.List.Induction

/-! # Numbers in base sixteen

`Text.hexValue` is the number that hexadecimal digits stand for, whatever their case; the digits of
`Text.hex` stand for their number (`hexValue_hex`). The reader of integers takes digits in groups
with an underscore between one group and the next, and their value is the one without the
underscores (`digitsIn?_eq_some_iff`). It brings a text to ASCII code point by code point
(`mapM_toAscii?`), which leaves an ASCII text as it is. -/

namespace Entitlement

namespace CodePoint

/-- Whether the code point is an ASCII hexadecimal digit of either case. -/
def isHex (c : CodePoint) : Bool := c.hexValue?.isSome

theorem hexValue?_hexDigit : ∀ k < 16, (hexDigit k).hexValue? = some k := by decide

theorem isHex_iff {c : CodePoint} : c.isHex = true ↔
    (0x30 ≤ c.val ∧ c.val ≤ 0x39) ∨ (0x61 ≤ c.val ∧ c.val ≤ 0x66) ∨
      (0x41 ≤ c.val ∧ c.val ≤ 0x46) := by
  unfold isHex hexValue?
  split_ifs <;> simp_all

theorem hexValue?_lt {c : CodePoint} {k : Nat} (h : c.hexValue? = some k) : k < 16 := by
  unfold hexValue? at h
  split_ifs at h <;> cases h <;> omega

theorem digitIn?_sixteen (c : CodePoint) : Text.digitIn? 16 c = c.hexValue? := by
  unfold Text.digitIn?
  cases h : c.hexValue? with
  | none => rfl
  | some k => exact if_pos (decide_eq_true (hexValue?_lt h))

theorem hexValue?_lowerAscii (c : CodePoint) : c.lowerAscii.hexValue? = c.hexValue? := by
  unfold lowerAscii
  split
  · next h =>
    have hval : (ofNat (c.val + 0x20)).val = c.val + 0x20 := val_ofNat (by omega)
    unfold hexValue?
    rw [hval]
    split_ifs <;> first | omega | exact congrArg some (by omega) | rfl
  · rfl

theorem isHex_lowerAscii (c : CodePoint) : c.lowerAscii.isHex = c.isHex := by
  rw [isHex, hexValue?_lowerAscii, isHex]

end CodePoint

namespace Text

/-! ### The value of digits -/

/-- The number after more digits, where other code points count as zero. -/
def hexOnto (n : Nat) (digits : Text) : Nat :=
  digits.foldl (fun n c => n * 16 + c.hexValue?.getD 0) n

/-- The number that hexadecimal digits stand for. -/
def hexValue (digits : Text) : Nat := hexOnto 0 digits

theorem hexValue_concat (digits : Text) (c : CodePoint) :
    hexValue (digits ++ [c]) = hexValue digits * 16 + c.hexValue?.getD 0 := by
  unfold hexValue hexOnto
  rw [List.foldl_append]
  rfl

theorem hexValue_lt (digits : Text) : hexValue digits < 16 ^ digits.length := by
  induction digits using List.reverseRecOn with
  | nil => exact Nat.one_pos
  | append_singleton digits c ih =>
    have hc : c.hexValue?.getD 0 < 16 := by
      cases hv : c.hexValue? with
      | none => decide
      | some k => exact CodePoint.hexValue?_lt hv
    rw [hexValue_concat, List.length_append, List.length_singleton, pow_succ]
    omega

theorem hexValue_lowerAscii (digits : Text) : hexValue digits.lowerAscii = hexValue digits := by
  unfold hexValue hexOnto lowerAscii
  rw [List.foldl_map]
  simp only [CodePoint.hexValue?_lowerAscii]

theorem length_hex (width n : Nat) : (hex width n).length = width := by
  induction width generalizing n with
  | zero => rfl
  | succ width ih => rw [hex, List.length_append, ih, List.length_singleton]

theorem exists_of_mem_hex {width n : Nat} {c : CodePoint} (h : c ∈ hex width n) :
    ∃ k < 16, c = CodePoint.hexDigit k := by
  induction width generalizing n with
  | zero => cases h
  | succ width ih =>
    rcases List.mem_append.mp h with h | h
    · exact ih h
    · exact ⟨n % 16, Nat.mod_lt _ (by decide), List.mem_singleton.mp h⟩

theorem isHex_of_mem_hex {width n : Nat} {c : CodePoint} (h : c ∈ hex width n) :
    c.isHex = true := by
  obtain ⟨k, hk, rfl⟩ := exists_of_mem_hex h
  rw [CodePoint.isHex, CodePoint.hexValue?_hexDigit k hk]
  rfl

theorem hexValue_hex {width n : Nat} (h : n < 16 ^ width) : hexValue (hex width n) = n := by
  induction width generalizing n with
  | zero => exact (Nat.lt_one_iff.mp h).symm
  | succ width ih =>
    have hdigit := CodePoint.hexValue?_hexDigit (n % 16) (Nat.mod_lt _ (by decide))
    rw [pow_succ] at h
    rw [hex, hexValue_concat, ih (by omega), hdigit, Option.getD_some]
    omega

/-! ### Digits in groups -/

/-- One digit or more. -/
structure AreDigits (t : Text) : Prop where
  nonempty : t ≠ []
  digits : ∀ c ∈ t, c.isHex = true

/-- The pieces between underscores are digits; whether the first may be empty is told. -/
def Pieces (first : Bool) : List Text → Prop
  | [] => False
  | piece :: pieces => (first = true → piece ≠ []) ∧ (∀ c ∈ piece, c.isHex = true) ∧
      ∀ p ∈ pieces, AreDigits p

theorem pieces_iff {pieces : List Text} (h : pieces ≠ []) :
    Pieces true pieces ↔ ∀ piece ∈ pieces, AreDigits piece := by
  cases pieces with
  | nil => exact absurd rfl h
  | cons piece pieces =>
    rw [List.forall_mem_cons]
    exact ⟨fun ⟨hne, hhex, hrest⟩ => ⟨⟨hne rfl, hhex⟩, hrest⟩,
      fun ⟨⟨hne, hhex⟩, hrest⟩ => ⟨fun _ => hne, hhex, hrest⟩⟩

theorem pieces_cons {first : Bool} {c : CodePoint} (hc : c ≠ '_') (rest : Text) :
    Pieces first (splitOn '_' (c :: rest)) ↔
      c.isHex = true ∧ Pieces false (splitOn '_' rest) := by
  rcases hpieces : splitOn '_' rest with _ | ⟨piece, pieces⟩
  · exact absurd hpieces (splitOn_ne_nil '_' rest)
  · rw [splitOn_cons_of_ne hc hpieces]
    simp only [Pieces, List.forall_mem_cons]
    constructor
    · rintro ⟨-, ⟨hhex, hpiece⟩, hrest⟩
      exact ⟨hhex, nofun, hpiece, hrest⟩
    · rintro ⟨hhex, -, hpiece, hrest⟩
      exact ⟨fun _ => List.cons_ne_nil _ _, ⟨hhex, hpiece⟩, hrest⟩

theorem pieces_underscore {first : Bool} (rest : Text) :
    Pieces first (splitOn '_' (('_' : CodePoint) :: rest)) ↔
      first = false ∧ Pieces true (splitOn '_' rest) := by
  rw [splitOn, if_pos rfl, pieces_iff (splitOn_ne_nil '_' rest)]
  cases first <;> simp [Pieces]

/-- The number that is read on from a digit, if it is one. -/
theorem readDigit_iff {c : CodePoint} {n m : Nat} {next : Nat → Option Nat} {good : Prop}
    {rest : Text} (hnext : ∀ k, next k = some m ↔ good ∧ hexOnto (n * 16 + k) rest = m) :
    (digitIn? 16 c).bind next = some m ↔
      (c.isHex = true ∧ good) ∧ hexOnto n (c :: rest) = m := by
  have honto : hexOnto n (c :: rest) = hexOnto (n * 16 + c.hexValue?.getD 0) rest := rfl
  rw [CodePoint.digitIn?_sixteen, CodePoint.isHex, honto]
  cases c.hexValue? with
  | none => simp
  | some k => simp [hnext]

theorem digitsIn?_iff (first : Bool) (n : Nat) (t : Text) (m : Nat) :
    digitsIn? 16 first n t = some m ↔
      Pieces first (splitOn '_' t) ∧ hexOnto n (t.filter (· ≠ ('_' : CodePoint))) = m := by
  have hkept : ∀ {c : CodePoint} {rest : Text}, c ≠ '_' →
      (c :: rest).filter (· ≠ ('_' : CodePoint)) = c :: rest.filter (· ≠ ('_' : CodePoint)) :=
    fun hc => List.filter_cons_of_pos (decide_eq_true hc)
  have hdropped : ∀ {rest : Text}, (('_' : CodePoint) :: rest).filter (· ≠ ('_' : CodePoint)) =
      rest.filter (· ≠ ('_' : CodePoint)) :=
    List.filter_cons_of_neg (by decide)
  -- the cases are those of the reader: the end, an underscore and what comes behind it, a digit
  fun_induction digitsIn? 16 first n t with
  | case1 n => simp [splitOn, Pieces]
  | case2 first n hfirst => simp [splitOn, Pieces, hexOnto, hfirst]
  | case3 first n =>
    rw [pieces_underscore]
    simp [splitOn, Pieces]
  | case4 n d rest =>
    rw [pieces_underscore]
    simp
  | case5 first n d rest hfirst ih =>
    rw [pieces_underscore, hdropped]
    by_cases hd : d = '_'
    · subst hd
      have hmark : digitIn? 16 ('_' : CodePoint) = none := rfl
      rw [pieces_underscore, hmark]
      simp
    · rw [pieces_cons hd, hkept hd, readDigit_iff ih]
      simp [hfirst]
  | case6 first n c rest hc ih => rw [pieces_cons hc, hkept hc, readDigit_iff ih]

/-- **Digits are read in groups** with an underscore between one group and the next, and stand for
what they do without the underscores. -/
theorem digitsIn?_eq_some_iff {t : Text} {n : Nat} : digitsIn? 16 true 0 t = some n ↔
    (∀ piece ∈ splitOn '_' t, AreDigits piece) ∧
      hexValue (t.filter (· ≠ ('_' : CodePoint))) = n := by
  rw [digitsIn?_iff, pieces_iff (splitOn_ne_nil '_' t)]
  rfl

theorem isHex_of_mem_groups {t : Text} (h : ∀ piece ∈ splitOn '_' t, AreDigits piece)
    {c : CodePoint} (hc : c ∈ t) : c = '_' ∨ c.isHex = true := by
  by_cases hne : c = '_'
  · exact .inl hne
  · obtain ⟨piece, hpiece, hmem⟩ := exists_mem_splitOn hc hne
    exact .inr ((h piece hpiece).digits c hmem)

/-! ### Texts in ASCII -/

theorem mapM_toAscii?_iff {t s : Text} :
    t.mapM toAscii? = some s ↔ List.Forall₂ (fun c d => toAscii? c = some d) t s := by
  induction t generalizing s with
  | nil => cases s <;> simp
  | cons c t ih =>
    rw [List.mapM_cons, Option.bind_eq_bind, Option.bind_eq_some_iff]
    constructor
    · rintro ⟨d, hd, hrest⟩
      obtain ⟨s', hs', hpure⟩ := Option.bind_eq_some_iff.mp hrest
      obtain rfl : d :: s' = s := Option.some.inj hpure
      exact .cons hd (ih.mp hs')
    · intro h
      cases h with
      | cons hd hrest => exact ⟨_, hd, Option.bind_eq_some_iff.mpr ⟨_, ih.mpr hrest, rfl⟩⟩

theorem mapM_toAscii? {t : Text} (h : ∀ c ∈ t, c.isAscii = true) : t.mapM toAscii? = some t := by
  rw [mapM_toAscii?_iff, List.forall₂_same]
  intro c hc
  exact if_pos (h c hc)

theorem toAscii?_eq_hyphen {c : CodePoint} (h : toAscii? c = some '-') : c = '-' := by
  unfold toAscii? at h
  split at h
  · exact Option.some.inj h
  · split at h
    · cases h
    · obtain ⟨n, hn, hdigit⟩ := Option.map_eq_some_iff.mp h
      obtain ⟨z, hz, rfl⟩ := Option.map_eq_some_iff.mp hn
      have hlt : c.val < z + 10 := by
        have := List.find?_some hz
        simp only [Bool.and_eq_true, decide_eq_true_eq] at this
        exact this.2
      have hval := congrArg Fin.val hdigit
      rw [CodePoint.val_ofNat (by omega)] at hval
      have hhyphen : (('-' : Char) : CodePoint).val = 0x2D := rfl
      omega

theorem hyphen_notMem_of_mapM {t s : Text} (h : t.mapM toAscii? = some s)
    (ht : ('-' : CodePoint) ∉ t) : ('-' : CodePoint) ∉ s := by
  have hforall := mapM_toAscii?_iff.mp h
  clear h
  induction hforall with
  | nil => exact List.not_mem_nil
  | cons hd _ ih =>
    intro hs
    rcases List.mem_cons.mp hs with rfl | hs
    · exact ht (toAscii?_eq_hyphen hd ▸ List.mem_cons_self)
    · exact ih (fun hc => ht (List.mem_cons_of_mem _ hc)) hs

end Text

end Entitlement
