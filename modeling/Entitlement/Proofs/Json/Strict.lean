import Entitlement.Proofs.Json.Roundtrip

/-! # Strict values

A value is *strict* if its numbers are finite and its strings and names hold no surrogates
(`Json.isStrict`). These are the values that a response can carry: the text of a value is plain but
for its strings and names, so it has a form in strict UTF-8 just where they have one
(`Json.isStrict_iff`). -/

namespace Entitlement

/-! ### Texts in strict UTF-8 -/

namespace Text

@[simp] theorem isScalar_nil : isScalar [] = true := rfl

@[simp] theorem isScalar_cons (c : CodePoint) (t : Text) :
    isScalar (c :: t) = (!c.isSurrogate && isScalar t) := List.all_cons ..

@[simp] theorem isScalar_append (s t : Text) : isScalar (s ++ t) = (isScalar s && isScalar t) :=
  List.all_append ..

theorem isSurrogate_of_isAscii {c : CodePoint} (h : c.isAscii = true) : c.isSurrogate = false := by
  have hc : c.val < 0x80 := of_decide_eq_true h
  simp [CodePoint.isSurrogate]
  omega

theorem isScalar_ofString (s : String) : (ofString s).isScalar = true := by
  refine List.all_eq_true.mpr fun c hc => ?_
  obtain ⟨char, -, rfl⟩ := List.mem_map.mp hc
  have hvalid := char.valid
  simp only [UInt32.isValidChar, Nat.isValidChar] at hvalid
  have hval : (CodePoint.ofChar char).val = char.val.toNat := rfl
  simp only [CodePoint.isSurrogate, hval, Bool.not_eq_true', Bool.and_eq_false_iff,
    decide_eq_false_iff_not]
  omega

theorem isScalar_of_isAscii {t : Text} (h : ∀ c ∈ t, c.isAscii = true) : t.isScalar = true :=
  List.all_eq_true.mpr fun c hc => by rw [isSurrogate_of_isAscii (h c hc)]; rfl

end Text

open Text

/-! ### Numbers and strings -/

theorem CodePoint.isAscii_of_isDigit {c : CodePoint} (h : c.isDigit = true) : c.isAscii = true := by
  have := CodePoint.isDigit_iff.mp h
  simp [CodePoint.isAscii]
  omega

theorem Json.Reader.Literal.isAscii_text {l : Json.Reader.Literal} (h : l.WellFormed) :
    ∀ c ∈ l.text, c.isAscii = true := by
  obtain ⟨negative, whole, fraction, exponent⟩ := l
  obtain ⟨⟨-, hwhole, -⟩, hfraction, hexponent⟩ := h
  have hdigits : ∀ {digits : Text}, (∀ c ∈ digits, c.isDigit = true) →
      ∀ c ∈ digits, c.isAscii = true := fun hd c hc => CodePoint.isAscii_of_isDigit (hd c hc)
  intro c hc
  simp only [text, List.mem_append] at hc
  rcases hc with hsign | hc | hpoint | hexp
  · unfold signText at hsign
    split at hsign
    · rw [List.mem_singleton.mp hsign]
      rfl
    · cases hsign
  · exact hdigits hwhole c hc
  · unfold fractionText at hpoint
    split at hpoint
    · cases hpoint
    · rcases List.mem_cons.mp hpoint with rfl | hc
      · rfl
      · exact hdigits hfraction c hc
  · cases exponent with
    | none => cases hexp
    | some e =>
      obtain ⟨sign, digits⟩ := e
      rcases List.mem_cons.mp hexp with rfl | hexp
      · rfl
      rcases List.mem_cons.mp hexp with rfl | hc
      · cases sign <;> rfl
      · exact hdigits (hexponent _ rfl).2 c hc

namespace Json

open Json.Reader

theorem isScalar_ofInt (i : Int) : (Text.ofInt i).isScalar = true := by
  rw [← intLiteral_text]
  exact isScalar_of_isAscii (Literal.isAscii_text (intLiteral_wellFormed i))

theorem isScalar_number (style : Style) (x : Binary64) : (style.number x).isScalar = true := by
  cases x with
  | finite negative exponent fraction =>
    obtain ⟨l, hl, -, -, -, ht⟩ := style.numbers.write_literal negative exponent fraction
    rw [show style.number (.finite negative exponent fraction) = l.text from ht]
    exact isScalar_of_isAscii (Literal.isAscii_text hl)
  | infinite negative =>
    unfold Style.number
    cases style.extremes <;> cases negative <;> rfl
  | nan =>
    unfold Style.number
    cases style.extremes <;> rfl

/-- A code point is written with a surrogate only if it is one. -/
theorem isScalar_point (c : CodePoint) : (Style.response.point c).isScalar = !c.isSurrogate := by
  by_cases h : c.val < 0x80
  · have hall : ∀ n < 0x80, (Style.response.point (.ofNat n)).isScalar = true := by decide +kernel
    have hc := hall c.val h
    rw [CodePoint.ofNat_val] at hc
    rw [hc, isSurrogate_of_isAscii (decide_eq_true h)]
    rfl
  · rcases point_cases .response c with ⟨e, -, -, -, hlt⟩ | ⟨hpoint, -⟩ | ⟨-, -, hlt⟩ | ⟨hascii, -⟩
    · omega
    · rw [hpoint, isScalar_cons, isScalar_nil, Bool.and_true]
    · have := hlt rfl
      omega
    · cases hascii

theorem isScalar_string (s : Text) : (Style.response.string s).isScalar = s.isScalar := by
  have hpoints : Text.isScalar (s.flatMap Style.response.point) = s.isScalar := by
    induction s with
    | nil => rfl
    | cons c s ih => rw [List.flatMap_cons, isScalar_append, isScalar_point, ih, isScalar_cons]
  have hquote : CodePoint.isSurrogate '"' = false := rfl
  rw [Style.string, isScalar_cons, isScalar_append, hpoints, isScalar_cons, isScalar_nil, hquote]
  simp

/-! ### Values -/

mutual

/-- Whether all numbers in the value are finite, and all strings and names free of surrogates. -/
def isStrict : Json → Bool
  | .float x => x.isFinite
  | .string s => s.isScalar
  | .array items => itemsStrict items
  | .object members => membersStrict members
  | _ => true

def itemsStrict : List Json → Bool
  | [] => true
  | x :: rest => isStrict x && itemsStrict rest

def membersStrict : List (Text × Json) → Bool
  | [] => true
  | (name, x) :: rest => name.isScalar && isStrict x && membersStrict rest

end

theorem itemsStrict_iff {items : List Json} :
    itemsStrict items = true ↔ ∀ x ∈ items, x.isStrict = true := by
  induction items with
  | nil => simp [itemsStrict]
  | cons x items ih => simp [itemsStrict, ih]

theorem membersStrict_iff {members : Members} :
    membersStrict members = true ↔ ∀ m ∈ members, m.1.isScalar = true ∧ m.2.isStrict = true := by
  induction members with
  | nil => simp [membersStrict]
  | cons m members ih => simp [membersStrict, ih, and_assoc]

mutual

/-- **The strict values** are those with finite numbers whose text has a form in strict UTF-8. -/
theorem isStrict_iff (v : Json) :
    v.isStrict = true ↔ v.isFinite = true ∧ (v.write .response).isScalar = true := by
  cases v with
  | null => exact ⟨fun _ => ⟨rfl, rfl⟩, fun _ => rfl⟩
  | bool b => cases b <;> exact ⟨fun _ => ⟨rfl, rfl⟩, fun _ => rfl⟩
  | int i => simp [isStrict, isFinite, write, isScalar_ofInt]
  | float x => simp [isStrict, isFinite, write, isScalar_number]
  | string s => simp [isStrict, isFinite, write, isScalar_string]
  | array items =>
    have hbracket : CodePoint.isSurrogate '[' = false := rfl
    rw [isStrict, isFinite, write, isScalar_cons, hbracket, itemsStrict_iff_write items [] rfl]
    rfl
  | object members =>
    have hbrace : CodePoint.isSurrogate '\x7b' = false := rfl
    rw [isStrict, isFinite, write, isScalar_cons, hbrace, membersStrict_iff_write members [] rfl]
    rfl

theorem itemsStrict_iff_write (items : List Json) (separator : Text)
    (h : separator.isScalar = true) : itemsStrict items = true ↔ itemsFinite items = true ∧
      (writeItems .response separator items).isScalar = true := by
  match items with
  | [] => exact ⟨fun _ => ⟨rfl, rfl⟩, fun _ => rfl⟩
  | x :: rest =>
    rw [itemsStrict, itemsFinite, writeItems, isScalar_append, isScalar_append, h, Bool.true_and]
    simp only [Bool.and_eq_true]
    rw [isStrict_iff x, itemsStrict_iff_write rest Style.response.itemSeparator rfl]
    tauto

theorem membersStrict_iff_write (members : Members) (separator : Text)
    (h : separator.isScalar = true) : membersStrict members = true ↔ membersFinite members = true ∧
      (writeMembers .response separator members).isScalar = true := by
  match members with
  | [] => exact ⟨fun _ => ⟨rfl, rfl⟩, fun _ => rfl⟩
  | (name, x) :: rest =>
    have hcolon : Style.response.nameSeparator.isScalar = true := rfl
    rw [membersStrict, membersFinite, writeMembers]
    simp only [isScalar_append, h, isScalar_string, hcolon, Bool.true_and, Bool.and_eq_true]
    rw [isStrict_iff x, membersStrict_iff_write rest Style.response.itemSeparator rfl]
    tauto

end

/-! ### Escaped texts -/

theorem isScalar_unitEscape (n : Nat) : (Style.unitEscape n).isScalar = true := by
  have hdigits : (Text.hex 4 n).isScalar = true := isScalar_of_isAscii fun c hc => by
    have := CodePoint.isHex_iff.mp (isHex_of_mem_hex hc)
    exact decide_eq_true (by omega)
  rw [Style.unitEscape, isScalar_append, isScalar_ofString, hdigits]
  rfl

theorem isScalar_point_stored (c : CodePoint) : (Style.stored.point c).isScalar = true := by
  by_cases h : c.val < 0x80
  · have hall : ∀ n < 0x80, (Style.stored.point (.ofNat n)).isScalar = true := by decide +kernel
    have hc := hall c.val h
    rwa [CodePoint.ofNat_val] at hc
  · rcases point_cases .stored c with ⟨e, -, -, -, hlt⟩ | ⟨-, -, -, -, hlt⟩ | ⟨hpoint, -⟩ |
      ⟨-, -, hpoint⟩
    · omega
    · have := hlt rfl
      omega
    · rw [hpoint]
      exact isScalar_unitEscape _
    · rw [hpoint, isScalar_append, isScalar_unitEscape, isScalar_unitEscape]
      rfl

theorem isScalar_string_stored (s : Text) : (Style.stored.string s).isScalar = true := by
  have hpoints : Text.isScalar (s.flatMap Style.stored.point) = true := by
    induction s with
    | nil => rfl
    | cons c s ih => rw [List.flatMap_cons, isScalar_append, isScalar_point_stored, ih]; rfl
  have hquote : CodePoint.isSurrogate '"' = false := rfl
  rw [Style.string, isScalar_cons, isScalar_append, hpoints, isScalar_cons, isScalar_nil, hquote]
  rfl

mutual

/-- **The stored text of a value** has a form in strict UTF-8, whatever its strings and names are.
-/
theorem isScalar_storedText (v : Json) : (v.write .stored).isScalar = true := by
  cases v with
  | null => rfl
  | bool b => cases b <;> rfl
  | int i => exact isScalar_ofInt i
  | float x => exact isScalar_number _ x
  | string s => exact isScalar_string_stored s
  | array items =>
    rw [write, isScalar_cons, isScalar_writeItems_stored items [] rfl]
    rfl
  | object members =>
    rw [write, isScalar_cons, isScalar_writeMembers_stored members [] rfl]
    rfl

theorem isScalar_writeItems_stored (items : List Json) (separator : Text)
    (h : separator.isScalar = true) : (writeItems .stored separator items).isScalar = true := by
  match items with
  | [] => rfl
  | x :: rest =>
    rw [writeItems, isScalar_append, isScalar_append, h, isScalar_storedText x,
      isScalar_writeItems_stored rest Style.stored.itemSeparator rfl]
    rfl

theorem isScalar_writeMembers_stored (members : Members) (separator : Text)
    (h : separator.isScalar = true) : (writeMembers .stored separator members).isScalar = true := by
  match members with
  | [] => rfl
  | (name, x) :: rest =>
    have hcolon : Style.stored.nameSeparator.isScalar = true := rfl
    rw [writeMembers]
    simp only [isScalar_append, h, isScalar_string_stored, hcolon, isScalar_storedText x,
      isScalar_writeMembers_stored rest Style.stored.itemSeparator rfl, Bool.and_self]

end

end Json

end Entitlement
