import Entitlement.Proofs.Json.Grammar

/-! # Scalars

A text that denotes a value that is neither an array nor an object is read up to its end when
nothing follows that a number could go on with (`Reader.scalar_leaves`), and without the extra
constants only such a text is read (`Reader.scalar_sound`). Where they are admitted, they are all
that is read besides (`Reader.extended_leaves`, `Reader.extended_sound`). -/

namespace Entitlement

namespace Json.Reader

open Grammar

/-! ### Leaves -/

/-- The code point can start a value that is neither an array nor an object. -/
def StartsScalar (c : CodePoint) : Prop :=
  c.isAscii = true ∧ isBlank c = false ∧ c ≠ ']' ∧ c ≠ '[' ∧ c ≠ '\x7b'

instance : DecidablePred StartsScalar := fun _ => inferInstanceAs (Decidable (_ ∧ _ ∧ _ ∧ _ ∧ _))

theorem startsScalar_of_isDigit {c : CodePoint} (h : c.isDigit = true) : StartsScalar c := by
  have hc := CodePoint.isDigit_iff.mp h
  refine ⟨?_, ?_, ?_, ?_, ?_⟩
  · simp [CodePoint.isAscii]
    omega
  · simp [isBlank]
    omega
  all_goals
    rintro rfl
    exact absurd h (by decide)

/-- Whatever is read of a text is as the grammar says. -/
def Sound {α : Type} (entry : Text → Except Fault (α × Text)) (Core : Text → α → Prop) : Prop :=
  ∀ ⦃text rest : Text⦄ ⦃x : α⦄, entry text = .ok (x, rest) →
    ∃ core, text = core ++ rest ∧ Core core x

/-- The leaves start as scalars do, and each is read up to its end. -/
structure Leaves (options : Options) (Leaf : Text → Json → Prop) : Prop where
  head : ∀ {t : Text} {v : Json}, Leaf t v → ∃ c rest, t = c :: rest ∧ StartsScalar c
  read : ∀ {t rest : Text} {v : Json}, Leaf t v → Stops rest →
    scalar options (t ++ rest) = .ok (v, rest)

/-! ### Constants -/

theorem constant?_eq_some {table : List (Text × Json)} {text rest : Text} {entry : Text × Json}
    (h : constant? table text = some (entry, rest)) : entry ∈ table ∧ text = entry.1 ++ rest := by
  obtain ⟨e, he, hs⟩ := List.exists_of_findSome?_eq_some h
  obtain ⟨rest', hdrop, hr⟩ := Option.map_eq_some_iff.mp hs
  obtain ⟨rfl, rfl⟩ := Prod.mk.inj hr
  exact ⟨he, Text.dropPrefix?_eq_some.mp hdrop⟩

theorem constant?_constants {c : CodePoint} (hn : ('n' : CodePoint) ≠ c)
    (ht : ('t' : CodePoint) ≠ c) (hf : ('f' : CodePoint) ≠ c) (rest : Text) :
    constant? constants (c :: rest) = none := by
  have h1 : Text.dropPrefix? "null" (c :: rest) = none := if_neg hn
  have h2 : Text.dropPrefix? "true" (c :: rest) = none := if_neg ht
  have h3 : Text.dropPrefix? "false" (c :: rest) = none := if_neg hf
  simp [constant?, constants, h1, h2, h3]

theorem constant?_extraConstants {c : CodePoint} (hn : ('N' : CodePoint) ≠ c)
    (hi : ('I' : CodePoint) ≠ c) {rest : Text}
    (hm : Text.dropPrefix? "-Infinity" (c :: rest) = none) :
    constant? extraConstants (c :: rest) = none := by
  have h1 : Text.dropPrefix? "NaN" (c :: rest) = none := if_neg hn
  have h2 : Text.dropPrefix? "Infinity" (c :: rest) = none := if_neg hi
  simp [constant?, extraConstants, h1, h2, hm]

/-! ### Numbers -/

variable {options : Options} {text t rest : Text} {n : Numeral} {v : Json}

/-- A number text is no constant. -/
theorem scalar_spelled (h : SpellsNumeral t n) (hv : n.value = .ok v) (stops : Stops rest)
    (options : Options) : scalar options (t ++ rest) = .ok (v, rest) := by
  have hread := Numeral.read?_spelled h stops
  obtain ⟨c, tail, hc, ht⟩ := h.head
  have hne : ∀ d : CodePoint, d.isDigit = false → d ≠ c := fun d hd he => by
    rw [he, hc] at hd
    cases hd
  have hnone : ∃ c' t', t ++ rest = c' :: t' ∧ c' ≠ '"' ∧
      constant? constants (c' :: t') = none ∧ constant? extraConstants (c' :: t') = none := by
    rcases ht with rfl | rfl
    · refine ⟨c, tail ++ rest, rfl, (hne '"' rfl).symm, ?_, ?_⟩
      · exact constant?_constants (hne 'n' rfl) (hne 't' rfl) (hne 'f' rfl) _
      · exact constant?_extraConstants (hne 'N' rfl) (hne 'I' rfl) (if_neg (hne '-' rfl))
    · refine ⟨'-', c :: (tail ++ rest), rfl, by decide, ?_, ?_⟩
      · exact constant?_constants (by decide) (by decide) (by decide) _
      · exact constant?_extraConstants (by decide) (by decide) (if_neg (hne 'I' rfl))
  obtain ⟨c', t', ht', hq, h1, h2⟩ := hnone
  rw [ht'] at hread ⊢
  unfold scalar
  dsimp only
  rw [if_neg hq, h1, h2, hread]
  dsimp only
  rw [hv]

theorem denoted_of_value (h : SpellsNumeral t n) (hv : n.value = .ok v) : Scalar t v := by
  by_cases hpoint : n.fraction ≠ [] ∨ n.exponent ≠ none
  · rw [Numeral.value_decimal hpoint] at hv
    rw [← Except.ok.inj hv]
    exact .decimal h hpoint
  · obtain ⟨hfraction, hexponent⟩ := not_or.mp hpoint
    have hfraction : n.fraction = [] := not_not.mp hfraction
    have hexponent : n.exponent = none := not_not.mp hexponent
    by_cases limit : n.whole.length ≤ Text.numeralLimit
    · rw [Numeral.value_integer hfraction hexponent limit] at hv
      rw [← Except.ok.inj hv]
      exact .integer h hfraction hexponent limit
    · obtain ⟨negative, whole, fraction, exponent⟩ := n
      obtain rfl : fraction = [] := hfraction
      obtain rfl : exponent = none := hexponent
      unfold Numeral.value at hv
      dsimp only at hv
      rw [if_pos (Nat.lt_of_not_le limit)] at hv
      cases hv

/-! ### Scalars -/

theorem head_spelled (h : SpellsNumeral t n) : ∃ c rest, t = c :: rest ∧ StartsScalar c := by
  obtain ⟨c, rest, hc, ht | ht⟩ := h.head
  · exact ⟨c, rest, ht, startsScalar_of_isDigit hc⟩
  · exact ⟨_, _, ht, by decide⟩

/-- **A scalar is read up to its end.** -/
theorem scalar_leaves (options : Options) : Leaves options Scalar where
  head h := by
    cases h with
    | null | isTrue | isFalse | string => exact ⟨_, _, rfl, by decide⟩
    | integer hspells | decimal hspells => exact head_spelled hspells
  read h stops := by
    cases h with
    | null | isTrue | isFalse => rfl
    | string hquoted =>
      unfold scalar
      dsimp only [List.cons_append]
      rw [if_pos rfl, string_quoted _ hquoted]
    | integer hspells hfraction hexponent limit =>
      exact scalar_spelled hspells (Numeral.value_integer hfraction hexponent limit) stops options
    | decimal hspells hpoint =>
      exact scalar_spelled hspells (Numeral.value_decimal hpoint) stops options

/-- A scalar, or an extra constant where these are admitted. -/
inductive Extended (options : Options) : Text → Json → Prop
  | scalar {t : Text} {v : Json} (h : Scalar t v) : Extended options t v
  | constant {t : Text} {v : Json} (admitted : options.constants = true)
    (h : (t, v) ∈ extraConstants) : Extended options t v

theorem extended_leaves (options : Options) : Leaves options (Extended options) where
  head h := by
    cases h with
    | scalar h => exact (scalar_leaves options).head h
    | constant _ h =>
      have hall : ∀ entry ∈ extraConstants, ∃ c rest, entry.1 = c :: rest ∧ StartsScalar c := by
        simp only [extraConstants, List.forall_mem_cons]
        exact ⟨⟨_, _, rfl, by decide⟩, ⟨_, _, rfl, by decide⟩, ⟨_, _, rfl, by decide⟩, nofun⟩
      exact hall _ h
  read := by
    intro t rest v h stops
    cases h with
    | scalar h => exact (scalar_leaves options).read h stops
    | constant admitted h =>
      obtain ⟨constants⟩ := options
      obtain rfl : constants = true := admitted
      have hall : ∀ entry ∈ extraConstants,
          scalar ⟨true⟩ (entry.1 ++ rest) = .ok (entry.2, rest) := by
        simp only [extraConstants, List.forall_mem_cons]
        exact ⟨rfl, rfl, rfl, nofun⟩
      exact hall _ h

theorem extended_sound (options : Options) : Sound (scalar options) (Extended options) := by
  intro text rest v h
  unfold scalar at h
  split at h
  · cases h
  next c behind =>
  split at h
  · next hquote =>
    split at h
    · next s rest' hstring =>
      obtain ⟨rfl, rfl⟩ := Prod.mk.inj (Except.ok.inj h)
      obtain ⟨body, ps, rfl, hquoted⟩ := quoted_of_string hstring
      have hread := string_quoted (c :: (body ++ rest')) hquoted rest'
      obtain ⟨rfl, -⟩ := Prod.mk.inj (Except.ok.inj (hstring.symm.trans hread))
      exact ⟨('"' : CodePoint) :: body, by rw [hquote]; rfl, .scalar (.string hquoted)⟩
    · cases h
  split at h
  · next name json rest' hconstant =>
    obtain ⟨rfl, rfl⟩ := Prod.mk.inj (Except.ok.inj h)
    obtain ⟨hmem, htext⟩ := constant?_eq_some hconstant
    have hall : ∀ entry ∈ constants, Scalar entry.1 entry.2 := by
      simp only [constants, List.forall_mem_cons]
      exact ⟨.null, .isTrue, .isFalse, nofun⟩
    exact ⟨name, htext, .scalar (hall _ hmem)⟩
  split at h
  · next name json rest' hconstant =>
    split at h
    · next admitted =>
      obtain ⟨rfl, rfl⟩ := Prod.mk.inj (Except.ok.inj h)
      obtain ⟨hmem, htext⟩ := constant?_eq_some hconstant
      exact ⟨name, htext, .constant admitted hmem⟩
    · cases h
  split at h
  · next n rest' hread =>
    split at h
    · next json hvalue =>
      obtain ⟨rfl, rfl⟩ := Prod.mk.inj (Except.ok.inj h)
      obtain ⟨t, htext, hspells⟩ := Numeral.spelled_of_read? hread
      exact ⟨t, htext, .scalar (denoted_of_value hspells hvalue)⟩
    · cases h
  · cases h

/-- **Only scalars are read**, where the extra constants are refused. -/
theorem scalar_sound : Sound (scalar strict) Scalar := by
  intro text rest v h
  obtain ⟨t, htext, hextended⟩ := extended_sound strict h
  cases hextended with
  | scalar h => exact ⟨t, htext, h⟩
  | constant admitted _ => cases admitted

theorem scalar_shallow {f : Fault} (h : scalar options text = .error f) :
    f.cause.isDeepNesting = false := by
  unfold scalar at h
  split at h
  · rw [← Except.error.inj h]
    rfl
  split at h
  · split at h
    · cases h
    · next fault hstring =>
      rw [← Except.error.inj h]
      exact string_shallow hstring
  split at h
  · cases h
  split at h
  · split at h
    · cases h
    · rw [← Except.error.inj h]
      rfl
  split at h
  · split at h
    · cases h
    · next cause hvalue =>
      rw [← Except.error.inj h]
      exact Numeral.value_shallow hvalue
  · rw [← Except.error.inj h]
    rfl

end Json.Reader

end Entitlement
