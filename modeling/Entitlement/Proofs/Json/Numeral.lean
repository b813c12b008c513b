import Entitlement.Json.Reader
import Entitlement.Proofs.Text.Cutting
import Entitlement.Proofs.Text.Decimal

/-! # Number texts

What the text of a number looks like and which parts it has (`Grammar.SpellsNumeral`). A number text
is read up to its end when nothing follows that a number could go on with
(`Reader.Numeral.read?_spelled`), and only a number text is read
(`Reader.Numeral.spelled_of_read?`). Without a point and an exponent it stands for an integer. -/

namespace Entitlement

open CodePoint

namespace Json.Reader

/-- No digit comes next. -/
def NoDigit (rest : Text) : Prop := ∀ c ∈ rest.head?, c.isDigit = false

/-- Nothing comes next that a number could go on with. -/
def Stops (rest : Text) : Prop :=
  ∀ c ∈ rest.head?, c.isDigit = false ∧ c ≠ '.' ∧ c ≠ 'e' ∧ c ≠ 'E'

theorem noDigit_cons {c : CodePoint} (h : c.isDigit = false) (rest : Text) : NoDigit (c :: rest) :=
  fun d hd => by
    obtain rfl : c = d := by simpa using hd
    exact h

theorem Stops.noDigit {rest : Text} (h : Stops rest) : NoDigit rest := fun c hc => (h c hc).1

namespace Literal

/-- Digits that may stand before the point: a zero alone, or digits that start with no zero. -/
def IsWhole (whole : Text) : Prop :=
  whole ≠ [] ∧ (∀ c ∈ whole, c.isDigit = true) ∧ (whole.head? = some (digit 0) → whole = [digit 0])

def signText (negative : Bool) : Text := if negative then [('-' : CodePoint)] else []

def fractionText (fraction : Text) : Text :=
  if fraction = [] then [] else ('.' : CodePoint) :: fraction

end Literal

end Json.Reader

/-! ### The parts of a number text -/

namespace Json.Grammar

open Reader

/-- Nothing but digits. -/
def Digits (t : Text) : Prop := ∀ c ∈ t, c.isDigit = true

/-- The sign of an exponent can be left out. -/
inductive SpellsSign : Text → (negative : Bool) → Prop
  | none : SpellsSign [] false
  | plus : SpellsSign [('+' : CodePoint)] false
  | minus : SpellsSign [('-' : CodePoint)] true

/-- An exponent, which can be left out: a mark of either case, a sign, and digits. -/
inductive SpellsExponent : Text → Option Int → Prop
  | none : SpellsExponent [] none
  | some {mark : CodePoint} {sign digits : Text} {negative : Bool}
    (hmark : mark = 'e' ∨ mark = 'E') (hsign : SpellsSign sign negative) (hne : digits ≠ [])
    (hdigits : Digits digits) :
    SpellsExponent (mark :: (sign ++ digits))
      (some (if negative then -(Text.digitsValue digits : Int) else Text.digitsValue digits))

/-- **A number text and its parts**: a sign, digits that start with a zero only if that stands
alone, digits behind a point, and an exponent. -/
inductive SpellsNumeral : Text → Numeral → Prop
  | intro {negative : Bool} {whole fraction e : Text} {exponent : Option Int}
    (hwhole : Literal.IsWhole whole) (hfraction : Digits fraction)
    (hexponent : SpellsExponent e exponent) :
    SpellsNumeral (Literal.signText negative ++ (whole ++ (Literal.fractionText fraction ++ e)))
      ⟨negative, whole, fraction, exponent⟩

/-- A number text starts with a digit, or with a sign and a digit. -/
theorem SpellsNumeral.head {t : Text} {n : Numeral} (h : SpellsNumeral t n) :
    ∃ c rest, c.isDigit = true ∧ (t = c :: rest ∨ t = ('-' : CodePoint) :: c :: rest) := by
  cases h with
  | @intro negative whole fraction e exponent hwhole hfraction hexponent =>
    obtain ⟨hne, hdigits, -⟩ := hwhole
    obtain ⟨c, whole, rfl⟩ := List.exists_cons_of_ne_nil hne
    have hc : c.isDigit = true := hdigits c List.mem_cons_self
    cases negative with
    | false => exact ⟨c, _, hc, .inl rfl⟩
    | true => exact ⟨c, _, hc, .inr rfl⟩

end Json.Grammar

/-! ### Number texts are read -/

namespace Json.Reader

open Grammar

namespace Literal

theorem readWhole?_append {whole rest : Text} (h : IsWhole whole) (hr : NoDigit rest) :
    Numeral.readWhole? (whole ++ rest) = some (whole, rest) := by
  obtain ⟨hne, hd, hz⟩ := h
  cases whole with
  | nil => exact absurd rfl hne
  | cons c whole =>
    unfold Numeral.readWhole?
    dsimp only [List.cons_append]
    split
    · next hc =>
      obtain rfl : whole = [] := by
        have := hz (by rw [hc]; rfl)
        exact (List.cons.inj this).2
      rfl
    · rw [if_pos (hd c (by simp)), ← List.cons_append, Text.span_run hd hr]

theorem readFraction_append {fraction rest : Text} (hd : ∀ c ∈ fraction, c.isDigit = true)
    (hr : NoDigit rest) (hp : rest.head? ≠ some ('.' : CodePoint)) :
    Numeral.readFraction (fractionText fraction ++ rest) = (fraction, rest) := by
  unfold fractionText
  split
  · next h =>
    subst h
    rw [List.nil_append]
    unfold Numeral.readFraction
    cases rest with
    | nil => rfl
    | cons c rest =>
      dsimp only
      rw [if_neg fun hc => hp (by rw [hc]; rfl)]
  · next h =>
    unfold Numeral.readFraction
    rw [List.cons_append]
    dsimp only
    rw [if_pos rfl, Text.span_run hd hr]
    cases fraction with
    | nil => exact absurd rfl h
    | cons c fraction => rfl

theorem noDigit_fractionText_append (fraction : Text) {rest : Text} (h : NoDigit rest) :
    NoDigit (fractionText fraction ++ rest) := by
  unfold fractionText
  split
  · exact h
  · exact noDigit_cons rfl _

theorem dropSign {whole : Text} (h : IsWhole whole) (negative : Bool) (rest : Text) :
    Text.dropPrefix? "-" (signText negative ++ (whole ++ rest)) =
      if negative then some (whole ++ rest) else none := by
  cases negative with
  | true => rfl
  | false =>
    obtain ⟨hne, hd, -⟩ := h
    cases whole with
    | nil => exact absurd rfl hne
    | cons c whole =>
      have hc : ¬ ('-' : CodePoint) = c := fun hc =>
        absurd (hd c (by simp)) (by rw [← hc]; decide)
      exact if_neg hc

end Literal

namespace Numeral

theorem readSign_spelled {sign : Text} {negative : Bool} (h : SpellsSign sign negative)
    {digits : Text} (hne : digits ≠ []) (hdigits : Digits digits) (rest : Text) :
    readSign (sign ++ (digits ++ rest)) = (negative, digits ++ rest) := by
  obtain ⟨c, digits, rfl⟩ := List.exists_cons_of_ne_nil hne
  have hc : c.isDigit = true := hdigits c List.mem_cons_self
  cases h with
  | none =>
    have hminus : c ≠ '-' := by
      rintro rfl
      exact absurd hc (by decide)
    have hplus : c ≠ '+' := by
      rintro rfl
      exact absurd hc (by decide)
    rw [List.nil_append, List.cons_append, readSign, if_neg hminus, if_neg hplus]
  | plus => rfl
  | minus => rfl

theorem readExponent_spelled {e : Text} {exponent : Option Int} (h : SpellsExponent e exponent)
    {rest : Text} (stops : Stops rest) : readExponent (e ++ rest) = (exponent, rest) := by
  cases h with
  | none =>
    rw [List.nil_append]
    unfold readExponent
    cases rest with
    | nil => rfl
    | cons c rest =>
      obtain ⟨-, -, he, hE⟩ := stops c rfl
      dsimp only
      rw [if_neg (not_or.mpr ⟨he, hE⟩)]
  | @some mark sign digits negative hmark hsign hne hdigits =>
    rw [List.cons_append, List.append_assoc, readExponent]
    rw [if_pos hmark, readSign_spelled hsign hne hdigits]
    dsimp only
    rw [Text.span_run hdigits stops.noDigit]
    cases digits with
    | nil => exact absurd rfl hne
    | cons c digits => rfl

theorem head_spelledExponent {e : Text} {exponent : Option Int} (h : SpellsExponent e exponent)
    {rest : Text} (stops : Stops rest) :
    NoDigit (e ++ rest) ∧ (e ++ rest).head? ≠ some ('.' : CodePoint) := by
  cases h with
  | none =>
    refine ⟨stops.noDigit, fun hpoint => ?_⟩
    obtain ⟨-, hne, -⟩ := stops _ hpoint
    exact hne rfl
  | some hmark hsign hne hdigits =>
    rcases hmark with rfl | rfl
    · exact ⟨noDigit_cons rfl _, by simp; decide⟩
    · exact ⟨noDigit_cons rfl _, by simp; decide⟩

/-- **A number text is read up to its end.** -/
theorem read?_spelled {t : Text} {n : Numeral} (h : SpellsNumeral t n) {rest : Text}
    (stops : Stops rest) : read? (t ++ rest) = some (n, rest) := by
  cases h with
  | @intro negative whole fraction e exponent hwhole hfraction hexponent =>
    obtain ⟨hdigit, hpoint⟩ := head_spelledExponent hexponent stops
    have hreadWhole :=
      Literal.readWhole?_append hwhole (Literal.noDigit_fractionText_append fraction hdigit)
    have hreadFraction := Literal.readFraction_append hfraction hdigit hpoint
    have hreadExponent := readExponent_spelled hexponent stops
    unfold read?
    simp only [List.append_assoc, Literal.dropSign hwhole]
    cases negative <;> simp [hreadWhole, hreadFraction, hreadExponent, Literal.signText]

/-! ### Only number texts are read -/

theorem whole_of_readWhole? {text whole rest : Text} (h : readWhole? text = some (whole, rest)) :
    text = whole ++ rest ∧ Literal.IsWhole whole := by
  unfold readWhole? at h
  split at h
  · next c text =>
    split at h
    · next hc =>
      obtain ⟨rfl, rfl⟩ := Prod.mk.inj (Option.some.inj h)
      refine ⟨rfl, by simp, ?_, ?_⟩
      · intro d hd
        rw [List.mem_singleton.mp hd, hc]
        rfl
      · intro hzero
        exact congrArg (· :: []) (Option.some.inj hzero)
    · next hzero =>
      split at h
      · next hc =>
        obtain ⟨hsplit, hdigits⟩ := Text.run_of_span (Option.some.inj h)
        have hhead : whole.head? = some c := by
          rw [List.span_eq_takeWhile_dropWhile] at h
          obtain ⟨rfl, -⟩ := Prod.mk.inj (Option.some.inj h)
          rw [List.takeWhile_cons, hc]
          rfl
        refine ⟨hsplit, ?_, hdigits, ?_⟩
        · rintro rfl
          cases hhead
        · intro hz
          exact absurd (Option.some.inj (hhead.symm.trans hz)) hzero
      · cases h
  · cases h

theorem fraction_of_readFraction {text fraction rest : Text}
    (h : readFraction text = (fraction, rest)) :
    text = Literal.fractionText fraction ++ rest ∧ Digits fraction := by
  have hnone : ([], text) = (fraction, rest) →
      text = Literal.fractionText fraction ++ rest ∧ Digits fraction := by
    intro hnil
    obtain ⟨rfl, rfl⟩ := Prod.mk.inj hnil
    exact ⟨rfl, nofun⟩
  unfold readFraction at h
  split at h
  · next c text' =>
    split at h
    · next hc =>
      split at h
      · exact hnone h
      · next digits rest' hne hspan =>
        obtain ⟨rfl, rfl⟩ := Prod.mk.inj h
        obtain ⟨hsplit, hdigits⟩ := Text.run_of_span hspan
        have hfraction : digits ≠ [] := by
          rintro rfl
          exact hne rfl
        rw [Literal.fractionText, if_neg hfraction, hc, hsplit]
        exact ⟨rfl, hdigits⟩
    · exact hnone h
  · exact hnone h

theorem sign_of_readSign {text rest : Text} {negative : Bool}
    (h : readSign text = (negative, rest)) :
    ∃ sign, text = sign ++ rest ∧ SpellsSign sign negative := by
  unfold readSign at h
  split at h
  · next c text' =>
    split at h
    · next hc =>
      obtain ⟨rfl, rfl⟩ := Prod.mk.inj h
      exact ⟨['-'], by rw [hc]; rfl, .minus⟩
    · split at h
      · next hc =>
        obtain ⟨rfl, rfl⟩ := Prod.mk.inj h
        exact ⟨['+'], by rw [hc]; rfl, .plus⟩
      · obtain ⟨rfl, rfl⟩ := Prod.mk.inj h
        exact ⟨[], rfl, .none⟩
  · obtain ⟨rfl, rfl⟩ := Prod.mk.inj h
    exact ⟨[], rfl, .none⟩

theorem exponent_of_readExponent {text rest : Text} {exponent : Option Int}
    (h : readExponent text = (exponent, rest)) :
    ∃ e, text = e ++ rest ∧ SpellsExponent e exponent := by
  have hnone : (none, text) = (exponent, rest) →
      ∃ e, text = e ++ rest ∧ SpellsExponent e exponent := by
    intro hnil
    obtain ⟨rfl, rfl⟩ := Prod.mk.inj hnil
    exact ⟨[], rfl, .none⟩
  unfold readExponent at h
  split at h
  · next c text' =>
    split at h
    · next hmark =>
      obtain ⟨⟨negative, behind⟩, hsign⟩ : ∃ r, readSign text' = r := ⟨_, rfl⟩
      rw [hsign] at h
      dsimp only at h
      split at h
      · exact hnone h
      · next digits rest' hne hspan =>
        obtain ⟨rfl, rfl⟩ := Prod.mk.inj h
        obtain ⟨sign, rfl, hspells⟩ := sign_of_readSign hsign
        obtain ⟨rfl, hdigits⟩ := Text.run_of_span hspan
        have hfilled : digits ≠ [] := by
          rintro rfl
          exact hne rfl
        exact ⟨c :: (sign ++ digits), by simp, .some hmark hspells hfilled hdigits⟩
    · exact hnone h
  · exact hnone h

/-- **Only a number text is read.** -/
theorem spelled_of_read? {text rest : Text} {n : Numeral} (h : read? text = some (n, rest)) :
    ∃ t, text = t ++ rest ∧ SpellsNumeral t n := by
  unfold read? at h
  split at h
  next negative behind hsign =>
  have htext : text = Literal.signText negative ++ behind := by
    split at hsign
    · next hdrop =>
      obtain ⟨rfl, rfl⟩ := Prod.mk.inj hsign
      exact Text.dropPrefix?_eq_some.mp hdrop
    · obtain ⟨rfl, rfl⟩ := Prod.mk.inj hsign
      rfl
  obtain ⟨⟨whole, afterWhole⟩, hwhole, h⟩ := Option.bind_eq_some_iff.mp h
  obtain ⟨⟨fraction, afterFraction⟩, hfraction⟩ : ∃ r, readFraction afterWhole = r := ⟨_, rfl⟩
  obtain ⟨⟨exponent, afterExponent⟩, hexponent⟩ : ∃ r, readExponent afterFraction = r := ⟨_, rfl⟩
  dsimp only at h
  rw [hfraction] at h
  dsimp only at h
  rw [hexponent] at h
  obtain ⟨rfl, rfl⟩ := Prod.mk.inj (Option.some.inj h)
  obtain ⟨rfl, isWhole⟩ := whole_of_readWhole? hwhole
  obtain ⟨rfl, digits⟩ := fraction_of_readFraction hfraction
  obtain ⟨e, rfl, spells⟩ := exponent_of_readExponent hexponent
  exact ⟨_, by rw [htext]; simp, .intro isWhole digits spells⟩

/-! ### Values of numerals -/

variable {n : Numeral}

theorem value_integer (hfraction : n.fraction = []) (hexponent : n.exponent = none)
    (limit : n.whole.length ≤ Text.numeralLimit) : n.value =
      .ok (.int
        (if n.negative then -(Text.digitsValue n.whole : Int) else Text.digitsValue n.whole)) := by
  obtain ⟨negative, whole, fraction, exponent⟩ := n
  obtain rfl : fraction = [] := hfraction
  obtain rfl : exponent = none := hexponent
  exact if_neg (Nat.not_lt.mpr limit)

theorem value_decimal (hpoint : n.fraction ≠ [] ∨ n.exponent ≠ none) : n.value =
    .ok (.float (.ofDecimal n.negative (Text.digitsValue (n.whole ++ n.fraction))
      (n.exponent.getD 0 - n.fraction.length))) := by
  obtain ⟨negative, whole, fraction, exponent⟩ := n
  cases fraction with
  | cons c fraction => rfl
  | nil =>
    cases exponent with
    | some e => rfl
    | none => exact absurd hpoint (by simp)

theorem value_shallow {cause : Cause} (h : n.value = .error cause) :
    cause.isDeepNesting = false := by
  unfold value at h
  split at h
  · split at h
    · rw [← Except.error.inj h]
      rfl
    · cases h
  · cases h

end Numeral

end Json.Reader

end Entitlement
