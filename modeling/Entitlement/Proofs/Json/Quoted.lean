import Entitlement.Json.Writer
import Entitlement.Proofs.Json.Pieces
import Entitlement.Proofs.Text.Hexadecimal
import Mathlib.Data.List.Induction

/-! # Strings written and read

Each point of a string is written as one piece or as two. Where all but ASCII is escaped, an escaped
high surrogate with an escaped low one behind it is read as the one point that they stand for; so
what is read is the string with such pairs joined (`Text.joinPairs`, `Style.reread`). A style that
leaves code points as they are gives back the string itself. Both are `Reader.quoted_write`. -/

namespace Entitlement

open CodePoint

namespace Text

/-- Joins each high surrogate with the low one behind it. -/
def joinPairs : Text → Text
  | high :: low :: rest =>
    if high.isHighSurrogate && low.isLowSurrogate then .ofPair high low :: joinPairs rest
    else high :: joinPairs (low :: rest)
  | s => s

theorem joinPairs_cons {c : CodePoint} (h : c.isHighSurrogate = false) (s : Text) :
    joinPairs (c :: s) = c :: joinPairs s := by
  cases s with
  | nil => rfl
  | cons d s => simp [joinPairs, h]

theorem joinPairs_cons_cons {c d : CodePoint} (h : d.isLowSurrogate = false) (s : Text) :
    joinPairs (c :: d :: s) = c :: joinPairs (d :: s) := by
  simp [joinPairs, h]

/-- A text that joining pairs gives is the text itself, if it holds no point beyond the first
65536. -/
theorem eq_of_joinPairs_eq {s t : Text} (h : joinPairs s = t) (ht : ∀ c ∈ t, c.val < 0x10000) :
    s = t := by
  induction s using List.twoStepInduction generalizing t with
  | nil => exact h
  | singleton c => exact h
  | cons_cons high low rest _ ih =>
    unfold joinPairs at h
    split at h
    · subst h
      have := ht _ (List.mem_cons_self ..)
      rw [ofPair, val_ofNat (by omega)] at this
      omega
    · subst h
      rw [← ih low rfl fun c hc => ht c (List.mem_cons_of_mem _ hc)]

theorem joinPairs_eq_self {s : Text} (h : ∀ c ∈ s, c.isHighSurrogate = false) :
    joinPairs s = s := by
  induction s with
  | nil => rfl
  | cons c s ih =>
    rw [joinPairs_cons (h c (by simp)), ih fun d hd => h d (by simp [hd])]

end Text

namespace Json

/-- The string that the text of a string is read as. -/
def Style.reread (style : Style) (s : Text) : Text := if style.asciiOnly then s.joinPairs else s

/-- No other name is read back as this one, and it is read back as itself. -/
def Style.Keeps (style : Style) (name : Text) : Prop :=
  ∀ other, style.reread other = name ↔ other = name

theorem Style.keeps_of_isAscii (style : Style) {name : Text} (h : name.all isAscii = true) :
    style.Keeps name := by
  have hlt : ∀ c ∈ name, c.val < 0x80 := fun c hc => by
    simpa [isAscii] using List.all_eq_true.mp h c hc
  intro other
  unfold Style.reread
  split
  · refine ⟨fun he => Text.eq_of_joinPairs_eq he fun c hc => (hlt c hc).trans (by omega), ?_⟩
    rintro rfl
    refine Text.joinPairs_eq_self fun c hc => ?_
    have := hlt c hc
    simp [isHighSurrogate]
    omega
  · exact Iff.rfl

namespace Reader

open Grammar

/-! ### Escapes -/

theorem unit?_hex {n : Nat} (h : n < 0x10000) :
    unit? (hexDigit (n / 16 / 16 / 16 % 16)) (hexDigit (n / 16 / 16 % 16)) (hexDigit (n / 16 % 16))
      (hexDigit (n % 16)) = some (.ofNat n) := by
  simp only [unit?, hexValue?_hexDigit _ (Nat.mod_lt _ (by decide : 0 < 16)), Option.bind_eq_bind,
    Option.bind_some, Option.pure_def, Option.some.injEq]
  congr 1
  omega

theorem spells_unitEscape {n : Nat} (h : n < 0x10000) :
    Spells (Style.unitEscape n) (.unit (.ofNat n)) := by
  have hu := unit?_hex h
  obtain ⟨i, j, k, l, hi, hj, hk, hl, hn⟩ := unit?_iff.mp hu
  rw [hn]
  exact .unit hi hj hk hl

/-! ### The ways to write a code point -/

/-- A code point is written with a short escape, as it is, by its number, or as a pair. -/
theorem point_cases (style : Style) (c : CodePoint) :
    (∃ e, style.point c = [('\\' : CodePoint), e] ∧ e ≠ 'u' ∧ simpleEscape? e = some c ∧
      c.val < 0x7F) ∨
    (style.point c = [c] ∧ c ≠ '"' ∧ ¬ c.val < 0x20 ∧ c ≠ '\\' ∧
      (style.asciiOnly = true → c.val < 0x7F)) ∨
    (style.point c = Style.unitEscape c.val ∧ c.val < 0x10000 ∧
      (style.asciiOnly = false → c.val < 0x20)) ∨
    (style.asciiOnly = true ∧ 0x10000 ≤ c.val ∧ style.point c =
      Style.unitEscape (0xD800 + (c.val - 0x10000) / 0x400) ++
        Style.unitEscape (0xDC00 + (c.val - 0x10000) % 0x400)) := by
  unfold Style.point
  by_cases hq : c = '"'
  · rw [if_pos hq]
    exact .inl ⟨'"', rfl, by decide, by rw [hq]; rfl, by rw [hq]; decide⟩
  rw [if_neg hq]
  by_cases hb : c = '\\'
  · rw [if_pos hb]
    exact .inl ⟨'\\', rfl, by decide, by rw [hb]; rfl, by rw [hb]; decide⟩
  rw [if_neg hb]
  by_cases h : c.val = 0x08
  · rw [if_pos h]
    exact .inl ⟨'b', rfl, by decide, congrArg some (Fin.ext h.symm), by omega⟩
  rw [if_neg h]
  by_cases h : c.val = 0x0C
  · rw [if_pos h]
    exact .inl ⟨'f', rfl, by decide, congrArg some (Fin.ext h.symm), by omega⟩
  rw [if_neg h]
  by_cases h : c.val = 0x0A
  · rw [if_pos h]
    exact .inl ⟨'n', rfl, by decide, congrArg some (Fin.ext h.symm), by omega⟩
  rw [if_neg h]
  by_cases h : c.val = 0x0D
  · rw [if_pos h]
    exact .inl ⟨'r', rfl, by decide, congrArg some (Fin.ext h.symm), by omega⟩
  rw [if_neg h]
  by_cases h : c.val = 0x09
  · rw [if_pos h]
    exact .inl ⟨'t', rfl, by decide, congrArg some (Fin.ext h.symm), by omega⟩
  rw [if_neg h]
  by_cases hc : c.val < 0x20
  · rw [if_pos hc]
    exact .inr (.inr (.inl ⟨rfl, by omega, fun _ => hc⟩))
  rw [if_neg hc]
  cases ha : style.asciiOnly with
  | false => exact .inr (.inl ⟨rfl, hq, hc, hb, nofun⟩)
  | true =>
    by_cases h : c.val < 0x7F
    · rw [if_pos (by simpa using h)]
      exact .inr (.inl ⟨rfl, hq, hc, hb, fun _ => h⟩)
    rw [if_neg (by simpa using h)]
    by_cases h' : c.val < 0x10000
    · rw [if_pos h']
      exact .inr (.inr (.inl ⟨rfl, h', nofun⟩))
    · rw [if_neg h']
      exact .inr (.inr (.inr ⟨rfl, Nat.le_of_not_lt h', rfl⟩))

/-- The units of a point beyond the first 65536 are a pair that stands for it. -/
theorem astral_units {c : CodePoint} (h : 0x10000 ≤ c.val) :
    (CodePoint.ofNat (0xD800 + (c.val - 0x10000) / 0x400)).isHighSurrogate = true ∧
      (CodePoint.ofNat (0xDC00 + (c.val - 0x10000) % 0x400)).isLowSurrogate = true ∧
      CodePoint.ofPair (.ofNat (0xD800 + (c.val - 0x10000) / 0x400))
        (.ofNat (0xDC00 + (c.val - 0x10000) % 0x400)) = c := by
  have hc := c.isLt
  have h1 := val_ofNat (show 0xD800 + (c.val - 0x10000) / 0x400 < 0x110000 by omega)
  have h2 := val_ofNat (show 0xDC00 + (c.val - 0x10000) % 0x400 < 0x110000 by omega)
  refine ⟨?_, ?_, ?_⟩
  · rw [isHighSurrogate, h1, Bool.and_eq_true, decide_eq_true_eq, decide_eq_true_eq]
    omega
  · rw [isLowSurrogate, h2, Bool.and_eq_true, decide_eq_true_eq, decide_eq_true_eq]
    omega
  · rw [CodePoint.ofPair, h1, h2]
    refine Eq.trans (congrArg CodePoint.ofNat ?_) (ofNat_val c)
    omega

/-! ### Reading back -/

/-- Pieces that stand for a text with its pairs joined, also behind a unit that may be half of a
pair. -/
def Joins (ps : List Piece) (s : Text) : Prop :=
  ∀ held : Option CodePoint,
    resolve (held.toList.map .unit ++ ps) = Text.joinPairs (held.toList ++ s)

namespace Joins

variable {ps : List Piece} {s : Text}

theorem nil : Joins [] [] := by
  intro held
  cases held <;> rfl

theorem point (h : Joins ps s) {c : CodePoint}
    (hc : c.isLowSurrogate = false ∧ c.isHighSurrogate = false) :
    Joins (.point c :: ps) (c :: s) := by
  have hrest : resolve ps = Text.joinPairs s := h none
  intro held
  cases held with
  | none =>
    change c :: resolve ps = Text.joinPairs (c :: s)
    rw [Text.joinPairs_cons hc.2, hrest]
  | some high =>
    change high :: c :: resolve ps = Text.joinPairs (high :: c :: s)
    rw [Text.joinPairs_cons_cons hc.1, Text.joinPairs_cons hc.2, hrest]

theorem unit (h : Joins ps s) (c : CodePoint) : Joins (.unit c :: ps) (c :: s) := by
  have hrest : resolve ps = Text.joinPairs s := h none
  have hunit : resolve (.unit c :: ps) = Text.joinPairs (c :: s) := h (some c)
  intro held
  cases held with
  | none => exact hunit
  | some high =>
    change resolve (.unit high :: .unit c :: ps) = Text.joinPairs (high :: c :: s)
    rw [resolve, Text.joinPairs, hrest, hunit]

theorem pair (h : Joins ps s) {c high low : CodePoint} (hh : high.isHighSurrogate = true)
    (hl : low.isLowSurrogate = true) (hpair : CodePoint.ofPair high low = c)
    (hc : c.isLowSurrogate = false ∧ c.isHighSurrogate = false) :
    Joins (.unit high :: .unit low :: ps) (c :: s) := by
  have hresolve : resolve (.unit high :: .unit low :: ps) = c :: Text.joinPairs s := by
    rw [resolve_pair hh hl, hpair]
    exact congrArg (c :: ·) (h none)
  intro held
  cases held with
  | none =>
    change resolve (.unit high :: .unit low :: ps) = Text.joinPairs (c :: s)
    rw [hresolve, Text.joinPairs_cons hc.2]
  | some first =>
    change resolve (.unit first :: .unit high :: .unit low :: ps) = Text.joinPairs (first :: c :: s)
    rw [resolve_units (isLowSurrogate_of_high hh), hresolve, Text.joinPairs_cons_cons hc.1,
      Text.joinPairs_cons hc.2]

end Joins

theorem quoted_plain {style : Style} (hs : style.asciiOnly = false) (s : Text) :
    ∃ ps, Quoted (s.flatMap style.point ++ [('"' : CodePoint)]) ps ∧ resolve ps = s := by
  induction s with
  | nil => exact ⟨[], .close, rfl⟩
  | cons c s ih =>
    obtain ⟨ps, hquoted, hresolve⟩ := ih
    rw [List.flatMap_cons, List.append_assoc]
    rcases point_cases style c with ⟨e, hp, -, he, -⟩ | ⟨hp, hq, hc, hb, -⟩ | ⟨hp, hn, hc⟩ |
      ⟨ha, -, -⟩
    · rw [hp]
      have hspells : Spells [('\\' : CodePoint), e] (.point c) := .escape (simpleEscape?_iff.mp he)
      exact ⟨.point c :: ps, .piece hspells hquoted, congrArg (c :: ·) hresolve⟩
    · rw [hp]
      have hspells : Spells [c] (.point c) := .raw hq hb (Nat.le_of_not_lt hc)
      exact ⟨.point c :: ps, .piece hspells hquoted, congrArg (c :: ·) hresolve⟩
    · have hlt : c.val < 0x20 := hc hs
      have hspells : Spells (Style.unitEscape c.val) (.unit (.ofNat c.val)) := spells_unitEscape hn
      rw [ofNat_val] at hspells
      rw [hp]
      refine ⟨.unit c :: ps, .piece hspells hquoted, ?_⟩
      rw [resolve_unit (noHalf_of_noSurrogate (.inl (by omega))).2, hresolve]
    · rw [hs] at ha
      cases ha

theorem quoted_ascii {style : Style} (hs : style.asciiOnly = true) (s : Text) :
    ∃ ps, Quoted (s.flatMap style.point ++ [('"' : CodePoint)]) ps ∧ Joins ps s := by
  induction s with
  | nil => exact ⟨[], .close, .nil⟩
  | cons c s ih =>
    obtain ⟨ps, hquoted, hjoins⟩ := ih
    rw [List.flatMap_cons, List.append_assoc]
    rcases point_cases style c with ⟨e, hp, -, he, hlt⟩ | ⟨hp, hq, hc, hb, hlt⟩ | ⟨hp, hn, -⟩ |
      ⟨-, hle, hp⟩
    · rw [hp]
      have hspells : Spells [('\\' : CodePoint), e] (.point c) := .escape (simpleEscape?_iff.mp he)
      have hhalf := noHalf_of_noSurrogate (.inl (by omega : c.val < 0xD800))
      exact ⟨.point c :: ps, .piece hspells hquoted, hjoins.point hhalf⟩
    · rw [hp]
      have hspells : Spells [c] (.point c) := .raw hq hb (Nat.le_of_not_lt hc)
      have hlt : c.val < 0x7F := hlt hs
      have hhalf := noHalf_of_noSurrogate (.inl (by omega : c.val < 0xD800))
      exact ⟨.point c :: ps, .piece hspells hquoted, hjoins.point hhalf⟩
    · rw [hp]
      have hspells : Spells (Style.unitEscape c.val) (.unit (.ofNat c.val)) := spells_unitEscape hn
      rw [ofNat_val] at hspells
      exact ⟨.unit c :: ps, .piece hspells hquoted, hjoins.unit c⟩
    · have hc := c.isLt
      obtain ⟨hhigh, hlow, hpair⟩ := astral_units hle
      have hfirst : 0xD800 + (c.val - 0x10000) / 0x400 < 0x10000 := by omega
      have hsecond : 0xDC00 + (c.val - 0x10000) % 0x400 < 0x10000 := by omega
      have hhalf := noHalf_of_noSurrogate (.inr (by omega : 0xE000 ≤ c.val))
      rw [hp, List.append_assoc]
      exact ⟨_, .piece (spells_unitEscape hfirst) (.piece (spells_unitEscape hsecond) hquoted),
        hjoins.pair hhigh hlow hpair hhalf⟩

/-- **The text of a string stands for the string**, its pairs joined where they were escaped. -/
theorem quoted_write (style : Style) (s : Text) : ∃ ps,
    Quoted (s.flatMap style.point ++ [('"' : CodePoint)]) ps ∧ resolve ps = style.reread s := by
  unfold Style.reread
  cases h : style.asciiOnly with
  | false => exact quoted_plain h s
  | true =>
    obtain ⟨ps, hquoted, hjoins⟩ := quoted_ascii h s
    exact ⟨ps, hquoted, hjoins none⟩

end Reader

end Json

end Entitlement
