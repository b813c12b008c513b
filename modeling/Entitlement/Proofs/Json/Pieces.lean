import Entitlement.Json.Reader
import Mathlib.Data.List.Basic

/-! # Texts of strings

The text of a string is a row of pieces up to the closing quote (`Grammar.Quoted`), each written in
one of three ways (`Grammar.Spells`), and what it stands for follows from the pieces alone
(`Grammar.resolve`). Such a text is read up to its closing quote as what the pieces stand for
(`Reader.string_quoted`), and only such a text is read (`Reader.quoted_of_string`). -/

namespace Entitlement

open CodePoint

namespace Json.Grammar

/-- What a part of a string stands for: a code point, or a unit that was escaped by its number. -/
inductive Piece where
  | point (c : CodePoint)
  | unit (u : CodePoint)

/-- The letters behind a backslash, and what they stand for. -/
def escapes : List (CodePoint × CodePoint) :=
  [('"', '"'), ('\\', '\\'), ('/', '/'), ('b', 0x08), ('f', 0x0C), ('n', 0x0A), ('r', 0x0D),
    ('t', 0x09)]

/-- **The ways to write a part of a string**: as it is, with a letter, or with four hexadecimal
digits. -/
inductive Spells : Text → Piece → Prop
  | raw {c : CodePoint} (quote : c ≠ '"') (backslash : c ≠ '\\') (control : 0x20 ≤ c.val) :
    Spells [c] (.point c)
  | escape {letter c : CodePoint} (h : (letter, c) ∈ escapes) :
    Spells [('\\' : CodePoint), letter] (.point c)
  | unit {a b c d : CodePoint} {i j k l : Nat} (ha : a.hexValue? = some i)
    (hb : b.hexValue? = some j) (hc : c.hexValue? = some k) (hd : d.hexValue? = some l) :
    Spells [('\\' : CodePoint), 'u', a, b, c, d] (.unit (.ofNat (((i * 16 + j) * 16 + k) * 16 + l)))

/-- A string behind its opening quote, up to and with the closing one. -/
inductive Quoted : Text → List Piece → Prop
  | close : Quoted [('"' : CodePoint)] []
  | piece {t rest : Text} {p : Piece} {ps : List Piece} (first : Spells t p) (h : Quoted rest ps) :
    Quoted (t ++ rest) (p :: ps)

/-- The text that pieces stand for: an escaped high surrogate right before an escaped low one is a
pair, any other unit stands for itself. -/
def resolve : List Piece → Text
  | [] => []
  | .point c :: ps => c :: resolve ps
  | .unit high :: .unit low :: ps =>
    if high.isHighSurrogate && low.isLowSurrogate then .ofPair high low :: resolve ps
    else high :: resolve (.unit low :: ps)
  | .unit u :: ps => u :: resolve ps

theorem Quoted.ne_nil {t : Text} {ps : List Piece} (h : Quoted t ps) : t ≠ [] := by
  cases h with
  | close => exact List.cons_ne_nil _ _
  | piece first h =>
    cases first <;> exact List.cons_ne_nil _ _

theorem resolve_unit {u : CodePoint} (h : u.isHighSurrogate = false) (ps : List Piece) :
    resolve (.unit u :: ps) = u :: resolve ps := by
  cases ps with
  | nil => rfl
  | cons p ps =>
    cases p with
    | point c => rfl
    | unit low =>
      rw [resolve, h, Bool.false_and]
      rfl

theorem resolve_pair {high low : CodePoint} (hh : high.isHighSurrogate = true)
    (hl : low.isLowSurrogate = true) (ps : List Piece) :
    resolve (.unit high :: .unit low :: ps) = .ofPair high low :: resolve ps := by
  rw [resolve, hh, hl]
  rfl

/-- A unit that is no low surrogate completes no pair. -/
theorem resolve_units {u v : CodePoint} (h : v.isLowSurrogate = false) (ps : List Piece) :
    resolve (.unit u :: .unit v :: ps) = u :: resolve (.unit v :: ps) := by
  rw [resolve, h, Bool.and_false]
  rfl

end Json.Grammar

/-! ### Surrogates -/

namespace Json.Reader

open Grammar

theorem noHalf_of_noSurrogate {c : CodePoint} (h : c.val < 0xD800 ∨ 0xE000 ≤ c.val) :
    c.isLowSurrogate = false ∧ c.isHighSurrogate = false := by
  simp [isHighSurrogate, isLowSurrogate]
  omega

theorem isLowSurrogate_of_high {c : CodePoint} (h : c.isHighSurrogate = true) :
    c.isLowSurrogate = false := by
  simp [isHighSurrogate, isLowSurrogate] at h ⊢
  omega

theorem isHighSurrogate_of_low {c : CodePoint} (h : c.isLowSurrogate = true) :
    c.isHighSurrogate = false := by
  simp [isHighSurrogate, isLowSurrogate] at h ⊢
  omega

theorem pushUnit_closed (unit : CodePoint) (read : Text) :
    pushUnit false unit read = unit :: read := by
  cases read <;> rfl

/-- A unit that does not complete a pair is put behind what was read. -/
theorem pushUnit_eq_cons {isOpen : Bool} {unit : CodePoint}
    (h : isOpen = true → unit.isLowSurrogate = false) (read : Text) :
    pushUnit isOpen unit read = unit :: read := by
  cases isOpen with
  | false => exact pushUnit_closed unit read
  | true => cases read <;> simp [pushUnit, h rfl]

/-! ### Texts of strings are read -/

theorem simpleEscape?_iff {letter c : CodePoint} :
    simpleEscape? letter = some c ↔ (letter, c) ∈ escapes := by
  constructor
  · intro h
    unfold simpleEscape? at h
    split at h
    · next hself =>
      obtain rfl := Option.some.inj h
      rcases hself with rfl | rfl | rfl <;> decide
    iterate 5
      split at h
      · next hletter =>
        rw [hletter, ← Option.some.inj h]
        decide
    cases h
  · intro h
    have hall : ∀ e ∈ escapes, simpleEscape? e.1 = some e.2 := by
      simp only [escapes, List.forall_mem_cons]
      exact ⟨rfl, rfl, rfl, rfl, rfl, rfl, rfl, rfl, nofun⟩
    exact hall _ h

theorem unit?_iff {a b c d u : CodePoint} : unit? a b c d = some u ↔
    ∃ i j k l, a.hexValue? = some i ∧ b.hexValue? = some j ∧ c.hexValue? = some k ∧
      d.hexValue? = some l ∧ u = .ofNat (((i * 16 + j) * 16 + k) * 16 + l) := by
  unfold unit?
  simp only [Option.bind_eq_bind, Option.bind_eq_some_iff, Option.pure_def, Option.some.injEq]
  constructor
  · rintro ⟨i, hi, j, hj, k, hk, l, hl, rfl⟩
    exact ⟨i, j, k, l, hi, hj, hk, hl, rfl⟩
  · rintro ⟨i, j, k, l, hi, hj, hk, hl, rfl⟩
    exact ⟨i, hi, j, hj, k, hk, l, hl, rfl⟩

variable (opening : Text) (isOpen : Bool) (read : Text)

theorem string_close (rest : Text) :
    string opening isOpen read (('"' : CodePoint) :: rest) = .ok (read.reverse, rest) := by
  rw [string.eq_def]
  dsimp only
  rw [if_pos rfl]

theorem string_raw {c : CodePoint} (hq : c ≠ '"') (hb : c ≠ '\\') (hc : 0x20 ≤ c.val)
    (rest : Text) :
    string opening isOpen read (c :: rest) = string opening false (c :: read) rest := by
  rw [string.eq_def]
  dsimp only
  rw [if_neg hq, if_neg (by omega), if_pos hb]

theorem string_escape {letter c : CodePoint} (h : (letter, c) ∈ escapes) (rest : Text) :
    string opening isOpen read (('\\' : CodePoint) :: letter :: rest) =
      string opening false (c :: read) rest := by
  have hu : letter ≠ 'u' := by
    rintro rfl
    have hnone : simpleEscape? 'u' = none := rfl
    rw [simpleEscape?_iff.mpr h] at hnone
    cases hnone
  rw [string.eq_def]
  dsimp only
  rw [if_neg (by decide), if_neg (by decide), if_neg (by decide), if_neg hu,
    simpleEscape?_iff.mpr h]

theorem string_unit {a b c d u : CodePoint} (h : unit? a b c d = some u) {rest : Text}
    (hne : rest ≠ []) :
    string opening isOpen read (('\\' : CodePoint) :: 'u' :: a :: b :: c :: d :: rest) =
      string opening u.isHighSurrogate (pushUnit isOpen u read) rest := by
  obtain ⟨next, rest, rfl⟩ := List.exists_cons_of_ne_nil hne
  rw [string, if_neg (by decide), if_neg (by decide), if_neg (by decide), if_pos rfl, h]

/-- Behind what was read already, the text is read as the pieces. A high surrogate that was read
last is held until the next piece tells whether it is half of a pair. -/
def ReadAs (opening rest body : Text) (ps : List Piece) : Prop :=
  ∀ (read : Text) (held : Option CodePoint), (∀ high ∈ held, high.isHighSurrogate = true) →
    string opening held.isSome (held.toList ++ read) (body ++ rest) =
      .ok (read.reverse ++ resolve (held.toList.map .unit ++ ps), rest)

namespace ReadAs

variable {opening rest body : Text} {ps : List Piece} {held : Option CodePoint}

theorem close (opening rest : Text) : ReadAs opening rest [('"' : CodePoint)] [] := by
  intro read held _
  rw [List.cons_append, List.nil_append, string_close]
  cases held <;> simp [resolve]

theorem point (h : ReadAs opening rest body ps) (c : CodePoint) (read : Text)
    (held : Option CodePoint) :
    string opening false (c :: (held.toList ++ read)) (body ++ rest) =
      .ok (read.reverse ++ resolve (held.toList.map .unit ++ .point c :: ps), rest) := by
  have hnext := h (c :: (held.toList ++ read)) none nofun
  simp only [Option.isSome_none, Option.toList_none, List.nil_append, List.map_nil] at hnext
  rw [hnext]
  cases held <;> simp [resolve]

/-- A low surrogate completes the pair of a high one that is held. -/
theorem low (h : ReadAs opening rest body ps) {high u : CodePoint}
    (hh : high.isHighSurrogate = true) (hl : u.isLowSurrogate = true) (read : Text) :
    string opening u.isHighSurrogate (pushUnit true u (high :: read)) (body ++ rest) =
      .ok (read.reverse ++ resolve (.unit high :: .unit u :: ps), rest) := by
  have hpush : pushUnit true u (high :: read) = .ofPair high u :: read := by
    simp [pushUnit, hl]
  have hnext := h (.ofPair high u :: read) none nofun
  simp only [Option.isSome_none, Option.toList_none, List.nil_append, List.map_nil] at hnext
  rw [hpush, isHighSurrogate_of_low hl, hnext, resolve_pair hh hl]
  simp

theorem unit (h : ReadAs opening rest body ps) {u : CodePoint}
    (hl : held.isSome = true → u.isLowSurrogate = false) (read : Text) :
    string opening u.isHighSurrogate (pushUnit held.isSome u (held.toList ++ read))
        (body ++ rest) =
      .ok (read.reverse ++ resolve (held.toList.map .unit ++ .unit u :: ps), rest) := by
  have hheld : resolve (held.toList.map .unit ++ .unit u :: ps) =
      held.toList ++ resolve (.unit u :: ps) := by
    cases held with
    | none => rfl
    | some high => exact resolve_units (hl rfl) ps
  rw [pushUnit_eq_cons hl, hheld]
  cases hu : u.isHighSurrogate with
  | true =>
    have hnext := h (held.toList ++ read) (some u) fun high hhigh => by
      rw [← Option.some.inj hhigh]
      exact hu
    simp only [Option.isSome_some, Option.toList_some, List.map_cons, List.map_nil,
      List.singleton_append] at hnext
    rw [hnext]
    cases held <;> simp
  | false =>
    have hnext := h (u :: (held.toList ++ read)) none nofun
    simp only [Option.isSome_none, Option.toList_none, List.nil_append, List.map_nil] at hnext
    rw [hnext, resolve_unit hu]
    cases held <;> simp

end ReadAs

/-- **The text of a string is read as its pieces.** -/
theorem readAs_of_quoted {body : Text} {ps : List Piece} (h : Quoted body ps) (rest : Text) :
    ReadAs opening rest body ps := by
  induction h with
  | close => exact .close opening rest
  | @piece t behind p ps first hbehind ih =>
    intro read held hheld
    have hne : behind ++ rest ≠ [] := List.append_ne_nil_of_left_ne_nil hbehind.ne_nil rest
    rw [List.append_assoc]
    cases first with
    | raw hq hb hc =>
      rw [List.cons_append, List.nil_append, string_raw opening _ _ hq hb hc]
      exact ih.point _ read held
    | escape hletter =>
      rw [List.cons_append, List.cons_append, List.nil_append, string_escape opening _ _ hletter]
      exact ih.point _ read held
    | @unit a b c d i j k l ha hb hc hd =>
      have hunit : unit? a b c d = some (.ofNat (((i * 16 + j) * 16 + k) * 16 + l)) :=
        unit?_iff.mpr ⟨i, j, k, l, ha, hb, hc, hd, rfl⟩
      generalize CodePoint.ofNat (((i * 16 + j) * 16 + k) * 16 + l) = u at hunit ⊢
      change string opening _ _
        (('\\' : CodePoint) :: 'u' :: a :: b :: c :: d :: (behind ++ rest)) = _
      rw [string_unit opening _ _ hunit hne]
      by_cases hl : held.isSome = true → u.isLowSurrogate = false
      · exact ih.unit hl read
      · push Not at hl
        obtain ⟨hsome, hlow⟩ := hl
        obtain ⟨high, rfl⟩ := Option.isSome_iff_exists.mp hsome
        exact ih.low (hheld high rfl) (by simpa using hlow) read

theorem string_quoted {body : Text} {ps : List Piece} (h : Quoted body ps) (rest : Text) :
    string opening false [] (body ++ rest) = .ok (resolve ps, rest) :=
  readAs_of_quoted opening h rest [] none nofun

/-! ### Only texts of strings are read -/

variable {opening isOpen read}

/-- **Only the text of a string is read.** -/
theorem quoted_of_string {text s rest : Text}
    (h : string opening isOpen read text = .ok (s, rest)) :
    ∃ body ps, text = body ++ rest ∧ Quoted body ps := by
  fun_induction string opening isOpen read text with
  | case2 isOpen read behind =>
    obtain ⟨-, rfl⟩ := Prod.mk.inj (Except.ok.inj h)
    exact ⟨_, [], rfl, .close⟩
  | case4 isOpen read c behind hq hc hb ih =>
    obtain ⟨body, ps, rfl, hquoted⟩ := ih h
    exact ⟨_, _, rfl, .piece (.raw hq hb (Nat.le_of_not_lt hc)) hquoted⟩
  | case6 isOpen read c _ _ hb a b d e next behind u hunit ih =>
    obtain ⟨body, ps, hbody, hquoted⟩ := ih h
    obtain ⟨i, j, k, l, ha, hb', hd, he, rfl⟩ := unit?_iff.mp hunit
    rw [not_not.mp hb, hbody]
    exact ⟨_, _, rfl, .piece (.unit ha hb' hd he) hquoted⟩
  | case9 isOpen read c _ _ hb letter behind _ d hletter ih =>
    obtain ⟨body, ps, rfl, hquoted⟩ := ih h
    rw [not_not.mp hb]
    exact ⟨_, _, rfl, .piece (.escape (simpleEscape?_iff.mp hletter)) hquoted⟩
  | case1 | case3 | case5 | case7 | case8 | case10 => cases h

theorem string_shallow {text : Text} {f : Fault}
    (h : string opening isOpen read text = .error f) : f.cause.isDeepNesting = false := by
  fun_induction string opening isOpen read text with
  | case2 => cases h
  | case4 _ _ _ _ _ _ _ ih | case6 _ _ _ _ _ _ _ _ _ _ _ _ _ _ ih
  | case9 _ _ _ _ _ _ _ _ _ _ _ ih => exact ih h
  | case1 | case3 | case5 | case7 | case8 | case10 =>
    obtain rfl := Except.error.inj h
    rfl

end Json.Reader

end Entitlement
