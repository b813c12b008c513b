import Entitlement.Identifier
import Entitlement.Proofs.Text.Hexadecimal

/-! # Texts read as a UUID

A text spells a UUID if 32 hexadecimal digits are left of it, once the marks, the braces at its ends
and the hyphens are dropped, and they stand for its value (`Uuid.Spells`). The reader of integers,
which takes what is left, allows more than digits: blanks at the ends, a plus, the mark of the base,
underscores between digits, and blanks and digits of other scripts (`Uuid.Writes`). What is read is
exactly this (`Uuid.read?_eq_some_iff`); it is spelled just where nothing but digits is left
(`Uuid.spells_iff`). The canonical form is spelled in any case of its letters
(`Uuid.spells_text`). -/

namespace Entitlement

namespace Uuid

open Text

/-- The text spells the UUID in digits. -/
structure Spells (t : Text) (u : Uuid) : Prop where
  length : (core t).length = 32
  digits : ∀ c ∈ core t, c.isHex = true
  value : hexValue (core t) = u.value.val

/-- The mark of base sixteen in either case, with the underscore that may stand behind it. -/
inductive IsMark : Text → Prop where
  | none : IsMark []
  | base {x : CodePoint} (hx : x = 'x' ∨ x = 'X') : IsMark ['0', x]
  | broken {x : CodePoint} (hx : x = 'x' ∨ x = 'X') : IsMark ['0', x, '_']

/-- A number in base sixteen as it is read: digits in groups, with what may stand around them. -/
structure Written (t : Text) (n : Nat) where
  before : Text
  sign : Text
  mark : Text
  digits : Text
  after : Text
  eq : t = before ++ (sign ++ mark ++ digits) ++ after
  blankBefore : ∀ c ∈ before, c.isAsciiBlank = true
  blankAfter : ∀ c ∈ after, c.isAsciiBlank = true
  signed : sign = "" ∨ sign = "+"
  marked : IsMark mark
  groups : ∀ piece ∈ splitOn '_' digits, AreDigits piece
  value : hexValue (digits.filter (· ≠ ('_' : CodePoint))) = n

/-- What is left of the text, brought to ASCII, is the UUID as a number in base sixteen. -/
structure Writes (t : Text) (u : Uuid) : Prop where
  length : (core t).length = 32
  written : ∃ ascii, (core t).mapM toAscii? = some ascii ∧ Nonempty (Written ascii u.value.val)

/-! ### Marks and signs -/

theorem dropBase_base {x : CodePoint} (hx : x = 'x' ∨ x = 'X') (rest : Text) :
    dropBase ('0' :: x :: rest) =
      match rest with
      | u :: rest' => if u = '_' then rest' else rest
      | [] => rest := if_pos ⟨rfl, hx⟩

theorem exists_dropBase (t : Text) : ∃ mark, IsMark mark ∧ t = mark ++ dropBase t := by
  have hkept : dropBase t = t → ∃ mark, IsMark mark ∧ t = mark ++ dropBase t :=
    fun h => ⟨[], .none, h.symm⟩
  match t, hkept with
  | [], hkept => exact hkept rfl
  | [z], hkept => exact hkept rfl
  | z :: x :: rest, hkept =>
    by_cases h : z = '0' ∧ (x = 'x' ∨ x = 'X')
    · obtain ⟨rfl, hx⟩ := h
      rw [dropBase_base hx]
      cases rest with
      | nil => exact ⟨_, .base hx, rfl⟩
      | cons u rest =>
        dsimp only
        by_cases hu : u = '_'
        · rw [if_pos hu, hu]
          exact ⟨_, .broken hx, rfl⟩
        · rw [if_neg hu]
          exact ⟨_, .base hx, rfl⟩
    · exact hkept (if_neg h)

theorem dropBase_append {mark digits : Text} (hmark : IsMark mark)
    (groups : ∀ piece ∈ splitOn '_' digits, AreDigits piece) :
    dropBase (mark ++ digits) = digits := by
  cases hmark with
  | none =>
    match digits, groups with
    | [], _ => rfl
    | [z], _ => rfl
    | z :: x :: rest, groups =>
      refine if_neg fun ⟨_, hx⟩ => ?_
      have hgroup := isHex_of_mem_groups groups (List.mem_cons_of_mem z List.mem_cons_self)
      rcases hx with rfl | rfl <;> revert hgroup <;> decide
  | base hx =>
    refine (dropBase_base hx digits).trans ?_
    cases digits with
    | nil => rfl
    | cons c rest =>
      refine if_neg fun hc => ?_
      rw [hc, splitOn, if_pos rfl] at groups
      exact (groups [] List.mem_cons_self).nonempty rfl
  | broken hx => exact dropBase_base hx (('_' : CodePoint) :: digits)

theorem exists_splitSign {t : Text} (h : ('-' : CodePoint) ∉ t) :
    ∃ sign : Text, (sign = "" ∨ sign = "+") ∧ t = sign ++ (splitSign t).2 ∧
      (splitSign t).1 = false := by
  unfold splitSign
  cases t with
  | nil => exact ⟨"", .inl rfl, rfl, rfl⟩
  | cons c rest =>
    dsimp only
    rw [if_neg fun hc : c = '-' => h (hc ▸ List.mem_cons_self)]
    split
    · next hc => exact ⟨"+", .inr rfl, by rw [hc]; rfl, rfl⟩
    · exact ⟨"", .inl rfl, rfl, rfl⟩

theorem splitSign_append {sign rest : Text} (hsign : sign = "" ∨ sign = "+")
    (hrest : ∀ c ∈ rest.head?, c ≠ '+' ∧ c ≠ '-') :
    splitSign (sign ++ rest) = (false, rest) := by
  rcases hsign with rfl | rfl
  · cases rest with
    | nil => rfl
    | cons c rest =>
      obtain ⟨hplus, hminus⟩ := hrest c rfl
      exact (if_neg hminus).trans (if_neg hplus)
  · rfl

/-! ### The reader of integers -/

/-- Neither a blank nor a sign. -/
def isPlain (c : CodePoint) : Bool := !c.isAsciiBlank && c != '+' && c != '-'

theorem isPlain_iff {c : CodePoint} :
    isPlain c = true ↔ c.isAsciiBlank = false ∧ c ≠ '+' ∧ c ≠ '-' := by
  simp [isPlain, and_assoc]

theorem isPlain_of_isHex {c : CodePoint} (h : c.isHex = true) : isPlain c = true := by
  have hrange := CodePoint.isHex_iff.mp h
  refine isPlain_iff.mpr ⟨?_, ?_, ?_⟩
  · simp only [CodePoint.isAsciiBlank, Bool.or_eq_false_iff, Bool.and_eq_false_iff,
      decide_eq_false_iff_not]
    omega
  · rintro rfl
    cases h
  · rintro rfl
    cases h

theorem IsMark.isPlain {mark : Text} (h : IsMark mark) : mark.all isPlain = true := by
  cases h with
  | none => rfl
  | base hx => rcases hx with rfl | rfl <;> rfl
  | broken hx => rcases hx with rfl | rfl <;> rfl

theorem Written.isPlain {t : Text} {n : Nat} (w : Written t n) {c : CodePoint}
    (hc : c ∈ w.mark ++ w.digits) : isPlain c = true := by
  rcases List.mem_append.mp hc with hc | hc
  · exact List.all_eq_true.mp w.marked.isPlain c hc
  · rcases isHex_of_mem_groups w.groups hc with rfl | hhex
    · rfl
    · exact isPlain_of_isHex hhex

theorem Written.strip_eq {t : Text} {n : Nat} (w : Written t n) :
    strip CodePoint.isAsciiBlank t = w.sign ++ (w.mark ++ w.digits) := by
  have hbody : ∀ c ∈ w.sign ++ w.mark ++ w.digits, c.isAsciiBlank = false := by
    intro c hc
    rw [List.append_assoc] at hc
    rcases List.mem_append.mp hc with hc | hc
    · rcases w.signed with hsign | hsign <;> rw [hsign] at hc
      · cases hc
      · rw [List.mem_singleton.mp hc]
        rfl
    · exact (isPlain_iff.mp (w.isPlain hc)).1
  have hstrip := strip_append w.blankBefore w.blankAfter hbody
  rw [← w.eq] at hstrip
  rw [hstrip, List.append_assoc]

theorem integer?_eq {t ascii : Text} (hascii : t.mapM toAscii? = some ascii) :
    integer? t =
      (digitsIn? 16 true 0 (dropBase (splitSign (strip CodePoint.isAsciiBlank ascii)).2)).map
        fun n : Nat =>
          if (splitSign (strip CodePoint.isAsciiBlank ascii)).1 then -(n : Int) else n := by
  unfold integer? numeral?
  rw [hascii, Option.map_some, Option.bind_eq_bind, Option.bind_some]
  rcases splitSign (strip CodePoint.isAsciiBlank ascii) with ⟨negative, digits⟩
  dsimp only
  cases digitsIn? 16 true 0 (dropBase digits) <;> rfl

/-- What is read is written. -/
theorem written_of_integer? {t ascii : Text} (hascii : t.mapM toAscii? = some ascii)
    (hminus : ('-' : CodePoint) ∉ ascii) {i : Int} (h : integer? t = some i) :
    ∃ n : Nat, i = n ∧ Nonempty (Written ascii n) := by
  obtain ⟨before, after, hsplit, hbefore, hafter⟩ := exists_strip CodePoint.isAsciiBlank ascii
  have hnone : ('-' : CodePoint) ∉ strip CodePoint.isAsciiBlank ascii := fun hmem => hminus (by
    rw [hsplit]
    exact List.mem_append_left _ (List.mem_append_right _ hmem))
  obtain ⟨sign, hsign, hrest, hfalse⟩ := exists_splitSign hnone
  obtain ⟨mark, hmark, hdigits⟩ :=
    exists_dropBase (splitSign (strip CodePoint.isAsciiBlank ascii)).2
  rw [integer?_eq hascii, Option.map_eq_some_iff] at h
  obtain ⟨n, hn, hi⟩ := h
  obtain ⟨hgroups, hvalue⟩ := digitsIn?_eq_some_iff.mp hn
  rw [hfalse, if_neg Bool.false_ne_true] at hi
  refine ⟨n, hi.symm, ⟨⟨before, sign, mark, _, after, ?_, hbefore, hafter, hsign, hmark, hgroups,
    hvalue⟩⟩⟩
  rw [List.append_assoc sign, ← hdigits, ← hrest]
  exact hsplit

theorem Written.integer? {t ascii : Text} (hascii : t.mapM toAscii? = some ascii) {n : Nat}
    (w : Written ascii n) : Uuid.integer? t = some (n : Int) := by
  have hsign : splitSign (strip CodePoint.isAsciiBlank ascii) = (false, w.mark ++ w.digits) := by
    rw [w.strip_eq]
    exact splitSign_append w.signed fun c hc =>
      (isPlain_iff.mp (w.isPlain (List.mem_of_mem_head? hc))).2
  rw [integer?_eq hascii, hsign, dropBase_append w.marked w.groups,
    digitsIn?_eq_some_iff.mpr ⟨w.groups, w.value⟩]
  rfl

/-! ### What is read -/

theorem hyphen_notMem_core (t : Text) : ('-' : CodePoint) ∉ core t := fun h =>
  of_decide_eq_true (List.mem_filter.mp h).2 rfl

theorem read?_eq {t : Text} (hlength : (core t).length = 32) :
    read? t = (integer? (core t)).bind fun i =>
      if h : 0 ≤ i ∧ i.toNat < Nat.pow 2 128 then some ⟨⟨i.toNat, h.2⟩⟩ else none := by
  unfold read?
  exact if_neg (not_not.mpr hlength)

/-- **What is read** is what the text writes. -/
theorem read?_eq_some_iff {t : Text} {u : Uuid} : read? t = some u ↔ Writes t u := by
  constructor
  · intro h
    have hlength : (core t).length = 32 := by
      by_contra hne
      have hnone : read? t = none := if_pos hne
      rw [hnone] at h
      cases h
    rw [read?_eq hlength, Option.bind_eq_some_iff] at h
    obtain ⟨i, hi, hu⟩ := h
    obtain ⟨ascii, hascii⟩ : ∃ ascii, (core t).mapM toAscii? = some ascii := by
      cases hascii : (core t).mapM toAscii? with
      | some ascii => exact ⟨ascii, rfl⟩
      | none =>
        unfold integer? numeral? at hi
        rw [hascii] at hi
        cases hi
    obtain ⟨n, rfl, hwritten⟩ := written_of_integer? hascii
      (hyphen_notMem_of_mapM hascii (hyphen_notMem_core t)) hi
    split at hu
    · obtain rfl := Option.some.inj hu
      exact ⟨hlength, ascii, hascii, hwritten⟩
    · cases hu
  · rintro ⟨hlength, ascii, hascii, ⟨w⟩⟩
    rw [read?_eq hlength, w.integer? hascii, Option.bind_some, dif_pos ⟨by omega, u.value.isLt⟩]
    rfl

/-! ### What is spelled -/

theorem Spells.writes {t : Text} {u : Uuid} (h : Spells t u) : Writes t u := by
  have hunder : ('_' : CodePoint) ∉ core t := fun hc => Bool.noConfusion (h.digits _ hc)
  have hnil : core t ≠ [] := fun he => by
    have := h.length
    rw [he] at this
    cases this
  have hfilter : (core t).filter (· ≠ ('_' : CodePoint)) = core t :=
    List.filter_eq_self.mpr fun c hc => decide_eq_true fun he => hunder (he ▸ hc)
  refine ⟨h.length, core t, mapM_toAscii? fun c hc => ?_, ⟨⟨[], [], [], core t, [], ?_, nofun, nofun,
    .inl rfl, .none, ?_, ?_⟩⟩⟩
  · have hrange := CodePoint.isHex_iff.mp (h.digits c hc)
    exact decide_eq_true (by omega)
  · exact (List.append_nil _).symm
  · rw [splitOn_of_notMem hunder, List.forall_mem_singleton]
    exact ⟨hnil, h.digits⟩
  · rw [hfilter]
    exact h.value

/-- **A text that writes a UUID spells it** if nothing but digits is left of the text. -/
theorem spells_iff {t : Text} {u : Uuid} :
    Spells t u ↔ Writes t u ∧ ∀ c ∈ core t, c.isHex = true := by
  refine ⟨fun h => ⟨h.writes, h.digits⟩, fun ⟨hwrites, hdigits⟩ => ?_⟩
  have hlt : hexValue (core t) < 2 ^ 128 := by
    have hvalue := hexValue_lt (core t)
    rw [hwrites.length] at hvalue
    exact hvalue
  -- the digits spell some UUID, and two of them are not read
  have hspells : Spells t ⟨⟨_, hlt⟩⟩ := ⟨hwrites.length, hdigits, rfl⟩
  have hread := (read?_eq_some_iff.mpr hwrites).symm.trans (read?_eq_some_iff.mpr hspells.writes)
  rw [Option.some.inj hread]
  exact hspells

/-! ### The canonical form -/

theorem filter_text (u : Uuid) :
    u.text.filter (· ≠ ('-' : CodePoint)) = Text.hex 32 u.value.val := by
  have hlength : (Text.hex 32 u.value.val).length = 32 := length_hex _ _
  have hkept : ∀ c ∈ Text.hex 32 u.value.val, c ≠ '-' := fun c hc =>
    (isPlain_iff.mp (isPlain_of_isHex (isHex_of_mem_hex hc))).2.2
  have htext : u.text = joinWith [('-' : CodePoint)]
      ([(0, 8), (8, 4), (12, 4), (16, 4), (20, 12)].map fun cut =>
        ((Text.hex 32 u.value.val).drop cut.1).take cut.2) := rfl
  rw [htext, filter_joinWith]
  generalize Text.hex 32 u.value.val = digits at hlength hkept
  have hgroups : ∀ cuts : List (Nat × Nat),
      (cuts.map fun cut => (digits.drop cut.1).take cut.2).map
          (List.filter (· ≠ ('-' : CodePoint))) =
        cuts.map fun cut => (digits.drop cut.1).take cut.2 := by
    intro cuts
    rw [List.map_map]
    exact List.map_congr_left fun cut _ => List.filter_eq_self.mpr fun c hc =>
      decide_eq_true (hkept c (List.mem_of_mem_drop (List.mem_of_mem_take hc)))
  have hcut : ∀ {first count next : Nat}, first + count = next →
      (digits.drop first).take count ++ digits.drop next = digits.drop first := by
    rintro first count _ rfl
    rw [← List.drop_drop, List.take_append_drop]
  have hlast : (digits.drop 20).take 12 = digits.drop 20 :=
    List.take_of_length_le (by rw [List.length_drop, hlength])
  rw [hgroups]
  simp only [List.map_cons, List.map_nil, List.flatten_cons, List.flatten_nil, List.append_nil]
  rw [hlast, hcut rfl, hcut rfl, hcut rfl]
  exact hcut rfl

theorem mem_text {u : Uuid} {c : CodePoint} (h : c ∈ u.text) :
    c = '-' ∨ ∃ k < 16, c = CodePoint.hexDigit k := by
  by_cases hc : c = '-'
  · exact .inl hc
  · have hmem : c ∈ u.text.filter (· ≠ ('-' : CodePoint)) :=
      List.mem_filter.mpr ⟨h, decide_eq_true hc⟩
    rw [filter_text] at hmem
    exact .inr (exists_of_mem_hex hmem)

theorem lowerAscii_eq_hyphen {c : CodePoint} : c.lowerAscii = '-' ↔ c = '-' := by
  unfold CodePoint.lowerAscii
  split
  · next h =>
    have hval : (CodePoint.ofNat (c.val + 0x20)).val = c.val + 0x20 :=
      CodePoint.val_ofNat (by omega)
    have hhyphen : (('-' : Char) : CodePoint).val = 0x2D := rfl
    rw [Fin.ext_iff, Fin.ext_iff, hval]
    omega
  · exact Iff.rfl

theorem isHex_of_mem_text {t : Text} {u : Uuid} (h : t.lowerAscii = u.text) {c : CodePoint}
    (hc : c ∈ t) : c = '-' ∨ c.isHex = true := by
  have hmem : c.lowerAscii ∈ u.text := h ▸ List.mem_map_of_mem hc
  rcases mem_text hmem with hhyphen | ⟨k, hk, hdigit⟩
  · exact .inl (lowerAscii_eq_hyphen.mp hhyphen)
  · right
    rw [← CodePoint.isHex_lowerAscii, hdigit, CodePoint.isHex, CodePoint.hexValue?_hexDigit k hk]
    rfl

/-- Of the canonical form, in any case of its letters, only the hyphens are dropped. -/
theorem core_eq {t : Text} {u : Uuid} (h : t.lowerAscii = u.text) :
    core t = t.filter (· ≠ ('-' : CodePoint)) := by
  have hmem : ∀ c ∈ t, c = '-' ∨ c.isHex = true := fun c hc => isHex_of_mem_text h hc
  have hcolon : (':' : CodePoint) ∉ t := fun hc =>
    (hmem _ hc).elim (by decide) fun h => Bool.noConfusion h
  have hbraces : strip (fun c => c = '\x7b' ∨ c = '\x7d') t = t := by
    have hno : ∀ c ∈ t, decide (c = '\x7b' ∨ c = '\x7d') = false := by
      intro c hc
      refine decide_eq_false fun hbrace => ?_
      rcases hbrace with rfl | rfl
      · exact (hmem _ hc).elim (by decide) fun h => Bool.noConfusion h
      · exact (hmem _ hc).elim (by decide) fun h => Bool.noConfusion h
    have hstrip : strip _ ([] ++ t ++ []) = t := strip_append nofun nofun hno
    rwa [List.nil_append, List.append_nil] at hstrip
  have hurn : dropEvery "urn:" t = t := dropEvery_of_notMem (by decide) hcolon
  have huuid : dropEvery "uuid:" t = t := dropEvery_of_notMem (by decide) hcolon
  unfold core
  dsimp only
  rw [hurn, huuid, hbraces]

theorem spells_text {t : Text} {u : Uuid} (h : t.lowerAscii = u.text) : Spells t u := by
  have hcore := core_eq h
  have hlower : (core t).lowerAscii = Text.hex 32 u.value.val := by
    rw [hcore, ← filter_text, ← h, lowerAscii, lowerAscii, List.filter_map]
    congr 1
    refine List.filter_congr fun c _ => decide_eq_decide.mpr ?_
    exact not_congr lowerAscii_eq_hyphen.symm
  refine ⟨?_, ?_, ?_⟩
  · rw [← length_hex 32 u.value.val, ← hlower, lowerAscii, List.length_map]
  · intro c hc
    rw [hcore] at hc
    obtain ⟨hmem, hne⟩ := List.mem_filter.mp hc
    exact (isHex_of_mem_text h hmem).resolve_left (of_decide_eq_true hne)
  · rw [← hexValue_lowerAscii, hlower]
    exact hexValue_hex (by have := u.value.isLt; exact this)

end Uuid

end Entitlement
