import Entitlement.Json.Decoded
import Entitlement.Proofs.Json.Accepted
import Entitlement.Proofs.Json.Number
import Entitlement.Proofs.Json.Quoted

/-! # Values written and read

The text of a value is read back as one value (`read_write`), whatever the value holds: infinities,
lone surrogates, and names that are written alike. What is read is the value with the pairs of its
strings joined and the members of each object set one after another (`reread`); numbers come back as
they are. It takes that the integers can be written and that the nesting stays within the limit of
the reader. -/

namespace Entitlement

namespace Json

/-! ### Nesting -/

mutual

/-- How deep arrays and objects stand in one another. -/
def nesting : Json → Nat
  | .array items => itemsNesting items + 1
  | .object members => membersNesting members + 1
  | _ => 0

def itemsNesting : List Json → Nat
  | [] => 0
  | x :: rest => max (nesting x) (itemsNesting rest)

def membersNesting : List (Text × Json) → Nat
  | [] => 0
  | (_, x) :: rest => max (nesting x) (membersNesting rest)

end

theorem membersNesting_le_iff {members : Members} {n : Nat} :
    membersNesting members ≤ n ↔ ∀ m ∈ members, m.2.nesting ≤ n := by
  induction members with
  | nil => simp [membersNesting]
  | cons m members ih => simp [membersNesting, ih]

theorem itemsNesting_le_iff {items : List Json} {n : Nat} :
    itemsNesting items ≤ n ↔ ∀ x ∈ items, x.nesting ≤ n := by
  induction items with
  | nil => simp [itemsNesting]
  | cons x items ih => simp [itemsNesting, ih]

theorem itemsWritable_iff {items : List Json} :
    itemsWritable items = true ↔ ∀ x ∈ items, x.isWritable = true := by
  induction items with
  | nil => simp [itemsWritable]
  | cons x items ih => simp [itemsWritable, ih]

theorem membersWritable_iff {members : Members} :
    membersWritable members = true ↔ ∀ m ∈ members, m.2.isWritable = true := by
  induction members with
  | nil => simp [membersWritable]
  | cons m members ih => simp [membersWritable, ih]

/-! ### What is read back -/

mutual

/-- The value that the text of a value is read as. -/
def reread (style : Style) : Json → Json
  | .string s => .string (style.reread s)
  | .array items => .array (rereadItems style items)
  | .object members => .object (rereadMembers style [] members)
  | json => json

def rereadItems (style : Style) : List Json → List Json
  | [] => []
  | x :: rest => reread style x :: rereadItems style rest

/-- The members set one after another, behind those that were read. -/
def rereadMembers (style : Style) : (read : Members) → List (Text × Json) → Members
  | read, [] => read
  | read, (name, x) :: rest =>
    rereadMembers style (Members.insert read (style.reread name) (reread style x)) rest

end

namespace Style

/-- A mark of the grammar with blanks behind it. -/
def IsMark (mark : CodePoint) (separator : Text) : Prop :=
  ∃ blanks, separator = mark :: blanks ∧ ∀ c ∈ blanks, Reader.isBlank c = true

/-- The texts of the style are JSON with all its numbers. -/
structure Readable (style : Style) : Prop where
  items : IsMark ',' style.itemSeparator
  names : IsMark ':' style.nameSeparator
  extremes : style.extremes = true

theorem blank_isBlank : ∀ c ∈ [(' ' : CodePoint)], Reader.isBlank c = true := fun c hc => by
  rw [List.mem_singleton.mp hc]
  rfl

theorem stored_readable : stored.Readable :=
  ⟨⟨[(' ' : CodePoint)], rfl, blank_isBlank⟩, ⟨[(' ' : CodePoint)], rfl, blank_isBlank⟩, rfl⟩

theorem response_readable : response.Readable := ⟨⟨[], rfl, nofun⟩, ⟨[], rfl, nofun⟩, rfl⟩

end Style

namespace Reader

open Grammar

/-! ### Leaves -/

/-- The parts of the text of an integer. -/
def intLiteral (i : Int) : Literal := ⟨decide (i < 0), Text.decimal i.natAbs, [], none⟩

theorem intLiteral_wellFormed (i : Int) : (intLiteral i).WellFormed :=
  ⟨Literal.isWhole_decimal _, nofun, nofun⟩

theorem intLiteral_text (i : Int) : (intLiteral i).text = Text.ofInt i := by
  unfold Text.ofInt Literal.text Literal.signText intLiteral
  by_cases h : i < 0 <;> simp [h, Literal.fractionText, Literal.exponentText]

theorem scalar_int {i : Int} (hw : (Json.int i).isWritable = true) :
    Scalar (Text.ofInt i) (.int i) := by
  rw [← intLiteral_text]
  refine denoted_of_value (Literal.spelled (intLiteral_wellFormed i)) ?_
  have hlen : ¬ Text.numeralLimit < (Text.decimal i.natAbs).length := by
    simpa [isWritable] using hw
  unfold Numeral.value Literal.numeral intLiteral
  dsimp only [Option.map_none]
  rw [if_neg hlen, Text.digitsValue_decimal]
  by_cases h : i < 0
  · simp only [h, decide_true, if_true]
    congr 2
    omega
  · simp only [h, decide_false, Bool.false_eq_true, if_false]
    congr 2
    omega

variable {style : Style}

theorem extended_number (hs : style.Readable) (x : Binary64) :
    Extended lenient (style.number x) (.float x) := by
  have constant : ∀ {t : Text}, style.number x = t → (t, .float x) ∈ extraConstants →
      Extended lenient (style.number x) (.float x) := by
    rintro t rfl hmem
    exact .constant rfl hmem
  cases x with
  | finite negative exponent fraction =>
    obtain ⟨l, hl, rfl, hpoint, hvalue, ht⟩ :=
      style.numbers.write_literal negative exponent fraction
    rw [show style.number (.finite l.negative exponent fraction) = l.text from ht]
    refine .scalar (denoted_of_value (Literal.spelled hl) ?_)
    rw [Literal.value_numeral hpoint, Binary64.ofDecimal_congr l.negative hvalue,
      Shortest.decimal_reads_back]
  | infinite negative =>
    cases negative with
    | false => exact constant (if_pos hs.extremes) (by simp [extraConstants])
    | true => exact constant (if_pos hs.extremes) (by simp [extraConstants])
  | nan => exact constant (if_pos hs.extremes) (by simp [extraConstants])

theorem scalar_string (style : Style) (s : Text) :
    Scalar (style.string s) (.string (style.reread s)) := by
  obtain ⟨ps, hquoted, hresolve⟩ := quoted_write style s
  rw [← hresolve]
  exact .string hquoted

theorem extended_write (hs : style.Readable) {v : Json} (hv : v.nesting = 0)
    (hw : v.isWritable = true) : Extended lenient (write style v) (v.reread style) := by
  cases v with
  | null => exact .scalar .null
  | bool b =>
    cases b with
    | false => exact .scalar .isFalse
    | true => exact .scalar .isTrue
  | int i => exact .scalar (scalar_int hw)
  | float x => exact extended_number hs x
  | string s => exact .scalar (scalar_string style s)
  | array items => cases hv
  | object members => cases hv

/-! ### Items and members -/

theorem listed_cons {α : Type} {Core : Text → α → Prop} {close : CodePoint} {t rest : Text} {x : α}
    {xs : List α} (hs : style.Readable) (first : Core t x) (h : Listed close Core rest xs) :
    Listed close Core (t ++ (style.itemSeparator ++ rest)) (x :: xs) := by
  obtain ⟨blanks, hsep, hblank⟩ := hs.items
  rw [hsep]
  exact .cons (.core first) (h.behind_blanks fun c hc => isBlank_iff.mp (hblank c hc))

variable {Core : Text → Json → Prop}

theorem listed_items (hs : style.Readable) (items : List Json) {x : Json}
    (h : ∀ y ∈ x :: items, Core (write style y) (y.reread style)) :
    Listed ']' Core (write style x ++ writeItems style style.itemSeparator items)
      (rereadItems style (x :: items)) := by
  obtain ⟨hx, hitems⟩ := List.forall_mem_cons.mp h
  induction items generalizing x with
  | nil => exact .last (.core hx)
  | cons y items ih =>
    obtain ⟨hy, hrest⟩ := List.forall_mem_cons.mp hitems
    exact listed_cons hs hx (ih hitems hy hrest)

theorem enclosed_items (hs : style.Readable) (items : List Json)
    (h : ∀ y ∈ items, Core (write style y) (y.reread style)) :
    Enclosed ']' Core (writeItems style [] items) (rereadItems style items) := by
  cases items with
  | nil =>
    have hblanks : Blanks [] := nofun
    exact .empty hblanks
  | cons x items => exact .listed (listed_items hs items h)

/-- What a member is read back as. -/
def mention (style : Style) (m : Text × Json) : Text × Json :=
  (style.reread m.1, m.2.reread style)

theorem member_write (hs : style.Readable) (name : Text) {x : Json}
    (h : Core (write style x) (x.reread style)) :
    IsMember Core (style.string name ++ (style.nameSeparator ++ write style x))
      (mention style (name, x)) := by
  obtain ⟨blanks, hsep, hblank⟩ := hs.names
  obtain ⟨ps, hquoted, hresolve⟩ := quoted_write style name
  have hbefore : Blanks [] := nofun
  have hbehind : Blanks blanks := fun c hc => isBlank_iff.mp (hblank c hc)
  unfold mention
  rw [hsep, ← hresolve]
  exact .intro hquoted hbefore hbehind h

theorem listed_members (hs : style.Readable) (members : Members) {name : Text} {x : Json}
    (h : ∀ m ∈ (name, x) :: members, Core (write style m.2) (m.2.reread style)) :
    Listed '\x7d' (IsMember Core)
      (style.string name ++ (style.nameSeparator ++
        (write style x ++ writeMembers style style.itemSeparator members)))
      (((name, x) :: members).map (mention style)) := by
  obtain ⟨hx, hmembers⟩ := List.forall_mem_cons.mp h
  have hfirst := member_write hs name hx
  rw [← List.append_assoc style.nameSeparator, ← List.append_assoc]
  induction members generalizing name x with
  | nil => exact .last (.core hfirst)
  | cons m members ih =>
    obtain ⟨name', y⟩ := m
    obtain ⟨hy, hrest⟩ := List.forall_mem_cons.mp hmembers
    have hlisted := ih hmembers hy hrest (member_write hs name' hy)
    rw [List.append_assoc, List.append_assoc] at hlisted
    exact listed_cons hs hfirst hlisted

theorem enclosed_members (hs : style.Readable) (members : Members)
    (h : ∀ m ∈ members, Core (write style m.2) (m.2.reread style)) :
    Enclosed '\x7d' (IsMember Core) (writeMembers style [] members)
      (members.map (mention style)) := by
  cases members with
  | nil =>
    have hblanks : Blanks [] := nofun
    exact .empty hblanks
  | cons m members => exact .listed (listed_members hs members h)

theorem rereadMembers_eq (style : Style) (read members : Members) :
    rereadMembers style read members = Members.insertAll read (members.map (mention style)) := by
  induction members generalizing read with
  | nil => rfl
  | cons m members ih => exact ih _

/-! ### Values -/

/-- **The text of a value denotes what it is read back as.** -/
theorem denotes_write (hs : style.Readable) {depth : Nat} {v : Json} (hd : v.nesting ≤ depth)
    (hw : v.isWritable = true) :
    Denotes (Extended lenient) depth (write style v) (v.reread style) := by
  induction depth generalizing v with
  | zero => exact extended_write hs (Nat.le_zero.mp hd) hw
  | succ depth ih =>
    cases v with
    | array items =>
      have hread : ∀ x ∈ items,
          Denotes (Extended lenient) depth (write style x) (x.reread style) := by
        intro x hx
        have hdepth := itemsNesting_le_iff.mp (Nat.le_of_succ_le_succ hd)
        exact ih (hdepth x hx) (itemsWritable_iff.mp hw x hx)
      exact .inr (.inl ⟨_, _, rfl, enclosed_items hs items hread, rfl⟩)
    | object members =>
      have hread : ∀ m ∈ members,
          Denotes (Extended lenient) depth (write style m.2) (m.2.reread style) := by
        intro m hm
        have hdepth := membersNesting_le_iff.mp (Nat.le_of_succ_le_succ hd)
        exact ih (hdepth m hm) (membersWritable_iff.mp hw m hm)
      refine .inr (.inr ⟨_, _, rfl, enclosed_members hs members hread, ?_⟩)
      rw [reread, rereadMembers_eq, ← ofList_eq_settle]
      rfl
    | _ => exact .inl (extended_write hs rfl hw)

end Reader

/-- **The text of a value is read as one value**, the value itself with pairs joined and the members
of objects set one after another. -/
theorem read_write {style : Style} (hs : style.Readable) {v : Json}
    (hd : v.nesting ≤ Reader.depthLimit) (hw : v.isWritable = true) :
    read Reader.lenient (write style v) = .ok (v.reread style) := by
  have hdenotes := Reader.denotes_write hs hd hw
  rcases read_complete (Reader.extended_leaves _) (.core hdenotes) with hread | ⟨hdeep, -⟩
  · exact hread
  · exact absurd hdeep (Nat.lt_irrefl _)

theorem decode_storedText {v : Json} (hd : v.nesting ≤ Reader.depthLimit)
    (hw : v.isWritable = true) : decode v.storedText = .ok (v.reread .stored) := by
  unfold decode
  rw [storedText, read_write Style.stored_readable hd hw]
  rfl

/-! ### Members read back -/

/-- **What is found under a name** that reading back keeps. -/
theorem get?_rereadMembers {style : Style} {name : Text} (keeps : style.Keeps name)
    {members : Members} (distinct : Members.Distinct members) (read : Members) :
    Members.get? (rereadMembers style read members) name =
      match Members.get? members name with
      | some v => some (v.reread style)
      | none => Members.get? read name := by
  induction members generalizing read with
  | nil => rfl
  | cons m members ih =>
    obtain ⟨n, v⟩ := m
    obtain ⟨hn, hd⟩ := List.nodup_cons.mp distinct
    rw [rereadMembers, ih hd, Members.get?_insert, Members.get?_cons]
    by_cases h : n = name
    · subst h
      have hnone : Members.get? members n = none := List.lookup_eq_none_iff.mpr fun m hm => by
        refine bne_iff_ne.mpr fun he => hn ?_
        exact List.mem_map.mpr ⟨m, hm, he.symm⟩
      rw [hnone, if_pos ((keeps n).mpr rfl), if_pos rfl]
    · rw [if_neg fun he => h ((keeps n).mp he), if_neg h]

end Json

end Entitlement
