import Entitlement.Json.Decoded
import Entitlement.Proofs.Json.Roundtrip

/-! # What a reader gives

What is read is denoted, so a property of values that the leaves have, and that arrays and objects
have of their parts, holds of whatever is read (`Grammar.Closed.denotes`, `Document.read_closed`). A
reader that goes `depth` deep gives values that are nested no deeper, and in each of their objects a
name occurs once (`Json.Fits`, `Document.read_fits`); and what is decoded can be written again
(`Json.decode_plain`). -/

namespace Entitlement

namespace Json

/-- The value is nested at most `depth` deep, and the names of each object are distinct. -/
inductive Fits : (depth : Nat) → Json → Prop where
  | scalar {depth : Nat} {v : Json} (h : v.nesting = 0) : Fits depth v
  | array {depth : Nat} {items : List Json} (h : ∀ x ∈ items, Fits depth x) :
    Fits (depth + 1) (.array items)
  | object {depth : Nat} {members : Members} (distinct : Members.Distinct members)
    (h : ∀ m ∈ members, Fits depth m.2) : Fits (depth + 1) (.object members)

theorem Fits.nesting_le {depth : Nat} {v : Json} (h : Fits depth v) : v.nesting ≤ depth := by
  induction h with
  | scalar h => omega
  | array _ ih =>
    rw [nesting]
    exact Nat.succ_le_succ (itemsNesting_le_iff.mpr ih)
  | object _ _ ih =>
    rw [nesting]
    exact Nat.succ_le_succ (membersNesting_le_iff.mpr ih)

theorem Fits.mono {depth depth' : Nat} {v : Json} (h : Fits depth v) (hle : depth ≤ depth') :
    Fits depth' v := by
  induction h generalizing depth' with
  | scalar h => exact .scalar h
  | array _ ih =>
    obtain ⟨d, rfl⟩ : ∃ d, depth' = d + 1 := ⟨depth' - 1, by omega⟩
    exact .array fun x hx => ih x hx (by omega)
  | object distinct _ ih =>
    obtain ⟨d, rfl⟩ : ∃ d, depth' = d + 1 := ⟨depth' - 1, by omega⟩
    exact .object distinct fun m hm => ih m hm (by omega)

theorem Fits.of_object {depth : Nat} {members : Members} (h : Fits depth (.object members)) :
    Members.Distinct members ∧ ∀ m ∈ members, ∃ d, Fits d m.2 := by
  cases h with
  | scalar h => cases h
  | object distinct h => exact ⟨distinct, fun m hm => ⟨_, h m hm⟩⟩

/-! ### Leaves -/

namespace Reader

open Grammar

variable {options : Options} {t : Text} {v : Json}

theorem scalar_plain (h : Scalar t v) : v.nesting = 0 ∧ v.isWritable = true := by
  cases h with
  | null | isTrue | isFalse | string | decimal => exact ⟨rfl, rfl⟩
  | @integer _ n hspells _ _ limit =>
    refine ⟨rfl, ?_⟩
    have hdigits : n.whole ≠ [] ∧ ∀ c ∈ n.whole, c.isDigit = true := by
      cases hspells with
      | intro hwhole _ _ => exact ⟨hwhole.1, hwhole.2.1⟩
    have habs : (if n.negative then -(Text.digitsValue n.whole : Int)
        else Text.digitsValue n.whole).natAbs = Text.digitsValue n.whole := by
      split <;> simp
    rw [isWritable, habs]
    have hpos := List.length_pos_of_ne_nil hdigits.1
    have hlength := Text.length_decimal_le hpos (Text.digitsValue_lt hdigits.2)
    exact decide_eq_true (Nat.le_trans hlength limit)

theorem extended_plain (h : Extended options t v) : v.nesting = 0 ∧ v.isWritable = true := by
  cases h with
  | scalar h => exact scalar_plain h
  | constant _ h =>
    have hall : ∀ entry ∈ extraConstants, entry.2.nesting = 0 ∧ entry.2.isWritable = true := by
      decide
    exact hall _ h

end Reader

/-! ### Values -/

namespace Grammar

variable {α : Type} {close : CodePoint} {Core : Text → α → Prop}

theorem Padded.core_of {t : Text} {x : α} (h : Padded Core t x) : ∃ core, Core core x := by
  cases h with
  | intro _ hcore _ => exact ⟨_, hcore⟩

theorem Listed.core_of {t : Text} {xs : List α} (h : Listed close Core t xs) :
    ∀ x ∈ xs, ∃ core, Core core x := by
  induction h with
  | last h =>
    intro x hx
    rw [List.mem_singleton.mp hx]
    exact h.core_of
  | cons first _ ih =>
    intro x hx
    rcases List.mem_cons.mp hx with rfl | hx
    · exact first.core_of
    · exact ih x hx

theorem Enclosed.core_of {t : Text} {xs : List α} (h : Enclosed close Core t xs) :
    ∀ x ∈ xs, ∃ core, Core core x := by
  cases h with
  | empty _ => exact nofun
  | listed h => exact h.core_of

theorem IsMember.core_of {Core : Text → Json → Prop} {t : Text} {m : Text × Json}
    (h : IsMember Core t m) : ∃ core, Core core m.2 := by
  cases h with
  | intro _ _ _ hcore => exact ⟨_, hcore⟩

/-- The property holds of the leaves at any depth, of an array if it holds of the items, and of an
object if it holds of the members. -/
structure Closed (Leaf : Text → Json → Prop) (P : (depth : Nat) → Json → Prop) : Prop where
  leaf : ∀ {t : Text} {v : Json} (depth : Nat), Leaf t v → P depth v
  array : ∀ {depth : Nat} {items : List Json}, (∀ x ∈ items, P depth x) →
    P (depth + 1) (.array items)
  object : ∀ {depth : Nat} {members : Members}, Members.Distinct members →
    (∀ m ∈ members, P depth m.2) → P (depth + 1) (.object members)

/-- **What the parts of a value hand on holds of the value that is denoted.** -/
theorem Closed.denotes {Leaf : Text → Json → Prop} {P : (depth : Nat) → Json → Prop}
    (closed : Closed Leaf P) {depth : Nat} {t : Text} {v : Json} (h : Denotes Leaf depth t v) :
    P depth v := by
  induction depth generalizing t v with
  | zero => exact closed.leaf 0 h
  | succ depth ih =>
    rcases h with hleaf | ⟨body, items, -, henclosed, rfl⟩ | ⟨body, mentions, -, henclosed, rfl⟩
    · exact closed.leaf _ hleaf
    · refine closed.array fun x hx => ?_
      obtain ⟨core, hcore⟩ := henclosed.core_of x hx
      exact ih hcore
    · rw [← ofList_eq_settle]
      refine closed.object (Members.Distinct.nil.insertAll mentions) fun m hm => ?_
      have hmention : m ∈ mentions := (Members.mem_insertAll hm).resolve_left nofun
      obtain ⟨core, hcore⟩ := henclosed.core_of m hmention
      obtain ⟨value, hvalue⟩ := hcore.core_of
      exact ih hvalue

end Grammar

namespace Reader

open Grammar

theorem fits_closed (options : Options) : Closed (Extended options) Fits where
  leaf _ h := .scalar (extended_plain h).1
  array := .array
  object := .object

theorem writable_closed (options : Options) :
    Closed (Extended options) fun _ v => v.isWritable = true where
  leaf _ h := (extended_plain h).2
  array h := itemsWritable_iff.mpr h
  object _ h := membersWritable_iff.mpr h

end Reader

/-! ### Texts and documents -/

open Reader Grammar

variable {options : Options} {P : (depth : Nat) → Json → Prop}

theorem readBody_closed (closed : Closed (Extended options) P) {text : Text} {v : Json}
    (h : readBody options text = .ok v) : P depthLimit v := by
  obtain ⟨core, hcore⟩ := (readBody_sound (extended_sound options) h).core_of
  exact closed.denotes hcore

theorem read_closed (closed : Closed (Extended options) P) {text : Text} {v : Json}
    (h : read options text = .ok v) : P depthLimit v := by
  obtain ⟨core, hcore⟩ := (read_sound (extended_sound options) h).core_of
  exact closed.denotes hcore

end Json

theorem mapError_eq_ok {ε ε' α : Type} {f : ε → ε'} {e : Except ε α} {a : α}
    (h : e.mapError f = .ok a) : e = .ok a := by
  cases e with
  | error fault => cases h
  | ok b =>
    cases h
    rfl

namespace Document

variable {options : Json.Reader.Options} {document : Document} {v : Json}

theorem read_closed {P : (depth : Nat) → Json → Prop}
    (closed : Json.Grammar.Closed (Json.Reader.Extended options) P)
    (h : document.read options = .ok v) : P Json.Reader.depthLimit v := by
  unfold Document.read at h
  split at h
  · exact Json.read_closed closed (mapError_eq_ok h)
  · split at h
    · exact Json.readBody_closed closed (mapError_eq_ok h)
    · cases h

theorem read_fits (h : document.read options = .ok v) : v.Fits Json.Reader.depthLimit :=
  read_closed (Json.Reader.fits_closed options) h

end Document

namespace Json

/-- **A text that is decoded gives a value that can be written**, nested no deeper than the reader
goes. -/
theorem decode_plain {text : Text} {v : Json} (h : decode text = .ok v) :
    v.Fits Reader.depthLimit ∧ v.isWritable = true :=
  ⟨read_closed (Reader.fits_closed _) (mapError_eq_ok h),
    read_closed (Reader.writable_closed _) (mapError_eq_ok h)⟩

end Json

end Entitlement
