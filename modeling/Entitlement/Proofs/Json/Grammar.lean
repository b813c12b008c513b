import Entitlement.Proofs.Json.Members
import Entitlement.Proofs.Json.Numeral
import Entitlement.Proofs.Json.Pieces

/-! # The grammar of JSON

What it is for a text to be JSON, and the value that it denotes, without regard to how it is read. A
string is spelled by pieces between quotes (`Quoted`), of which only two escaped units in a row can
stand for one code point (`resolve`); a number has the parts of a numeral (`SpellsNumeral`); arrays
and objects list their entries between blanks and commas (`Enclosed`). Values denote by recursion on
how deep arrays and objects stand in one another (`Denotes`), and a text is a value between blanks
(`IsText`). The members of an object keep the place of the first mention of their name and have the
value of the last (`settle`). -/

namespace Entitlement

namespace Json.Grammar

open Reader

/-! ### Values -/

/-- **A value that is neither an array nor an object.** A number is an integer if it has neither a
point nor an exponent, and then it has at most 4300 digits; any other is a floating point number. -/
inductive Scalar : Text → Json → Prop
  | null : Scalar "null" .null
  | isTrue : Scalar "true" (.bool true)
  | isFalse : Scalar "false" (.bool false)
  | string {body : Text} {ps : List Piece} (h : Quoted body ps) :
    Scalar (('"' : CodePoint) :: body) (.string (resolve ps))
  | integer {t : Text} {n : Reader.Numeral} (h : SpellsNumeral t n) (hfraction : n.fraction = [])
    (hexponent : n.exponent = none) (limit : n.whole.length ≤ 4300) :
    Scalar t (.int
      (if n.negative then -(Text.digitsValue n.whole : Int) else Text.digitsValue n.whole))
  | decimal {t : Text} {n : Reader.Numeral} (h : SpellsNumeral t n)
    (hpoint : n.fraction ≠ [] ∨ n.exponent ≠ none) :
    Scalar t (.float (.ofDecimal n.negative (Text.digitsValue (n.whole ++ n.fraction))
      (n.exponent.getD 0 - n.fraction.length)))

/-- Spaces, tabs, line feeds and carriage returns. -/
def Blanks (t : Text) : Prop := ∀ c ∈ t, c = ' ' ∨ c = '\t' ∨ c = '\n' ∨ c = '\r'

variable {α : Type}

/-- A core between blanks. -/
inductive Padded (Core : Text → α → Prop) : Text → α → Prop
  | intro {before core behind : Text} {x : α} (hbefore : Blanks before) (h : Core core x)
    (hbehind : Blanks behind) : Padded Core (before ++ (core ++ behind)) x

/-- Entries between blanks with a comma between two of them, up to and with a closing mark. -/
inductive Listed (close : CodePoint) (Core : Text → α → Prop) : Text → List α → Prop
  | last {t : Text} {x : α} (h : Padded Core t x) : Listed close Core (t ++ [close]) [x]
  | cons {t rest : Text} {x : α} {xs : List α} (first : Padded Core t x)
    (h : Listed close Core rest xs) : Listed close Core (t ++ (',' : CodePoint) :: rest) (x :: xs)

/-- Entries behind an opening mark, if there are any. -/
inductive Enclosed (close : CodePoint) (Core : Text → α → Prop) : Text → List α → Prop
  | empty {blanks : Text} (h : Blanks blanks) : Enclosed close Core (blanks ++ [close]) []
  | listed {t : Text} {xs : List α} (h : Listed close Core t xs) : Enclosed close Core t xs

/-- A member of an object: a name, a colon between blanks, and a value. -/
inductive IsMember (Core : Text → Json → Prop) : Text → Text × Json → Prop
  | intro {body before behind core : Text} {ps : List Piece} {v : Json} (hname : Quoted body ps)
    (hbefore : Blanks before) (hbehind : Blanks behind) (h : Core core v) :
    IsMember Core
      (('"' : CodePoint) :: (body ++ (before ++ (':' : CodePoint) :: (behind ++ core))))
      (resolve ps, v)

/-- The members that mentions come to: each name once, at the place of its first mention and with
the value of the last. -/
def settle : List (Text × Json) → Members
  | [] => []
  | (name, v) :: rest =>
    (name, (Members.get? rest.reverse name).getD v) :: settle (Members.erase rest name)
termination_by mentions => mentions.length
decreasing_by exact Nat.lt_succ_of_le (List.length_filter_le _ _)

/-- Setting the mentioned members one by one gives what they come to. -/
theorem ofList_eq_settle (mentions : List (Text × Json)) :
    Members.ofList mentions = settle mentions := by
  fun_induction settle mentions with
  | case1 => rfl
  | case2 name v rest ih =>
    rw [← ih]
    exact Members.insertAll_cons name v [] rest

/-- **The value that a text denotes**, over given leaves, where arrays and objects stand at most
`depth` deep in one another. -/
def Denotes (Leaf : Text → Json → Prop) : (depth : Nat) → Text → Json → Prop
  | 0, t, v => Leaf t v
  | depth + 1, t, v =>
    Leaf t v ∨
    (∃ body items, t = ('[' : CodePoint) :: body ∧ Enclosed ']' (Denotes Leaf depth) body items ∧
      v = .array items) ∨
    ∃ body mentions, t = ('\x7b' : CodePoint) :: body ∧
      Enclosed '\x7d' (IsMember (Denotes Leaf depth)) body mentions ∧ v = .object (settle mentions)

/-- **A JSON text and its value.** -/
def IsText (t : Text) (v : Json) : Prop := ∃ depth, Padded (Denotes Scalar depth) t v

/-- The number of brackets and braces that open. -/
def openings (t : Text) : Nat := t.countP fun c : CodePoint => c = '[' ∨ c = '\x7b'

end Json.Grammar

end Entitlement
