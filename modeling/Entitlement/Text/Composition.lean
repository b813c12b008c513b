import Entitlement.Text.CompositionTable

/-!
# Composed texts

A letter with marks can be written in several ways.  The composed form takes every letter apart,
puts the marks after it in the order of their classes, and joins again what makes one letter.

* `Text.decomposed`, `Text.ordered`, `Text.joined`: the three steps;
* `Text.isComposed`: the text is its own composed form.
-/

namespace Entitlement

namespace CodePoint

/-- The class of a mark; `0` for marks that stay in their place, and for everything else. -/
def combiningClass (c : CodePoint) : Nat :=
  match combiningClasses.find? fun (first, last, _) => first ≤ c.val && c.val ≤ last with
  | some (_, _, n) => n
  | none => 0

/-- The class of the marks that take the vowel away from a letter. -/
def vowelKiller : Nat := 9

/-- The letter and the mark of which a letter is composed. -/
def parts? (c : CodePoint) : Option (CodePoint × CodePoint) :=
  (compositions.lookup c.val).map fun (letter, mark) => (.ofNat letter, .ofNat mark)

/-- The letter that is composed of two code points. -/
def joined? (letter mark : CodePoint) : Option CodePoint :=
  (compositions.find? fun (_, l, m) => l = letter.val && m = mark.val).map fun (c, _) => .ofNat c

/-- The code points of which a letter is composed.  No letter has more than `depth` marks. -/
def decomposed : (depth : Nat) → CodePoint → Text
  | 0, c => [c]
  | depth + 1, c =>
    match c.parts? with
    | some (letter, mark) => decomposed depth letter ++ [mark]
    | none => [c]

/-- The most marks in one letter. -/
def mostMarks : Nat := 3

end CodePoint

namespace Text

def decomposed (t : Text) : Text := t.flatMap (CodePoint.decomposed CodePoint.mostMarks)

/-- Puts a code point in front, a mark behind the marks of lower classes. -/
def place (c : CodePoint) : Text → Text
  | [] => [c]
  | d :: rest =>
    if 0 < d.combiningClass ∧ d.combiningClass < c.combiningClass then d :: place c rest
    else c :: d :: rest

def ordered (t : Text) : Text := t.foldr place []

/-- Joins the letter with the marks after it where nothing stands between them: a mark that was not
joined, `blocking` being its class, keeps off others of its class.  The marks that are passed over
wait in reverse. -/
def joinFrom (letter : CodePoint) : (waiting : Text) → (blocking : Option Nat) → Text → Text
  | waiting, _, [] => letter :: waiting.reverse
  | waiting, blocking, c :: rest =>
    let joined? :=
      if blocking.all (· < c.combiningClass) then CodePoint.joined? letter c else none
    match joined? with
    | some letter => joinFrom letter waiting blocking rest
    | none =>
      if c.combiningClass = 0 then letter :: (waiting.reverse ++ joinFrom c [] none rest)
      else joinFrom letter (c :: waiting) (some c.combiningClass) rest

def joined : Text → Text
  | [] => []
  | c :: rest => if c.combiningClass = 0 then joinFrom c [] none rest else c :: joined rest

/-- Whether the text is composed. -/
def isComposed (t : Text) : Bool := joined (ordered (decomposed t)) = t

end Text

end Entitlement
