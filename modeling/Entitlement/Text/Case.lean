import Entitlement.Text.CaseTable

/-!
# Letter case

Lower, upper and title form of a text.  A capital sigma at the end of a word has a lower form of its
own, so lowering looks at both sides of it; in a title a letter after a letter is lowered and any
other one takes its title form.
-/

namespace Entitlement

namespace CodePoint

def isCased (c : CodePoint) : Bool := c.inRanges casedRanges

def isCaseIgnorable (c : CodePoint) : Bool := c.inRanges caseIgnorableRanges

def upperForm (c : CodePoint) : Text := c.mapBy upperSpecial upperShifts

def titleForm (c : CodePoint) : Text := c.mapBy titleSpecial titleShifts

end CodePoint

namespace Text

/-- Whether a letter comes first, code points that case ignores apart. -/
def startsCased (t : Text) : Bool :=
  match t.dropWhile CodePoint.isCaseIgnorable with
  | [] => false
  | c :: _ => c.isCased

/-- The lower form of `c` between `before`, which is reversed, and `after`. -/
def lowerForm (before : Text) (c : CodePoint) (after : Text) : Text :=
  if c = 0x3A3 then
    if startsCased before && !startsCased after then [0x3C2] else [0x3C3]
  else c.mapBy CodePoint.lowerSpecial CodePoint.lowerShifts

def lowerFrom : (before t : Text) → Text
  | _, [] => []
  | before, c :: after => lowerForm before c after ++ lowerFrom (c :: before) after

def lower (t : Text) : Text := lowerFrom [] t

def upper (t : Text) : Text := t.flatMap CodePoint.upperForm

def titleFrom : (before t : Text) → Text
  | _, [] => []
  | before, c :: after =>
    let form :=
      match before with
      | previous :: _ => if previous.isCased then lowerForm before c after else c.titleForm
      | [] => c.titleForm
    form ++ titleFrom (c :: before) after

/-- Every word with a title letter in front and lower letters after it. -/
def title (t : Text) : Text := titleFrom [] t

end Text

end Entitlement
