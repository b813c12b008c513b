import Entitlement.Text.Printable

/-!
# Quoted texts in messages

A message shows a text between quotes: single ones, unless it holds a single quote and no double
one.  The quote and the backslash are escaped, line feed, carriage return and tab have short
escapes, and what cannot be printed is written by its number in two, four or eight digits.
-/

namespace Entitlement

namespace Text

/-- A code point by its number. -/
def numberEscape (c : CodePoint) : Text :=
  if c.val < 0x100 then "\\x" ++ hex 2 c.val
  else if c.val < 0x10000 then "\\u" ++ hex 4 c.val
  else "\\U" ++ hex 8 c.val

/-- One code point between quotes. -/
def quotedPoint (quote c : CodePoint) : Text :=
  if c = quote || c = '\\' then [('\\' : CodePoint), c]
  else if c = '\n' then "\\n"
  else if c = '\r' then "\\r"
  else if c = '\t' then "\\t"
  else if c.isPrintable then [c]
  else numberEscape c

def quoted (t : Text) : Text :=
  let quote : CodePoint := if t.contains '\'' && !t.contains '"' then '"' else '\''
  quote :: (t.flatMap (quotedPoint quote) ++ [quote])

end Text

end Entitlement
