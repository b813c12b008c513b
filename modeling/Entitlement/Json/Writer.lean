import Entitlement.Json.Basic
import Entitlement.Numeric.Shortest

/-!
# Writing JSON text

One writer for every JSON text of the library.  A `Style` says what the uses differ in: the blanks
after separators, whether all but ASCII is escaped, and the layout of numbers.

* `Style.stored`: the text kept in the store and sent in place of a link, ASCII only;
* `Style.response`: the body of a response, compact, code points as they are;
* `Style.record`: a response record, compact, with numbers laid out tersely.
-/

namespace Entitlement

namespace Json

/-- What the JSON texts of the library differ in. -/
structure Style where
  itemSeparator : Text
  nameSeparator : Text
  /-- All but the printable ASCII characters are escaped. -/
  asciiOnly : Bool
  numbers : NumberLayout
  /-- The texts of infinity and of what is not a number; `null` for both when left out. -/
  extremes : Bool

namespace Style

def stored : Style := ⟨", ", ": ", true, .standard, true⟩

def response : Style := ⟨",", ":", false, .standard, true⟩

def record : Style := ⟨",", ":", false, .terse, false⟩

/-! ## Leaves -/

/-- An escape by number. -/
def unitEscape (n : Nat) : Text := "\\u" ++ Text.hex 4 n

/-- A code point inside a string.  Beyond the first 65536 it takes a surrogate pair. -/
def point (style : Style) (c : CodePoint) : Text :=
  if c = '"' then "\\\""
  else if c = '\\' then "\\\\"
  else if c.val = 0x08 then "\\b"
  else if c.val = 0x0C then "\\f"
  else if c.val = 0x0A then "\\n"
  else if c.val = 0x0D then "\\r"
  else if c.val = 0x09 then "\\t"
  else if c.val < 0x20 then unitEscape c.val
  else if !style.asciiOnly || c.val < 0x7F then [c]
  else if c.val < 0x10000 then unitEscape c.val
  else
    let n := c.val - 0x10000
    unitEscape (0xD800 + n / 0x400) ++ unitEscape (0xDC00 + n % 0x400)

/-- A string between quotes. -/
def string (style : Style) (s : Text) : Text :=
  ('"' : CodePoint) :: (s.flatMap style.point ++ [('"' : CodePoint)])

def number (style : Style) : Binary64 → Text
  | .finite negative exponent fraction => style.numbers.write negative exponent fraction
  | .infinite negative =>
    if style.extremes then if negative then "-Infinity" else "Infinity" else "null"
  | .nan => if style.extremes then "NaN" else "null"

end Style

/-! ## Values -/

mutual

/-- The JSON text of a value. -/
def write (style : Style) : Json → Text
  | .null => "null"
  | .bool b => if b then "true" else "false"
  | .int i => Text.ofInt i
  | .float x => style.number x
  | .string s => style.string s
  | .array items => ('[' : CodePoint) :: writeItems style [] items
  | .object members => ('\x7b' : CodePoint) :: writeMembers style [] members

/-- The items, each after a separator but for the first, and the closing bracket. -/
def writeItems (style : Style) : (separator : Text) → List Json → Text
  | _, [] => [(']' : CodePoint)]
  | separator, x :: rest =>
    separator ++ (write style x ++ writeItems style style.itemSeparator rest)

/-- The members, each after a separator but for the first, and the closing brace. -/
def writeMembers (style : Style) : (separator : Text) → List (Text × Json) → Text
  | _, [] => [('\x7d' : CodePoint)]
  | separator, (name, x) :: rest =>
    separator ++ (style.string name ++ (style.nameSeparator
      ++ (write style x ++ writeMembers style style.itemSeparator rest)))

end

/-- The text of a value as the store keeps it. -/
def storedText (json : Json) : Text := json.write .stored

mutual

/-- Whether no integer in the value is too long to be written, and so to be read again. -/
def isWritable : Json → Bool
  | .int i => (Text.decimal i.natAbs).length ≤ Text.numeralLimit
  | .array items => itemsWritable items
  | .object members => membersWritable members
  | _ => true

def itemsWritable : List Json → Bool
  | [] => true
  | x :: rest => isWritable x && itemsWritable rest

def membersWritable : List (Text × Json) → Bool
  | [] => true
  | (_, x) :: rest => isWritable x && membersWritable rest

end

end Json

end Entitlement
