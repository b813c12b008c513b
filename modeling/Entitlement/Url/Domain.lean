import Entitlement.Fault.Basic
import Entitlement.Text.Composition
import Entitlement.Text.Punycode
import Entitlement.Text.Quoted
import Entitlement.Url.DomainTable

/-!
# Internationalized domain names

A domain name is a list of labels with points between them.  A label that is not ASCII is written
with the mark `xn--` in front and in Punycode; before that it has to pass the rules for labels.

* `Domain.checkLabel`: composed, hyphens and marks in their places, only permitted code points, some
  of them only beside certain others, and one direction;
* `Domain.encode`: a domain name in ASCII;
* `Domain.checkEncoded`: whether a domain name in ASCII can be read back.
-/

namespace Entitlement

namespace Domain

/-! ## What can be wrong -/

/-- What is wrong with a domain name. -/
inductive Flaw where
  | longName
  | longLabel
  | noLabel
  | notComposed
  | innerHyphens
  | outerHyphen
  | leadingMark
  | forbidden (point : CodePoint) (position : Nat) (label : Text)
  | badJoiner (point : CodePoint) (position : Nat) (label : Text)
  | badContext (point : CodePoint) (position : Nat) (label : Text)
  | badStart (label : Text)
  | mixedDirections (position : Nat) (rightToLeft : Bool)
  | mixedDigits
  | badEnd
  | emptyEncoding
  | openEncoding
  | badEncoding
  deriving DecidableEq

namespace Flaw

/-- The number of a code point as it is quoted. -/
def pointText (c : CodePoint) : Text :=
  let digits := (Text.inBase 16 c.val).upperAscii
  "U+" ++ (List.replicate (4 - digits.length) ('0' : CodePoint) ++ digits)

def message : Flaw → Text
  | longName => "Domain too long"
  | longLabel => "Label too long"
  | noLabel => "Empty Label"
  | notComposed => "Label must be in Normalization Form C"
  | innerHyphens => "Label has disallowed hyphens in 3rd and 4th position"
  | outerHyphen => "Label must not start or end with a hyphen"
  | leadingMark => "Label begins with an illegal combining character"
  | forbidden c position label =>
    "Codepoint " ++ pointText c ++ " at position " ++ Text.decimal position ++ " of "
      ++ label.quoted ++ (" not allowed" : Text)
  | badJoiner c position label =>
    "Joiner " ++ pointText c ++ " not allowed at position " ++ Text.decimal position ++ " in "
      ++ label.quoted
  | badContext c position label =>
    "Codepoint " ++ pointText c ++ " not allowed at position " ++ Text.decimal position ++ " in "
      ++ label.quoted
  | badStart label =>
    "First codepoint in label " ++ label.quoted ++ (" must be directionality L, R or AL" : Text)
  | mixedDirections position rightToLeft =>
    "Invalid direction for codepoint at position " ++ Text.decimal position ++ " in a "
      ++ (if rightToLeft then "right-to-left" else "left-to-right") ++ (" label" : Text)
  | mixedDigits => "Can not mix numeral types in a right-to-left label"
  | badEnd => "Label ends with illegal codepoint directionality"
  | emptyEncoding => "Malformed A-label, no Punycode eligible content found"
  | openEncoding => "A-label must not end with a hyphen"
  | badEncoding => "Invalid A-label"

def kind : Flaw → Kind
  | forbidden .. => Kind.domainPoint
  | badJoiner .. | badContext .. => Kind.domainContext
  | badStart _ | mixedDirections .. | mixedDigits | badEnd => Kind.domainDirection
  | _ => Kind.domain

def fault (flaw : Flaw) : Fault := .failure flaw.kind flaw.message

end Flaw

/-! ## Code points -/

/-- Whether the code point may stand anywhere in a label. -/
def isPermitted (c : CodePoint) : Bool :=
  permittedRuns.any fun (first, last, step) =>
    first ≤ c.val && c.val ≤ last && (c.val - first) % step = 0

def isMark (c : CodePoint) : Bool := c.inRanges nonspacingRanges || c.inRanges spacingRanges

/-- Whether the code point joins letters or keeps them apart. -/
def isJoiner (c : CodePoint) : Bool := c = 0x200C || c = 0x200D

/-- The two rows of digits that must not be mixed. -/
def isArabicDigit (c : CodePoint) : Bool := 0x660 ≤ c.val && c.val ≤ 0x669

def isPersianDigit (c : CodePoint) : Bool := 0x6F0 ≤ c.val && c.val ≤ 0x6F9

/-- Whether the code point may stand only beside certain others. -/
def isContextual (c : CodePoint) : Bool :=
  [0xB7, 0x375, 0x5F3, 0x5F4, 0x30FB].contains c.val || isArabicDigit c || isPersianDigit c

/-- Whether letters join across the code point. -/
def isTransparent (c : CodePoint) : Bool :=
  (c.inRanges nonspacingRanges && !c.inRanges intransparentRanges) || c.inRanges transparentRanges

/-- Whether the first letter joins with what follows it. -/
def joinsForward (c : CodePoint) : Bool :=
  c.inRanges leftJoiningRanges || c.inRanges dualJoiningRanges

/-- Whether the first letter joins with what stands before it. -/
def joinsBackward (c : CodePoint) : Bool :=
  c.inRanges rightJoiningRanges || c.inRanges dualJoiningRanges

/-- Whether the first code point that is not passed over is one of a class. -/
def meets (p : CodePoint → Bool) (t : Text) : Bool := ((t.dropWhile isTransparent).head?).any p

/-- Whether a joiner may stand after `before`, which is reversed, and before `after`: a mark that
takes the vowel comes before it, or it keeps two letters apart that would join. -/
def joinerFits (c : CodePoint) (before after : Text) : Bool :=
  before.head?.any (fun d => d.combiningClass = CodePoint.vowelKiller)
    || (c = 0x200C && meets joinsForward before && meets joinsBackward after)

/-- Whether a contextual code point may stand in a label, after `before`, which is reversed, and
before `after`: a middle dot between two `l`, a numeral sign before Greek, Hebrew punctuation after
Hebrew, a Katakana dot among Japanese, digits of one row without the other. -/
def contextFits (c : CodePoint) (label before after : Text) : Bool :=
  let isL (c : CodePoint) : Bool := c = 'l'
  if c = 0xB7 then before.head?.any isL && after.head?.any isL
  else if c = 0x375 then after.head?.any (·.inRanges greekRanges)
  else if c = 0x5F3 ∨ c = 0x5F4 then before.head?.any (·.inRanges hebrewRanges)
  else if c = 0x30FB then label.any fun d => d ≠ 0x30FB && d.inRanges japaneseRanges
  else if isArabicDigit c then !label.any isPersianDigit
  else !label.any isArabicDigit

/-- Looks at the code points of a label one after another; `before` is reversed. -/
def checkPoints (label : Text) : (before after : Text) → Except Flaw Unit
  | _, [] => .ok ()
  | before, c :: after =>
    let position := before.length + 1
    if isPermitted c then checkPoints label (c :: before) after
    else if isJoiner c then
      if joinerFits c before after then checkPoints label (c :: before) after
      else .error (.badJoiner c position label)
    else if isContextual c then
      if contextFits c label before after then checkPoints label (c :: before) after
      else .error (.badContext c position label)
    else .error (.forbidden c position label)

/-! ## Directions -/

/-- How a code point goes with a direction. -/
inductive Direction where
  | leftToRight
  | rightToLeft
  | arabicDigit
  | digit
  | mark
  | neutral
  deriving DecidableEq

namespace Direction

def ofPoint (c : CodePoint) : Direction :=
  if c.inRanges rightToLeftRanges then .rightToLeft
  else if c.inRanges arabicDigitRanges then .arabicDigit
  else if c.inRanges digitRanges then .digit
  else if c.inRanges neutralRanges then .neutral
  else if c.inRanges nonspacingRanges then .mark
  else .leftToRight

/-- Whether a code point calls for the rules of two directions. -/
def isRightToLeft (d : Direction) : Bool := d = .rightToLeft || d = .arabicDigit

/-- Whether the code point may stand in a label of one direction. -/
def fits (rightToLeft : Bool) (d : Direction) : Bool :=
  if rightToLeft then d ≠ .leftToRight else !d.isRightToLeft

/-- Whether a label of one direction may end here. -/
def ends (rightToLeft : Bool) (d : Direction) : Bool :=
  if rightToLeft then d.isRightToLeft || d = .digit else d = .leftToRight || d = .digit

end Direction

/-- Looks at the directions in a label from a position on.  In a label from right to left, `digits`
is the row of digits that has been met. -/
def checkRow (rightToLeft : Bool) :
    (position : Nat) → (digits : Option Direction) → List Direction → Except Flaw Unit
  | _, _, [] => .ok ()
  | position, digits, d :: rest =>
    if !d.fits rightToLeft then .error (.mixedDirections position rightToLeft)
    else if rightToLeft && (d = .digit || d = .arabicDigit) then
      if digits.any (· ≠ d) then .error .mixedDigits
      else checkRow rightToLeft (position + 1) (some d) rest
    else checkRow rightToLeft (position + 1) digits rest

/-- A label with letters from right to left begins with a letter, whose direction the others follow,
and ends with a letter or a digit, marks apart. -/
def checkDirections (label : Text) : Except Flaw Unit :=
  let row := label.map Direction.ofPoint
  if !row.any Direction.isRightToLeft then .ok ()
  else
    match row.head? with
    | some .rightToLeft => checkFrom row true
    | some .leftToRight => checkFrom row false
    | _ => .error (.badStart label)
where
  checkFrom (row : List Direction) (rightToLeft : Bool) : Except Flaw Unit := do
    checkRow rightToLeft 1 none row
    let last := (row.reverse.dropWhile (· = .mark)).head?
    if last.any (·.ends rightToLeft) then return () else throw .badEnd

/-! ## Labels -/

/-- The longest name that is looked at, a point at its end counted. -/
def nameLimit : Nat := 254

/-- The longest label in ASCII. -/
def labelLimit : Nat := 63

def isHyphen (c : CodePoint) : Bool := c = '-'

/-- Why a label is refused, if it is. -/
def checkLabel (label : Text) : Except Flaw Unit := do
  if label = [] then throw .noLabel
  if nameLimit < label.length then throw .longLabel
  if !label.isComposed then throw .notComposed
  if ((label.drop 2).take 2) = Text.ofString "--" then throw .innerHyphens
  if label.head?.any isHyphen || label.getLast?.any isHyphen then throw .outerHyphen
  if label.head?.any isMark then throw .leadingMark
  checkPoints label [] label
  checkDirections label

/-- The mark of a label in Punycode. -/
def encodedMark : Text := "xn--"

/-- Why a label in ASCII is refused, if it is. -/
def checkAscii (label : Text) : Except Flaw Unit :=
  let label := label.lowerAscii
  match Text.dropPrefix? encodedMark label with
  | none => checkLabel label
  | some [] => .error .emptyEncoding
  | some code =>
    if code.getLast?.any isHyphen then .error .openEncoding
    else
      match Punycode.decode? code with
      | some label => checkLabel label
      | none => .error .badEncoding

/-- A label in ASCII. -/
def encodeLabel (label : Text) : Except Flaw Text := do
  let code ←
    if label.all CodePoint.isAscii then do
      checkAscii label
      pure label
    else do
      checkLabel label
      pure (encodedMark ++ Punycode.encode label)
  if labelLimit < code.length then throw .longLabel
  return code

/-! ## Names -/

/-- The points between labels: the full stop, and the ones of other scripts. -/
def isPoint (c : CodePoint) : Bool := [0x2E, 0x3002, 0xFF0E, 0xFF61].contains c.val

/-- The labels of a name; a point may follow the last one. -/
def labels (name : Text) : List Text :=
  let pieces := Text.splitOn '.' (name.map fun c => if isPoint c then '.' else c)
  if pieces.getLast? = some [] then pieces.dropLast else pieces

/-- A name in ASCII. -/
def encode (name : Text) : Except Flaw Text := do
  if nameLimit < name.length then throw .longName
  let codes ← (labels name).mapM encodeLabel
  let dotted : Bool := name.getLast?.any isPoint
  let code := Text.joinWith "." (if dotted then codes ++ [[]] else codes)
  if (if dotted then nameLimit else nameLimit - 1) < code.length then throw .longName
  return code

/-- Why a name in ASCII cannot be read back, if it cannot. -/
def checkEncoded (name : Text) : Except Flaw Unit := do
  if nameLimit < name.length then throw .longName
  (labels name).forM checkAscii

end Domain

end Entitlement
