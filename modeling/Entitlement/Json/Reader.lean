import Entitlement.Json.Basic
import Entitlement.Text.Encoding

/-!
# Reading JSON text

A recursive descent reader over the list of code points.  Nesting is the recursion of `value`; the
items of one array and the members of one object are read by loops that take the reader of an item
as an argument.  A fault keeps the text that is left at the place of the fault, from which its
position, line and column follow.

A text is accepted as JSON with three liberties: an `Options` value may admit the constants `NaN`,
`Infinity` and `-Infinity`; an escaped surrogate without its partner stays as it is; and nesting and
the length of integers are limited.
-/

namespace Entitlement

namespace Json.Reader

/-- What a reader admits. -/
structure Options where
  /-- The constants `NaN`, `Infinity` and `-Infinity` are numbers. -/
  constants : Bool

/-- Everything is admitted. -/
def lenient : Options := ⟨true⟩

/-- The constants are refused. -/
def strict : Options := ⟨false⟩

/-- The nesting at which reading gives up, and writing as well. -/
def depthLimit : Nat := 990

/-- Why a text is not read. -/
inductive Cause where
  | expectingValue
  | expectingName
  | expectingColon
  | expectingComma
  | extraData
  | unterminatedString
  | controlCharacter
  | badEscape
  | badUnicodeEscape
  | byteOrderMark
  | refusedConstant (name : Text)
  | longInteger (digits : Nat)
  /-- In an object, or in an array. -/
  | deepNesting (inObject : Bool)
  deriving DecidableEq

/-- A cause, and the text that was left where it arose. -/
structure Fault where
  cause : Cause
  rest : Text
  deriving DecidableEq

namespace Cause

/-- The wording of a cause, without its place. -/
def wording : Cause → Text
  | .expectingValue => "Expecting value"
  | .expectingName => "Expecting property name enclosed in double quotes"
  | .expectingColon => "Expecting ':' delimiter"
  | .expectingComma => "Expecting ',' delimiter"
  | .extraData => "Extra data"
  | .unterminatedString => "Unterminated string starting at"
  | .controlCharacter => "Invalid control character at"
  | .badEscape => "Invalid \\escape"
  | .badUnicodeEscape => "Invalid \\uXXXX escape"
  | .byteOrderMark => "Unexpected UTF-8 BOM (decode using utf-8-sig)"
  | .refusedConstant name => "non-standard JSON constant " ++ name
  | .longInteger digits =>
    "Exceeds the limit (" ++ Text.decimal Text.numeralLimit
      ++ " digits) for integer string conversion: value has " ++ Text.decimal digits
      ++ " digits; use sys.set_int_max_str_digits() to increase the limit"
  | .deepNesting inObject =>
    "maximum recursion depth exceeded while decoding a JSON "
      ++ (if inObject then ("object" : Text) else "array") ++ " from a unicode string"

/-- Whether the cause is told with its place in the text. -/
def hasPlace : Cause → Bool
  | .refusedConstant _ | .longInteger _ | .deepNesting _ => false
  | _ => true

/-- Whether reading gave up because of the nesting. -/
def isDeepNesting : Cause → Bool
  | .deepNesting _ => true
  | _ => false

end Cause

namespace Fault

/-- The number of code points before the fault. -/
def position (f : Fault) (whole : Text) : Nat := whole.length - f.rest.length

/-- Where in `whole` the fault is: line, column and position. -/
def place (f : Fault) (whole : Text) : Text :=
  let before := whole.take (f.position whole)
  let newline : CodePoint := '\n'
  let line := 1 + before.count newline
  let column := 1 + (before.reverse.takeWhile (· ≠ newline)).length
  "line " ++ Text.decimal line ++ " column " ++ Text.decimal column ++ " (char "
    ++ Text.decimal before.length ++ ")"

def message (f : Fault) (whole : Text) : Text :=
  if f.cause.hasPlace then f.cause.wording ++ (": " : Text) ++ f.place whole else f.cause.wording

end Fault

/-! ## Leaves -/

/-- The four blanks that may stand between tokens. -/
def isBlank (c : CodePoint) : Bool :=
  c.val = 0x20 || c.val = 0x09 || c.val = 0x0A || c.val = 0x0D

def skipBlank (text : Text) : Text := text.dropWhile isBlank

/-- What a one-letter escape stands for. -/
def simpleEscape? (c : CodePoint) : Option CodePoint :=
  if c = '"' ∨ c = '\\' ∨ c = '/' then some c
  else if c = 'b' then some 0x08
  else if c = 'f' then some 0x0C
  else if c = 'n' then some 0x0A
  else if c = 'r' then some 0x0D
  else if c = 't' then some 0x09
  else none

/-- The unit that four hexadecimal digits write. -/
def unit? (a b c d : CodePoint) : Option CodePoint := do
  let a ← a.hexValue?
  let b ← b.hexValue?
  let c ← c.hexValue?
  let d ← d.hexValue?
  return .ofNat (((a * 16 + b) * 16 + c) * 16 + d)

/-- Puts an escaped unit after what was read, in reverse.  `isOpen` says that the last one was an
escaped high surrogate, which a low one completes. -/
def pushUnit (isOpen : Bool) (unit : CodePoint) : Text → Text
  | high :: read =>
    if isOpen && unit.isLowSurrogate then .ofPair high unit :: read else unit :: high :: read
  | [] => [unit]

/-- Reads a string after its opening quote, with what was read so far in reverse.  `opening` is the
text from the opening quote on. -/
def string (opening : Text) : (isOpen : Bool) → (read : Text) → Text → Except Fault (Text × Text)
  | _, _, [] => .error ⟨.unterminatedString, opening⟩
  | isOpen, read, c :: rest =>
    if c = '"' then .ok (read.reverse, rest)
    else if c.val < 0x20 then .error ⟨.controlCharacter, c :: rest⟩
    else if c ≠ '\\' then string opening false (c :: read) rest
    else
      match rest with
      | [] => .error ⟨.unterminatedString, opening⟩
      | e :: rest' =>
        if e = 'u' then
          match rest' with
          | h₁ :: h₂ :: h₃ :: h₄ :: next :: rest'' =>
            match unit? h₁ h₂ h₃ h₄ with
            | some unit =>
              string opening unit.isHighSurrogate (pushUnit isOpen unit read) (next :: rest'')
            | none => .error ⟨.badUnicodeEscape, rest⟩
          | _ => .error ⟨.badUnicodeEscape, rest⟩
        else
          match simpleEscape? e with
          | some d => string opening false (d :: read) rest'
          | none => .error ⟨.badEscape, c :: rest⟩

/-! ## Numbers -/

/-- The parts of a number: the digits before the point, the digits after it, and the exponent. -/
structure Numeral where
  negative : Bool
  whole : Text
  fraction : Text
  exponent : Option Int

namespace Numeral

/-- The digits before the point: a zero alone, or digits that start with no zero. -/
def readWhole? (text : Text) : Option (Text × Text) :=
  match text with
  | c :: rest =>
    if c = '0' then some ([c], rest)
    else if c.isDigit then some (text.span CodePoint.isDigit)
    else none
  | [] => none

/-- A point with at least one digit after it, if there is one. -/
def readFraction (text : Text) : Text × Text :=
  match text with
  | c :: rest =>
    if c = '.' then
      match rest.span CodePoint.isDigit with
      | ([], _) => ([], text)
      | (digits, rest) => (digits, rest)
    else ([], text)
  | [] => ([], text)

/-- The sign of an exponent, which may be left out. -/
def readSign (text : Text) : Bool × Text :=
  match text with
  | c :: rest =>
    if c = '-' then (true, rest) else if c = '+' then (false, rest) else (false, text)
  | [] => (false, text)

/-- An exponent mark with at least one digit after it, if there is one. -/
def readExponent (text : Text) : Option Int × Text :=
  match text with
  | c :: rest =>
    if c = 'e' ∨ c = 'E' then
      let (negative, rest) := readSign rest
      match rest.span CodePoint.isDigit with
      | ([], _) => (none, text)
      | (digits, rest) =>
        let n : Int := Text.digitsValue digits
        (some (if negative then -n else n), rest)
    else (none, text)
  | [] => (none, text)

/-- The longest number at the front of a text. -/
def read? (text : Text) : Option (Numeral × Text) := do
  let (negative, text) :=
    match Text.dropPrefix? "-" text with
    | some rest => (true, rest)
    | none => (false, text)
  let (whole, text) ← readWhole? text
  let (fraction, text) := readFraction text
  let (exponent, text) := readExponent text
  return (⟨negative, whole, fraction, exponent⟩, text)

/-- An integer when there is neither a point nor an exponent, and the nearest floating point number
otherwise. -/
def value (n : Numeral) : Except Cause Json :=
  match n.fraction, n.exponent with
  | [], none =>
    if Text.numeralLimit < n.whole.length then .error (.longInteger n.whole.length)
    else
      let i : Int := Text.digitsValue n.whole
      .ok (.int (if n.negative then -i else i))
  | fraction, exponent =>
    .ok (.float (.ofDecimal n.negative (Text.digitsValue (n.whole ++ fraction))
      (exponent.getD 0 - fraction.length)))

end Numeral

/-! ## Values -/

/-- The constants of JSON. -/
def constants : List (Text × Json) :=
  [("null", .null), ("true", .bool true), ("false", .bool false)]

/-- The constants that an option admits. -/
def extraConstants : List (Text × Json) :=
  [("NaN", .float .nan), ("Infinity", .float (.infinite false)),
    ("-Infinity", .float (.infinite true))]

/-- The first constant of a list that stands at the front of the text. -/
def constant? (table : List (Text × Json)) (text : Text) : Option ((Text × Json) × Text) :=
  table.findSome? fun entry => (Text.dropPrefix? entry.1 text).map (entry, ·)

/-- A value that is neither an array nor an object. -/
def scalar (options : Options) (text : Text) : Except Fault (Json × Text) :=
  match text with
  | [] => .error ⟨.expectingValue, text⟩
  | c :: rest =>
    if c = '"' then
      match string text false [] rest with
      | .ok (s, rest) => .ok (.string s, rest)
      | .error f => .error f
    else
      match constant? constants text with
      | some ((_, json), rest) => .ok (json, rest)
      | none =>
        match constant? extraConstants text with
        | some ((name, json), rest) =>
          if options.constants then .ok (json, rest) else .error ⟨.refusedConstant name, text⟩
        | none =>
          match Numeral.read? text with
          | some (n, rest) =>
            match n.value with
            | .ok json => .ok (json, rest)
            | .error cause => .error ⟨cause, text⟩
          | none => .error ⟨.expectingValue, text⟩

/-- The items of an array, after the opening bracket or a comma and blanks. -/
def items (item : Text → Except Fault (Json × Text)) :
    (bound : Nat) → (read : List Json) → Text → Except Fault (Json × Text)
  | 0, _, text => .error ⟨.deepNesting false, text⟩
  | bound + 1, read, text =>
    match item text with
    | .error f => .error f
    | .ok (json, rest) =>
      match skipBlank rest with
      | [] => .error ⟨.expectingComma, []⟩
      | c :: rest =>
        if c = ']' then .ok (.array (json :: read).reverse, rest)
        else if c = ',' then items item bound (json :: read) (skipBlank rest)
        else .error ⟨.expectingComma, c :: rest⟩

def array (item : Text → Except Fault (Json × Text)) (bound : Nat) (text : Text) :
    Except Fault (Json × Text) :=
  match skipBlank text with
  | [] => items item bound [] []
  | c :: rest => if c = ']' then .ok (.array [], rest) else items item bound [] (c :: rest)

/-- The name of a member, up to and with its colon. -/
def memberName (text : Text) : Except Fault (Text × Text) :=
  match text with
  | [] => .error ⟨.expectingName, text⟩
  | c :: rest =>
    if c = '"' then
      match string text false [] rest with
      | .error f => .error f
      | .ok (name, rest) =>
        match skipBlank rest with
        | [] => .error ⟨.expectingColon, []⟩
        | c :: rest =>
          if c = ':' then .ok (name, skipBlank rest) else .error ⟨.expectingColon, c :: rest⟩
    else .error ⟨.expectingName, text⟩

/-- The members of an object, after the opening brace or a comma and blanks. -/
def members (item : Text → Except Fault (Json × Text)) :
    (bound : Nat) → (read : Members) → Text → Except Fault (Json × Text)
  | 0, _, text => .error ⟨.deepNesting true, text⟩
  | bound + 1, read, text =>
    match memberName text with
    | .error f => .error f
    | .ok (name, rest) =>
      match item rest with
      | .error f => .error f
      | .ok (json, rest) =>
        let read := Members.insert read name json
        match skipBlank rest with
        | [] => .error ⟨.expectingComma, []⟩
        | c :: rest =>
          if c = '\x7d' then .ok (.object read, rest)
          else if c = ',' then members item bound read (skipBlank rest)
          else .error ⟨.expectingComma, c :: rest⟩

def object (item : Text → Except Fault (Json × Text)) (bound : Nat) (text : Text) :
    Except Fault (Json × Text) :=
  match skipBlank text with
  | [] => members item bound [] []
  | c :: rest => if c = '\x7d' then .ok (.object [], rest) else members item bound [] (c :: rest)

/-- Reads the value at the front of a text that is nested at most `depth` deep.  `bound` limits the
items of one array; the length of the text is enough, since each item takes a code point. -/
def value (options : Options) (bound : Nat) : (depth : Nat) → Text → Except Fault (Json × Text)
  | 0, text =>
    match text with
    | [] => scalar options text
    | c :: _ =>
      if c = '[' ∨ c = '\x7b' then .error ⟨.deepNesting (c = '\x7b'), text⟩
      else scalar options text
  | depth + 1, text =>
    match text with
    | [] => scalar options text
    | c :: rest =>
      if c = '[' then array (value options bound depth) bound rest
      else if c = '\x7b' then object (value options bound depth) bound rest
      else scalar options text

end Json.Reader

namespace Json

open Reader in
/-- Reads a whole text: one value between blanks. -/
def readBody (options : Options) (text : Text) : Except Reader.Fault Json :=
  match value options (text.length + 1) depthLimit (skipBlank text) with
  | .error f => .error f
  | .ok (json, rest) =>
    match skipBlank rest with
    | [] => .ok json
    | rest => .error ⟨.extraData, rest⟩

open Reader in
/-- Reads a whole text that must not start with a byte order mark. -/
def read (options : Options) (text : Text) : Except Reader.Fault Json :=
  if text.head? = some 0xFEFF then .error ⟨.byteOrderMark, text⟩ else readBody options text

/-- Why a document is not read: its bytes, or its text. -/
inductive DocumentFault where
  | bytes (fault : DecodingFault)
  | text (whole : Text) (fault : Reader.Fault)
  deriving DecidableEq

namespace DocumentFault

def message : DocumentFault → Text
  | .bytes fault => fault.message
  | .text whole fault => fault.message whole

/-- Whether reading gave up because of the nesting. -/
def isDeepNesting : DocumentFault → Bool
  | .text _ fault => fault.cause.isDeepNesting
  | .bytes _ => false

end DocumentFault

end Json

/-- A document as it arrives: as text, or as bytes of a detected encoding. -/
inductive Document where
  | text (t : Text)
  | bytes (b : Bytes)

/-- Reads a document.  In bytes one mark is part of the encoding; in a text it is a fault. -/
def Document.read (options : Json.Reader.Options) : Document → Except Json.DocumentFault Json
  | .text t => (Json.read options t).mapError (.text t)
  | .bytes b =>
    match b.detectAndDecode with
    | .ok t => (Json.readBody options t).mapError (.text t)
    | .error fault => .error (.bytes fault)

end Entitlement
