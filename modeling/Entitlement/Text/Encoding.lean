import Entitlement.Text.Utf8

/-!
# Byte strings of unknown encoding

A JSON document may come in UTF-8, UTF-16 or UTF-32.  A byte order mark decides; without one the
places of the zero bytes among the first four do, since a document starts with two ASCII
characters.  `Encoding.detect` makes the choice and `Encoding.decode` reads in the encoding chosen.
In each of them an encoded surrogate passes.
-/

namespace Entitlement

/-- An encoding of texts; `marked` says that a byte order mark comes first. -/
inductive Encoding where
  | utf8 (marked : Bool)
  | utf16 (bigEndian marked : Bool)
  | utf32 (bigEndian marked : Bool)
  deriving DecidableEq

namespace Encoding

/-- The encoding that the zero bytes show, when there is no mark. -/
def ofZeros : Bytes → Encoding
  | a :: b :: c :: d :: _ =>
    if a = 0 then if b = 0 then .utf32 true false else .utf16 true false
    else if b = 0 then if c = 0 && d = 0 then .utf32 false false else .utf16 false false
    else .utf8 false
  | [a, b] =>
    if a = 0 then .utf16 true false else if b = 0 then .utf16 false false else .utf8 false
  | _ => .utf8 false

/-- A mark decides first.  The four-byte marks come before the two-byte ones that they extend. -/
def detect (bytes : Bytes) : Encoding :=
  if [0x00, 0x00, 0xFE, 0xFF].isPrefixOf bytes then .utf32 true true
  else if [0xFF, 0xFE, 0x00, 0x00].isPrefixOf bytes then .utf32 false true
  else if [0xFE, 0xFF].isPrefixOf bytes then .utf16 true true
  else if [0xFF, 0xFE].isPrefixOf bytes then .utf16 false true
  else if [0xEF, 0xBB, 0xBF].isPrefixOf bytes then .utf8 true
  else ofZeros bytes

/-- The unit of two bytes. -/
def unit16 (bigEndian : Bool) (a b : UInt8) : Nat :=
  if bigEndian then a.toNat * 0x100 + b.toNat else b.toNat * 0x100 + a.toNat

/-- The unit of four bytes. -/
def unit32 (bigEndian : Bool) (a b c d : UInt8) : Nat :=
  if bigEndian then unit16 true a b * 0x10000 + unit16 true c d
  else unit16 false c d * 0x10000 + unit16 false a b

def endianName (name : Text) (bigEndian : Bool) : Text :=
  name ++ if bigEndian then "-be" else "-le"

/-- Reads units of two bytes.  A high surrogate joins the low one right after it. -/
def decode16 (bigEndian : Bool) (total : Nat) : Bytes → (read : Text) → Except DecodingFault Text
  | [], read => .ok read.reverse
  | [a], _ => .error ⟨endianName "utf-16" bigEndian, total - 1, total - 1, a, "truncated data"⟩
  | a :: b :: rest, read =>
    let c := CodePoint.ofNat (unit16 bigEndian a b)
    match read with
    | high :: before =>
      if c.isLowSurrogate && high.isHighSurrogate then
        decode16 bigEndian total rest (.ofPair high c :: before)
      else decode16 bigEndian total rest (c :: read)
    | [] => decode16 bigEndian total rest [c]

/-- Reads units of four bytes. -/
def decode32 (bigEndian : Bool) (total : Nat) : Bytes → (read : Text) → Except DecodingFault Text
  | [], read => .ok read.reverse
  | a :: b :: c :: d :: rest, read =>
    let n := unit32 bigEndian a b c d
    if h : n < 0x110000 then decode32 bigEndian total rest (⟨n, h⟩ :: read)
    else
      let position := total - rest.length - 4
      .error ⟨endianName "utf-32" bigEndian, position, position + 3, a,
        "code point not in range(0x110000)"⟩
  | a :: rest, _ =>
    .error ⟨endianName "utf-32" bigEndian, total - rest.length - 1, total - 1, a, "truncated data"⟩

/-- Reads the bytes in an encoding.  Positions count the mark, except in UTF-8. -/
def decode (encoding : Encoding) (bytes : Bytes) : Except DecodingFault Text :=
  match encoding with
  | .utf8 marked => Utf8.decode (if marked then bytes.drop 3 else bytes)
  | .utf16 bigEndian marked =>
    decode16 bigEndian bytes.length (if marked then bytes.drop 2 else bytes) []
  | .utf32 bigEndian marked =>
    decode32 bigEndian bytes.length (if marked then bytes.drop 4 else bytes) []

end Encoding

/-- Reads bytes in the encoding that they show. -/
def Bytes.detectAndDecode (bytes : Bytes) : Except DecodingFault Text :=
  (Encoding.detect bytes).decode bytes

end Entitlement
