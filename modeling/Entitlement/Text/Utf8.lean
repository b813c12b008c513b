import Entitlement.Text.Basic

/-!
# UTF-8

One reader for three uses.  `step` reads the next code point of a byte string or says how many bytes
cannot be read and why.  `decode` stops at the first such place, and lets encoded surrogates pass;
`decodeWith` puts a text of the caller's choice in its place.  `encode` writes every code point, so
that `decode` undoes it on any text.
-/

namespace Entitlement

/-- A byte string. -/
abbrev Bytes := List UInt8

/-- Why bytes cannot be read in an encoding: which encoding, the first and the last position, the
byte at the first one, and the reason. -/
structure DecodingFault where
  encoding : Text
  first : Nat
  last : Nat
  byte : UInt8
  reason : Text
  deriving DecidableEq

namespace DecodingFault

/-- One byte is named by its value, several by their positions. -/
def message (f : DecodingFault) : Text :=
  let reason : Text := ": " ++ f.reason
  if f.first = f.last then
    "'" ++ f.encoding ++ "' codec can't decode byte 0x" ++ Text.hex 2 f.byte.toNat
      ++ " in position " ++ Text.decimal f.first ++ reason
  else
    "'" ++ f.encoding ++ "' codec can't decode bytes in position " ++ Text.decimal f.first ++ "-"
      ++ Text.decimal f.last ++ reason

end DecodingFault

namespace Utf8

/-! ## Reading -/

/-- What stands at the front of a byte string: nothing, a code point, or `width + 1` bytes that
cannot be read. -/
inductive Step where
  | done
  | point (c : CodePoint) (rest : Bytes)
  | fault (width : Nat) (reason : Text)

def isContinuation (b : UInt8) : Bool := 0x80 ≤ b.toNat && b.toNat < 0xC0

/-- The six bits that a continuation byte carries. -/
def payload (b : UInt8) : Nat := b.toNat % 0x40

def invalidStart : Step := .fault 0 "invalid start byte"

def endsEarly (width : Nat) : Step := .fault width "unexpected end of data"

def badContinuation (width : Nat) : Step := .fault width "invalid continuation byte"

/-- Reads a sequence of two bytes. -/
def step2 (a : UInt8) : Bytes → Step
  | [] => endsEarly 0
  | b :: rest =>
    if isContinuation b then .point (.ofNat (a.toNat % 0x20 * 0x40 + payload b)) rest
    else badContinuation 0

/-- Reads a sequence of three bytes; `pass` admits encoded surrogates.  The second byte after `E0`
must not be the start of a shorter form. -/
def step3 (pass : Bool) (a : UInt8) : Bytes → Step
  | [] => endsEarly 0
  | b :: rest =>
    if !isContinuation b || (a = 0xE0 && b.toNat < 0xA0) then badContinuation 0
    else if a = 0xED && 0xA0 ≤ b.toNat then
      match rest with
      | c :: rest =>
        if pass && isContinuation c then
          .point (.ofNat (a.toNat % 0x10 * 0x1000 + payload b * 0x40 + payload c)) rest
        else badContinuation 0
      | [] => badContinuation 0
    else
      match rest with
      | [] => endsEarly 1
      | c :: rest =>
        if isContinuation c then
          .point (.ofNat (a.toNat % 0x10 * 0x1000 + payload b * 0x40 + payload c)) rest
        else badContinuation 1

/-- Reads a sequence of four bytes, none of them above the last code point. -/
def step4 (a : UInt8) : Bytes → Step
  | [] => endsEarly 0
  | b :: rest =>
    if !isContinuation b || (a = 0xF0 && b.toNat < 0x90) || (a = 0xF4 && 0x90 ≤ b.toNat) then
      badContinuation 0
    else
      match rest with
      | [] => endsEarly 1
      | c :: rest =>
        if !isContinuation c then badContinuation 1
        else
          match rest with
          | [] => endsEarly 2
          | d :: rest =>
            if isContinuation d then
              .point (.ofNat (a.toNat % 8 * 0x40000 + payload b * 0x1000 + payload c * 0x40
                + payload d)) rest
            else badContinuation 2

def step (pass : Bool) : Bytes → Step
  | [] => .done
  | a :: rest =>
    if a.toNat < 0x80 then .point (.ofNat a.toNat) rest
    else if a.toNat < 0xC2 then invalidStart
    else if a.toNat < 0xE0 then step2 a rest
    else if a.toNat < 0xF0 then step3 pass a rest
    else if a.toNat < 0xF5 then step4 a rest
    else invalidStart

/-- Reads on, with the code points read so far in reverse.  `total` is the length of the whole byte
string, for positions; each round takes a byte, so `fuel` may be `total` as well. -/
def decodeFrom (pass : Bool) (total : Nat) : (fuel : Nat) → Bytes → (read : Text) →
    Except DecodingFault Text
  | 0, _, read => .ok read.reverse
  | fuel + 1, bytes, read =>
    match step pass bytes with
    | .done => .ok read.reverse
    | .point c rest => decodeFrom pass total fuel rest (c :: read)
    | .fault width reason =>
      let position := total - bytes.length
      .error ⟨"utf-8", position, position + width, bytes.headD 0, reason⟩

/-- The text that the bytes encode, surrogates included, or the first place that cannot be read. -/
def decode (bytes : Bytes) : Except DecodingFault Text :=
  decodeFrom true bytes.length bytes.length bytes []

/-- The text that the bytes encode, without surrogates. -/
def decodeStrict (bytes : Bytes) : Except DecodingFault Text :=
  decodeFrom false bytes.length bytes.length bytes []

/-- Reads all bytes, with `patch` in the place of those that cannot be read. -/
def decodePatched (patch : Bytes → Text) : (fuel : Nat) → Bytes → (read : Text) → Text
  | 0, _, read => read.reverse
  | fuel + 1, bytes, read =>
    match step false bytes with
    | .done => read.reverse
    | .point c rest => decodePatched patch fuel rest (c :: read)
    | .fault width _ =>
      decodePatched patch fuel (bytes.drop (width + 1))
        ((patch (bytes.take (width + 1))).reverse ++ read)

def decodeWith (patch : Bytes → Text) (bytes : Bytes) : Text :=
  decodePatched patch bytes.length bytes []

/-- The replacement character once for each place that cannot be read. -/
def decodeReplacing (bytes : Bytes) : Text := decodeWith (fun _ => [0xFFFD]) bytes

/-- A low surrogate for each byte that cannot be read, so that no byte is lost. -/
def decodeKeeping (bytes : Bytes) : Text :=
  decodeWith (fun bad => bad.map fun b => .ofNat (0xDC00 + b.toNat)) bytes

/-! ## Writing -/

/-- The bytes of a code point. -/
def encodePoint (c : CodePoint) : Bytes :=
  let n := c.val
  let follow (k : Nat) : UInt8 := .ofNat (0x80 + k % 0x40)
  if n < 0x80 then [.ofNat n]
  else if n < 0x800 then [.ofNat (0xC0 + n / 0x40), follow n]
  else if n < 0x10000 then [.ofNat (0xE0 + n / 0x1000), follow (n / 0x40), follow n]
  else [.ofNat (0xF0 + n / 0x40000), follow (n / 0x1000), follow (n / 0x40), follow n]

def encode (t : Text) : Bytes := t.flatMap encodePoint

end Utf8

end Entitlement
