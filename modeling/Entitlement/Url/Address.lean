import Entitlement.Text.Basic

/-!
# Numeric addresses

An address of 32 bits is four numbers with points between them.  One of 128 bits is eight groups of
hexadecimal digits with colons between them, where two colons may stand for a run of zeros, and the
last two groups may be an address of 32 bits; a name of a zone may follow a percent sign.
-/

namespace Entitlement

namespace Address

/-! ## Four numbers -/

/-- A place in four runs of digits: how many runs are behind, and whether the present one has
begun. -/
structure Place where
  behind : Nat
  begun : Bool
  deriving DecidableEq

/-- The places after a code point: a digit goes on with the run, and any code point may end it. -/
def Place.next (c : CodePoint) (p : Place) : List Place :=
  (if c.isDigit then [⟨p.behind, true⟩] else [])
    ++ if p.begun && p.behind < 3 then [⟨p.behind + 1, false⟩] else []

/-- Whether a text looks like an address of four numbers: four runs of digits, with any code point
between two of them. -/
def looksQuad (t : Text) : Bool :=
  let places := t.foldl (fun places c => (places.flatMap (Place.next c)).eraseDups) [⟨0, false⟩]
  places.contains ⟨3, true⟩

/-- A number below 256 without zeros in front. -/
def isOctet (t : Text) : Bool :=
  1 ≤ t.length && t.length ≤ 3 && t.all CodePoint.isDigit
    && (t.length = 1 || t.head? ≠ some ('0' : CodePoint)) && Text.digitsValue t < 256

/-- An address of four numbers. -/
def isQuad (t : Text) : Bool :=
  let pieces := Text.splitOn '.' t
  pieces.length = 4 && pieces.all isOctet

/-! ## Eight groups -/

/-- Up to four hexadecimal digits. -/
def isGroup (t : Text) : Bool :=
  1 ≤ t.length && t.length ≤ 4 && t.all fun c => c.hexValue?.isSome

/-- The groups, with two zeros for an address of four numbers at the end. -/
def groups? (t : Text) : Option (List Text) :=
  let pieces := Text.splitOn ':' t
  match pieces.getLast? with
  | some last =>
    if last.contains ('.' : CodePoint) then
      if isQuad last then some (pieces.dropLast ++ [("0" : Text), "0"]) else none
    else some pieces
  | none => none

/-- The groups on one side of a run of zeros: none when the run stands at an end. -/
def side (groups : List Text) : List Text := if groups = [[]] then [] else groups

/-- Whether groups make an address: eight, or fewer with one left empty, between two others, for a
run of zeros. -/
def isComplete (groups : List Text) : Bool :=
  match (groups.drop 1).dropLast.findIdx? (· = []) with
  | none => groups.length = 8 && groups.all isGroup
  | some i =>
    let front := side (groups.take (i + 1))
    let back := side (groups.drop (i + 2))
    front.length + back.length < 8 && front.all isGroup && back.all isGroup

/-- An address of eight groups.  It has at least two colons and at most eight. -/
def isGrouped (t : Text) : Bool :=
  match groups? t with
  | none => false
  | some groups =>
    3 ≤ (Text.splitOn ':' t).length && groups.length ≤ 9 && isComplete groups

/-- An address of eight groups and perhaps a zone. -/
def isLong (t : Text) : Bool :=
  match Text.splitAt '%' t with
  | (address, none) => isGrouped address
  | (address, some zone) => isGrouped address && zone ≠ [] && !zone.contains ('%' : CodePoint)

end Address

end Entitlement
