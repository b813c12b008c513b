import Entitlement.Fault.Basic

/-!
# Dictionaries

A dictionary is read from an object or from a sequence of pairs.  In a pair any scalar can be the
name: a text, null, a truth value or a number.  Names of numbers that are equal are one name,
whatever way they are written, and so are a truth value and its number; a text is never the name of
a number.

The entries keep the order in which their names came first.  Written as an object, entries of
different names can be written alike.

* `Dictionary.ofMembers`, `Dictionary.ofJson`: reading;
* `Dictionary.get?`, `Dictionary.insert`, `Dictionary.erase`: entries by their names;
* `Dictionary.json`: the dictionary as an object.
-/

namespace Entitlement

namespace Dictionary

/-- The name of an entry. -/
inductive Name where
  | text (t : Text)
  | null
  | bool (b : Bool)
  | int (i : Int)
  | float (x : Binary64)
  deriving DecidableEq

namespace Name

/-- The name that a value can be. -/
def ofJson? : Json → Option Name
  | .string t => some (.text t)
  | .null => some .null
  | .bool b => some (.bool b)
  | .int i => some (.int i)
  | .float x => some (.float x)
  | .array _ | .object _ => none

/-- The name as it is written in an object. -/
def written : Name → Text
  | .text t => t
  | .null => "null"
  | .bool b => if b then "true" else "false"
  | .int i => Text.ofInt i
  | .float x => Json.Style.stored.number x

/-- Of the ways to write a name, the one as an integer where there is one. -/
def proper : Name → Name
  | .bool b => .int (if b then 1 else 0)
  | .float x =>
    match x.toInt? with
    | some i => .int i
    | none => .float x
  | name => name

/-- Whether the name can be written in strict JSON. -/
def isFinite : Name → Bool
  | .float x => x.isFinite
  | _ => true

end Name

end Dictionary

/-- Values by their names, in order. -/
abbrev Dictionary := List (Dictionary.Name × Json)

namespace Dictionary

/-! ## Entries -/

/-- The value under a text. -/
def get? (d : Dictionary) (name : Text) : Option Json := d.lookup (.text name)

/-- Sets a value: in the place of the name when it is there, else at the end. -/
def insert : (d : Dictionary) → (name : Name) → (value : Json) → Dictionary
  | [], name, value => [(name, value)]
  | (n, v) :: rest, name, value =>
    if n.proper = name.proper then (n, value) :: rest else (n, v) :: insert rest name value

/-- Drops the value under a text. -/
def erase (d : Dictionary) (name : Text) : Dictionary := d.filter fun e => e.1 ≠ .text name

/-- Entries in the order of their first mention, each with its last value. -/
def ofList (entries : List (Name × Json)) : Dictionary :=
  entries.foldl (fun d e => insert d e.1 e.2) []

/-- The members of an object. -/
def ofMembers (members : Members) : Dictionary := members.map fun m => (.text m.1, m.2)

/-- The entries whose names are texts. -/
def members (d : Dictionary) : Members :=
  d.filterMap fun e =>
    match e.1 with
    | .text t => some (t, e.2)
    | _ => none

/-- The dictionary as an object. -/
def json (d : Dictionary) : Json := .object (d.map fun e => (e.1.written, e.2))

/-! ## Reading -/

/-- The parts of a value that can be gone through: the items of an array, the names of an object,
the code points of a text. -/
def parts? : Json → Option (List Json)
  | .array items => some items
  | .object members => some (members.map fun m => .string m.1)
  | .string s => some (s.map fun c => .string [c])
  | _ => none

/-- The word for the type of a value in the message about it. -/
def typeWord : Json → Text
  | .null => "NoneType"
  | .bool _ => "bool"
  | .int _ => "int"
  | .float _ => "float"
  | .string _ => "str"
  | .array _ => "list"
  | .object _ => "dict"

/-- The fault of a value of an unfit type. -/
def unfit (message : Text) : Fault := .failure Kind.typeError message

/-- A pair of a name and a value; `position` counts the pairs. -/
def pair (position : Nat) (json : Json) : Except Fault (Name × Json) :=
  match parts? json with
  | none =>
    .error (unfit ("cannot convert dictionary update sequence element #"
      ++ Text.decimal position ++ " to a sequence"))
  | some [name, value] =>
    match Name.ofJson? name with
    | some n => .ok (n, value)
    | none => .error (unfit ("unhashable type: '" ++ typeWord name ++ "'"))
  | some parts =>
    .error (.failure Kind.valueError
      ("dictionary update sequence element #" ++ Text.decimal position ++ " has length "
        ++ Text.decimal parts.length ++ "; 2 is required"))

/-- The pairs of a list, up to the first that is none. -/
def pairs : (position : Nat) → List Json → Except Fault (List (Name × Json))
  | _, [] => .ok []
  | position, json :: rest => do
    let first ← pair position json
    let others ← pairs (position + 1) rest
    return first :: others

/-- The dictionary that a value is: an object, or a sequence of pairs. -/
def ofJson (json : Json) : Except Fault Dictionary :=
  match json with
  | .object members => .ok (ofMembers members)
  | json =>
    match parts? json with
    | some parts => (pairs 0 parts).map ofList
    | none => .error (unfit ("'" ++ typeWord json ++ "' object is not iterable"))

end Dictionary

end Entitlement
