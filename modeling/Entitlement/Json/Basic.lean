import Entitlement.Text.Basic
import Entitlement.Numeric.Binary64

/-!
# JSON values

An integer and a floating point number are different values, and the members of an object keep the
order in which they came.  `Members.insert` is how an object grows: a repeated member keeps its
first place and takes the last value.
-/

namespace Entitlement

/-- A JSON value. -/
inductive Json where
  | null
  | bool (b : Bool)
  | int (i : Int)
  | float (x : Binary64)
  | string (s : Text)
  | array (items : List Json)
  | object (members : List (Text × Json))

/-- The members of an object, in order. -/
abbrev Members := List (Text × Json)

namespace Json

mutual

/-- Equality of values is decidable, member by member. -/
def decEq : (a b : Json) → Decidable (a = b)
  | .null, .null => isTrue rfl
  | .bool a, .bool b =>
    if h : a = b then isTrue (h ▸ rfl) else isFalse fun e => h (by injection e)
  | .int a, .int b =>
    if h : a = b then isTrue (h ▸ rfl) else isFalse fun e => h (by injection e)
  | .float a, .float b =>
    if h : a = b then isTrue (h ▸ rfl) else isFalse fun e => h (by injection e)
  | .string a, .string b =>
    if h : a = b then isTrue (h ▸ rfl) else isFalse fun e => h (by injection e)
  | .array a, .array b =>
    match decEqItems a b with
    | isTrue h => isTrue (h ▸ rfl)
    | isFalse h => isFalse fun e => h (by injection e)
  | .object a, .object b =>
    match decEqMembers a b with
    | isTrue h => isTrue (h ▸ rfl)
    | isFalse h => isFalse fun e => h (by injection e)
  | .null, .bool _ | .null, .int _ | .null, .float _ | .null, .string _ | .null, .array _
  | .null, .object _ | .bool _, .null | .bool _, .int _ | .bool _, .float _ | .bool _, .string _
  | .bool _, .array _ | .bool _, .object _ | .int _, .null | .int _, .bool _ | .int _, .float _
  | .int _, .string _ | .int _, .array _ | .int _, .object _ | .float _, .null | .float _, .bool _
  | .float _, .int _ | .float _, .string _ | .float _, .array _ | .float _, .object _
  | .string _, .null | .string _, .bool _ | .string _, .int _ | .string _, .float _
  | .string _, .array _ | .string _, .object _ | .array _, .null | .array _, .bool _
  | .array _, .int _ | .array _, .float _ | .array _, .string _ | .array _, .object _
  | .object _, .null | .object _, .bool _ | .object _, .int _ | .object _, .float _
  | .object _, .string _ | .object _, .array _ => isFalse nofun

def decEqItems : (a b : List Json) → Decidable (a = b)
  | [], [] => isTrue rfl
  | x :: a, y :: b =>
    match decEq x y, decEqItems a b with
    | isTrue h, isTrue k => isTrue (h ▸ k ▸ rfl)
    | isFalse h, _ => isFalse fun e => h (by injection e)
    | _, isFalse h => isFalse fun e => h (by injection e)
  | [], _ :: _ | _ :: _, [] => isFalse nofun

def decEqMembers : (a b : List (Text × Json)) → Decidable (a = b)
  | [], [] => isTrue rfl
  | (k, x) :: a, (l, y) :: b =>
    match (inferInstance : Decidable (k = l)), decEq x y, decEqMembers a b with
    | isTrue g, isTrue h, isTrue i => isTrue (g ▸ h ▸ i ▸ rfl)
    | isFalse h, _, _ => isFalse fun e => h (by injection e with e; injection e)
    | _, isFalse h, _ => isFalse fun e => h (by injection e with e; injection e)
    | _, _, isFalse h => isFalse fun e => h (by injection e)
  | [], _ :: _ | _ :: _, [] => isFalse nofun

end

instance : DecidableEq Json := decEq

/-- A text as a value. -/
def ofText (t : Text) : Json := .string t

instance : Coe Text Json := ⟨ofText⟩
instance : Coe Bool Json := ⟨.bool⟩
instance : Coe Int Json := ⟨.int⟩

/-- The text of a string literal as a value. -/
def text (s : String) : Json := .string (Text.ofString s)

end Json

namespace Members

/-- The value of a member. -/
def get? (members : Members) (name : Text) : Option Json := members.lookup name

/-- Sets a member: in its place when there is one, else at the end. -/
def insert : (members : Members) → (name : Text) → (value : Json) → Members
  | [], name, value => [(name, value)]
  | (n, v) :: rest, name, value =>
    if n = name then (name, value) :: rest else (n, v) :: insert rest name value

/-- Drops a member. -/
def erase (members : Members) (name : Text) : Members := members.filter fun m => m.1 ≠ name

/-- The members in the order of their first mention, each with its last value. -/
def ofList (pairs : List (Text × Json)) : Members :=
  pairs.foldl (fun members (name, value) => insert members name value) []

/-- The members of `more` set one by one. -/
def insertAll (members more : Members) : Members :=
  more.foldl (fun members (name, value) => insert members name value) members

end Members

namespace Json

/-- The member of an object; other values have none. -/
def get? (json : Json) (name : Text) : Option Json :=
  match json with
  | .object members => Members.get? members name
  | _ => none

/-- Whether a value counts as true: it is not null, false, zero or empty. -/
def isTruthy : Json → Bool
  | .null => false
  | .bool b => b
  | .int i => i ≠ 0
  | .float x => x ≠ Binary64.zeroOf false && x ≠ Binary64.zeroOf true
  | .string s => s ≠ []
  | .array items => !items.isEmpty
  | .object members => !members.isEmpty

mutual

/-- Whether every number in the value is finite, as the JSON standard asks. -/
def isFinite : Json → Bool
  | .float x => x.isFinite
  | .array items => itemsFinite items
  | .object members => membersFinite members
  | _ => true

def itemsFinite : List Json → Bool
  | [] => true
  | x :: rest => isFinite x && itemsFinite rest

def membersFinite : List (Text × Json) → Bool
  | [] => true
  | (_, x) :: rest => isFinite x && membersFinite rest

end

end Json

end Entitlement
