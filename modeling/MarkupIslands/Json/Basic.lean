import MarkupIslands.KeyMap

/-!
# JSON values

The values that pass through a project document. A number keeps whether it is an integer or a
binary64 number, because the two are never equal. The members of an object are held in ascending
order of their keys, which `Json.ofMembers` establishes.
-/

namespace MarkupIslands

/-- A number: an integer, or the binary64 number with the given bits. -/
inductive Json.Number
  | integer (value : Int)
  | double (bits : UInt64)
deriving DecidableEq, Repr

/-- A JSON value. -/
inductive Json
  | null
  | boolean (value : Bool)
  | number (value : Json.Number)
  | text (value : String)
  | array (items : List Json)
  | object (members : List (String × Json))

namespace Json

instance : Inhabited Json := ⟨.null⟩

/-- An object with the given members; of two members with one key the later one counts. -/
def ofMembers (members : List (String × Json)) : Json := .object (KeyMap.ofList members).entries

def ofKeyMap (map : KeyMap Json) : Json := .object map.entries

/-- A member that is written only if it is there. -/
def member (key : String) : Option Json → List (String × Json)
  | some json => [(key, json)]
  | none => []

/-- Numbers are compared by value; the two zeros of binary64 are equal. -/
def Number.same : Number → Number → Bool
  | .integer a, .integer b => a == b
  | .double a, .double b => a == b || (a <<< 1 == 0 && b <<< 1 == 0)
  | _, _ => false

mutual

/-- Equality of values, with numbers compared by value. -/
def same : Json → Json → Bool
  | .null, .null => true
  | .boolean a, .boolean b => a == b
  | .number a, .number b => a.same b
  | .text a, .text b => a == b
  | .array a, .array b => sameItems a b
  | .object a, .object b => sameMembers a b
  | _, _ => false

def sameItems : List Json → List Json → Bool
  | [], [] => true
  | a :: as, b :: bs => same a b && sameItems as bs
  | _, _ => false

def sameMembers : List (String × Json) → List (String × Json) → Bool
  | [], [] => true
  | (k, a) :: as, (l, b) :: bs => k == l && same a b && sameMembers as bs
  | _, _ => false

end

mutual

/-- Whether every object of a value has its keys in ascending order. -/
def Canonical : Json → Prop
  | .array items => CanonicalItems items
  | .object members => Ascending members ∧ CanonicalMembers members
  | .null | .boolean _ | .number _ | .text _ => True

def CanonicalItems : List Json → Prop
  | [] => True
  | item :: rest => Canonical item ∧ CanonicalItems rest

def CanonicalMembers : List (String × Json) → Prop
  | [] => True
  | (_, value) :: rest => Canonical value ∧ CanonicalMembers rest

end

def get? (json : Json) (key : String) : Option Json :=
  match json with
  | .object members => members.lookup key
  | _ => none

end Json

end MarkupIslands
