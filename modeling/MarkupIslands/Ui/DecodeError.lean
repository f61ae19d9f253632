import MarkupIslands.Decimal.Shortest
import MarkupIslands.Json.Basic
import MarkupIslands.Text.Shown

/-!
# Decoding JSON

Causes for which a JSON value cannot be read as part of a project, with the text of each, and the
readers of plain values and of fields that all decoders share. The fields of a record are read in
ascending order of their names and the first one that fails is reported; a field that is missing is
reported only if all others can be read.
-/

namespace MarkupIslands.Ui

/-- What a value is, as far as a message tells. -/
inductive Found
  | null
  | boolean (value : Bool)
  | integer (value : Int)
  | double (bits : UInt64)
  | text (value : String)
  | sequence
  | map
deriving DecidableEq, Repr

def Found.ofJson : Json → Found
  | .null => .null
  | .boolean value => .boolean value
  | .number (.integer value) => .integer value
  | .number (.double bits) => .double bits
  | .text value => .text value
  | .array _ => .sequence
  | .object _ => .map

/-- The words for what was found; short values are shown. -/
def Found.describe : Found → String
  | .null => "null"
  | .boolean value => "boolean `" ++ (if value then "true" else "false") ++ "`"
  | .integer value => "integer `" ++ toString value ++ "`"
  | .double bits => "floating point `" ++ Decimal.ofDouble bits ++ "`"
  | .text value => "string " ++ Text.shown value
  | .sequence => "sequence"
  | .map => "map"

inductive Wanted
  | text
  | boolean
  | map
  | sequence
  | record (name : String)
  | variant
  | unit
deriving DecidableEq, Repr

/-- The words for what a place asks for. -/
def Wanted.describe : Wanted → String
  | .text => "a string"
  | .boolean => "a boolean"
  | .map => "a map"
  | .sequence => "a sequence"
  | .record name => "struct " ++ name
  | .variant => "string or map"
  | .unit => "unit"

inductive DecodeError
  | wrongType (found : Found) (wanted : Wanted)
  | missingField (name : String)
  | unknownVariant (name : String) (known : List String)
  /-- An object that names a variant does not have exactly one key. -/
  | notOneKey
  | tooShort (length : Nat) (record : String) (fields : Nat)
  | tooLong (length : Nat)
deriving DecidableEq, Repr

/-- The text of a cause. -/
def DecodeError.message : DecodeError → String
  | .wrongType found wanted =>
    "invalid type: " ++ found.describe ++ ", expected " ++ wanted.describe
  | .missingField name => "missing field `" ++ name ++ "`"
  | .unknownVariant name known =>
    "unknown variant `" ++ name ++ "`, expected one of " ++
      ", ".intercalate (known.map fun name ↦ "`" ++ name ++ "`")
  | .notOneKey => "invalid value: map, expected map with a single key"
  | .tooShort length record fields =>
    "invalid length " ++ toString length ++ ", expected struct " ++ record ++ " with " ++
      toString fields ++ " elements"
  | .tooLong length =>
    "invalid length " ++ toString length ++ ", expected fewer elements in array"

abbrev Decoded (α : Type) := Except DecodeError α

namespace Decode

def wrongType {α : Type} (json : Json) (wanted : Wanted) : Decoded α :=
  .error (.wrongType (Found.ofJson json) wanted)

def text : Json → Decoded String
  | .text value => .ok value
  | json => wrongType json .text

def boolean : Json → Decoded Bool
  | .boolean value => .ok value
  | json => wrongType json .boolean

/-- Reads every value of an object, in the order of the keys. -/
def map {α : Type} (decode : Json → Decoded α) : Json → Decoded (KeyMap α)
  | .object members => do
    let entries ← members.mapM fun (key, value) ↦ return (key, ← decode value)
    return .ofList entries
  | json => wrongType json .map

/-- Reads a field that is there, null included. -/
def field {α : Type} (decode : Json → Decoded α) (members : List (String × Json)) (name : String) :
    Decoded (Option α) :=
  match members.lookup name with
  | none => .ok none
  | some json => return some (← decode json)

/-- A value that may be null. -/
def orNull {α : Type} (decode : Json → Decoded α) : Json → Decoded (Option α)
  | .null => .ok none
  | json => return some (← decode json)

/-- Reads a field for which null is the same as being absent. -/
def optional {α : Type} (decode : Json → Decoded α) (members : List (String × Json))
    (name : String) : Decoded (Option α) := do
  return (← field (orNull decode) members name).join

/-- The value of a field that has to be there. -/
def require {α : Type} (name : String) : Option α → Decoded α
  | some value => .ok value
  | none => .error (.missingField name)

/-- The members that are no fields of a record; they are kept as they are. -/
def others (known : List String) (members : List (String × Json)) : KeyMap Json :=
  .ofList (members.filter fun member ↦ !known.contains member.1)

/-- Reads the name of a variant: a text, or an object whose only key is the name and whose value is
null. -/
def variant {α : Type} (known : List (String × α)) : Json → Decoded α
  | .text name => find name
  | .object [(name, value)] => do
    let found ← find name
    match value with
    | .null => return found
    | value => wrongType value .unit
  | .object _ => .error .notOneKey
  | json => wrongType json .variant
where
  find (name : String) : Decoded α :=
    match known.lookup name with
    | some found => .ok found
    | none => .error (.unknownVariant name (known.map Prod.fst))

/-- Reads one item of a record that is written as an array of its fields. -/
def item {α : Type} (decode : Json → Decoded α) (items : List Json) (index : Nat) :
    Decoded (Option α) :=
  match items[index]? with
  | none => .ok none
  | some json => return some (← decode json)

/-- Refuses an array with more items than its record has fields. -/
def noMoreThan (fields : Nat) (items : List Json) : Decoded Unit :=
  if fields < items.length then .error (.tooLong items.length) else .ok ()

end Decode

end MarkupIslands.Ui
