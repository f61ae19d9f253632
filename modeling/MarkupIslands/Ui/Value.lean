import MarkupIslands.Json.Basic

/-!
# Values of attributes and styles

A value says where its content comes from. Kinds that this library does not look into are kept as
received, so reading never fails and writing gives back what was read.
-/

namespace MarkupIslands.Ui

/-- A value of an attribute or a style. -/
inductive Value
  | static (content : Json)
  | dynamic (content : Json)
  | raw (content : String)
  | expression (content : String)
  | imported (content : Json)
  | nestedStyle (content : Json)
  | other (json : Json)

instance : Inhabited Value := ⟨.static .null⟩

/-- The name of a kind: a text, or an object whose only key is the name and whose value is null. -/
def kindName? : Json → Option String
  | .text name => some name
  | .object [(name, .null)] => some name
  | _ => none

/-- The name of a kind at the head of a pair: a text, or the kind's position among all kinds. -/
def kindAtHead? (kinds : List String) : Json → Option String
  | .text name => some name
  | .number (.integer position) => if position < 0 then none else kinds[position.toNat]?
  | _ => none

/-- The kind and the content of a tagged value, which is written as an object or as a pair. -/
def tagged? (kinds : List String) : Json → Option (String × Json)
  | .object members => do
    let kind ← (members.lookup "type").bind kindName?
    let content ← members.lookup "content"
    return (kind, content)
  | .array [kind, content] => (kindAtHead? kinds kind).map fun kind ↦ (kind, content)
  | _ => none

/-- A value written with its kind and its content. -/
def tagged (kind : String) (content : Json) : Json :=
  .object [("content", content), ("type", .text kind)]

def textContent? : Json → Option String
  | .text value => some value
  | _ => none

namespace Value

def ofText (content : String) : Value := .static (.text content)

/-- The known kinds, in the order by which a pair counts them. -/
def kinds : List String := ["static", "dynamic", "raw", "expr", "import", "nested-style"]

def kind : Value → String
  | .static _ => "static"
  | .dynamic _ => "dynamic"
  | .raw _ => "raw"
  | .expression _ => "expr"
  | .imported _ => "import"
  | .nestedStyle _ => "nested-style"
  | .other _ => "other"

/-- The value of a known kind with the given content. -/
def ofContent? (kind : String) (content : Json) : Option Value :=
  match kind with
  | "static" => some (.static content)
  | "dynamic" => some (.dynamic content)
  | "raw" => (textContent? content).map .raw
  | "expr" => (textContent? content).map .expression
  | "import" => some (.imported content)
  | "nested-style" => some (.nestedStyle content)
  | _ => none

def ofJson (json : Json) : Value :=
  ((tagged? kinds json).bind fun (kind, content) ↦ ofContent? kind content).getD (.other json)

def toJson : Value → Json
  | .static content => tagged "static" content
  | .dynamic content => tagged "dynamic" content
  | .raw content => tagged "raw" (.text content)
  | .expression content => tagged "expr" (.text content)
  | .imported content => tagged "import" content
  | .nestedStyle content => tagged "nested-style" content
  | .other json => json

/-- Two values are the same if they are written the same. -/
def same (a b : Value) : Bool := a.toJson.same b.toJson

/-- The text of a value that holds one. -/
def text? : Value → Option String
  | .static (.text content) | .raw content => some content
  | _ => none

end Value

def valuesToJson (values : KeyMap Value) : Json := .ofKeyMap (values.map Value.toJson)

end MarkupIslands.Ui
