import MarkupIslands.Ui.DecodeError
import MarkupIslands.Ui.Node

/-!
# User-interface trees as JSON

Reading a node never fails: what is no well-formed node of a known kind is kept as received. An
element on its own can fail, and then the cause is told.
-/

namespace MarkupIslands.Ui

def elementFields : List String := ["elementType", "name", "attrs", "style", "children"]

/-- Reads an element, given how its children read. -/
def elementWith (members : List (String × Json)) (children : Decoded (Option (List Node))) :
    Decoded Element := do
  let values : Json → Decoded (KeyMap Value) := Decode.map fun json ↦ .ok (Value.ofJson json)
  let attrs ← Decode.optional values members "attrs"
  let children ← children
  let elementType ← Decode.field Decode.text members "elementType"
  let name ← Decode.optional Decode.text members "name"
  let style ← Decode.optional values members "style"
  let elementType ← Decode.require "elementType" elementType
  return { elementType, name, attrs, style, children,
           extra := Decode.others elementFields members }

/-- A field that may be null, of a record whose fields are passed through. -/
def passed (members : List (String × Json)) (name : String) : Option Json :=
  match members.lookup name with
  | some .null => none
  | found => found

/-- An item that may be null, of a record that is written as an array. -/
def passedItem (items : List Json) (index : Nat) : Option Json :=
  match items[index]? with
  | some .null => none
  | found => found

/-- A node kind with one node and two passed fields. -/
structure Wrapper where
  first : String
  second : String
  make : Node → Option Json → Option Json → Node

/-- The kinds of node that wrap a single node. -/
def wrapper? (kind : String) : Option Wrapper :=
  match kind with
  | "conditional" => some ⟨"reference", "value", .conditional⟩
  | "repeat" => some ⟨"dataSource", "meta", .repeated⟩
  | _ => none

/-- A node of a kind without nodes inside. -/
def leafOf? (kind : String) (content : Json) : Option Node :=
  match kind with
  | "inject" => (textContent? content).map .inject
  | "static" => some (.static content)
  | "dynamic" => some (.dynamic content)
  | "raw" => (textContent? content).map .raw
  | _ => none

/-- The name of a slot: a text, or nothing. -/
def slotName? : Option Json → Option (Option String)
  | none | some .null => some none
  | some (.text name) => some (some name)
  | some _ => none

mutual

def nodeOfJson : Json → Node
  | .object members =>
    (((members.lookup "type").bind kindName?).bind fun kind ↦ contentIn kind members).getD
      (.other (.object members))
  | .array [kind, content] =>
    ((kindAtHead? Node.kinds kind).bind fun kind ↦ nodeOfContent kind content).getD
      (.other (.array [kind, content]))
  | json => .other json

/-- The node of a kind whose content is the member of that name. -/
def contentIn (kind : String) : List (String × Json) → Option Node
  | [] => none
  | (key, json) :: rest =>
    if key = "content" then nodeOfContent kind json else contentIn kind rest

/-- The node of a kind with the given content, if the content fits the kind. -/
def nodeOfContent (kind : String) : Json → Option Node
  | .object members =>
    if kind = "element" then
      (elementWith members (childrenIn members)).toOption.map .element
    else if kind = "slot" then
      (slotName? (members.lookup "name")).map fun name ↦ .slot name (fallbackIn members)
    else
      match wrapper? kind with
      | some wrapper => (nodeIn members).map fun node ↦
          wrapper.make node (passed members wrapper.first) (passed members wrapper.second)
      | none => leafOf? kind (.object members)
  | .array items =>
    if kind = "slot" then slotOfItems items
    else
      match wrapper? kind with
      | some wrapper => wrapperOfItems wrapper items
      | none => leafOf? kind (.array items)
  | json => leafOf? kind json

def childrenIn : List (String × Json) → Decoded (Option (List Node))
  | [] => .ok none
  | (key, .array items) :: rest =>
    if key = "children" then .ok (some (nodesOfJson items)) else childrenIn rest
  | (key, json) :: rest =>
    if key = "children" then
      match json with
      | .null => .ok none
      | json => Decode.wrongType json .sequence
    else childrenIn rest

/-- The node that a wrapper written as an object holds. -/
def nodeIn : List (String × Json) → Option Node
  | [] => none
  | (key, json) :: rest => if key = "node" then some (nodeOfJson json) else nodeIn rest

/-- The fallback of a slot written as an object. -/
def fallbackIn : List (String × Json) → Option Node
  | [] => none
  | (key, json) :: rest =>
    if key = "fallback" then
      match json with
      | .null => none
      | json => some (nodeOfJson json)
    else fallbackIn rest

/-- A wrapper written as an array of its fields. -/
def wrapperOfItems (wrapper : Wrapper) : List Json → Option Node
  | [] => none
  | json :: rest =>
    if rest.length ≤ 2 then
      some (wrapper.make (nodeOfJson json) (passedItem rest 0) (passedItem rest 1))
    else none

/-- A slot written as an array of its fields. -/
def slotOfItems : List Json → Option Node
  | [] => some (.slot none none)
  | [name] => (slotName? (some name)).map fun name ↦ .slot name none
  | [name, .null] => (slotName? (some name)).map fun name ↦ .slot name none
  | [name, json] => (slotName? (some name)).map fun name ↦ .slot name (some (nodeOfJson json))
  | _ => none

def nodesOfJson : List Json → List Node
  | [] => []
  | json :: rest => nodeOfJson json :: nodesOfJson rest

end

def elementOfJson : Json → Decoded Element
  | .object members => elementWith members (childrenIn members)
  | json => Decode.wrongType json (.record "UidlElement")

/-- The object of an element whose children are written already. -/
def elementJson (elementType : String) (name : Option String) (attrs style : Option (KeyMap Value))
    (children : Option (List Json)) (extra : KeyMap Json) : Json :=
  .ofMembers (("elementType", .text elementType) :: Json.member "name" (name.map .text) ++
    Json.member "attrs" (attrs.map valuesToJson) ++ Json.member "style" (style.map valuesToJson) ++
    Json.member "children" (children.map .array) ++ extra.entries)

/-- The object of a node that wraps a single one. -/
def wrapperJson (node : Json) (first : String × Option Json) (second : String × Option Json) :
    Json :=
  .ofMembers (("node", node) :: Json.member first.1 first.2 ++ Json.member second.1 second.2)

mutual

def Node.toJson : Node → Json
  | .element element => tagged "element" (elementToJson element)
  | .inject markup => tagged "inject" (.text markup)
  | .static content => tagged "static" content
  | .dynamic content => tagged "dynamic" content
  | .raw content => tagged "raw" (.text content)
  | .conditional node reference value =>
    tagged "conditional" (wrapperJson node.toJson ("reference", reference) ("value", value))
  | .repeated node dataSource details =>
    tagged "repeat" (wrapperJson node.toJson ("dataSource", dataSource) ("meta", details))
  | .slot name fallback =>
    tagged "slot" (.ofMembers (Json.member "name" (name.map .text) ++
      Json.member "fallback" (fallbackToJson fallback)))
  | .other json => json

def elementToJson : ElementOf Node → Json
  | ⟨elementType, name, attrs, style, children, extra⟩ =>
    elementJson elementType name attrs style (childrenToJson children) extra

def childrenToJson : Option (List Node) → Option (List Json)
  | none => none
  | some children => some (nodesToJson children)

def fallbackToJson : Option Node → Option Json
  | none => none
  | some node => some node.toJson

def nodesToJson : List Node → List Json
  | [] => []
  | node :: rest => node.toJson :: nodesToJson rest

end

/-- Two nodes are the same if they are written the same. -/
def Node.same (a b : Node) : Bool := a.toJson.same b.toJson

end MarkupIslands.Ui
