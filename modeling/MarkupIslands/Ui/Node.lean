import MarkupIslands.Ui.Value

/-!
# User-interface trees

A tree describes what a component shows. Elements hold attributes, styles and children; conditions,
repetitions and slots hold one node each; all other kinds are leaves. A field that is absent is kept
apart from one that is empty, and fields that belong to other tools are kept as they are.
-/

namespace MarkupIslands.Ui

/-- An element whose children are of the given type. -/
structure ElementOf (ν : Type) where
  elementType : String
  name : Option String := none
  attrs : Option (KeyMap Value) := none
  style : Option (KeyMap Value) := none
  children : Option (List ν) := none
  extra : KeyMap Json := .empty

/-- A node of a user-interface tree. -/
inductive Node
  | element (element : ElementOf Node)
  | inject (markup : String)
  | static (content : Json)
  | dynamic (content : Json)
  | raw (content : String)
  | conditional (node : Node) (reference value : Option Json)
  | repeated (node : Node) (dataSource details : Option Json)
  | slot (name : Option String) (fallback : Option Node)
  | other (json : Json)

instance : Inhabited Node := ⟨.static .null⟩

abbrev Element := ElementOf Node

/-- The known kinds, in the order by which a pair counts them. -/
def Node.kinds : List String :=
  ["element", "inject", "static", "dynamic", "raw", "conditional", "repeat", "slot"]

def Node.kind : Node → String
  | .element _ => "element"
  | .inject _ => "inject"
  | .static _ => "static"
  | .dynamic _ => "dynamic"
  | .raw _ => "raw"
  | .conditional .. => "conditional"
  | .repeated .. => "repeat"
  | .slot .. => "slot"
  | .other _ => "other"

/-- The element type of an island of raw markup. -/
def islandType : String := "html-node"

def containerType : String := "container"

/-- The attribute that holds the markup of an island. -/
def markupAttribute : String := "html"

namespace ElementOf

variable {ν : Type}

def attributes (element : ElementOf ν) : KeyMap Value := element.attrs.getD .empty

def styles (element : ElementOf ν) : KeyMap Value := element.style.getD .empty

def childList (element : ElementOf ν) : List ν := element.children.getD []

/-- An island is an element of the island type that carries its markup. -/
def isIsland (element : ElementOf ν) : Bool :=
  element.elementType == islandType && element.attributes.contains markupAttribute

def setType (element : ElementOf ν) (elementType : String) : ElementOf ν :=
  { element with elementType }

def setAttribute (element : ElementOf ν) (key : String) (value : Value) : ElementOf ν :=
  { element with attrs := some (element.attributes.insert key value) }

/-- The element without an attribute. The field is there afterwards even if it was absent. -/
def removeAttribute (element : ElementOf ν) (key : String) : ElementOf ν :=
  { element with attrs := some (element.attributes.erase key) }

def setStyle (element : ElementOf ν) (key : String) (value : Value) : ElementOf ν :=
  { element with style := some (element.styles.insert key value) }

def pushChild (element : ElementOf ν) (child : ν) : ElementOf ν :=
  { element with children := some (element.childList ++ [child]) }

end ElementOf

end MarkupIslands.Ui
