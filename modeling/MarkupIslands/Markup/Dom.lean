import MarkupIslands.Markup.Attribute
import MarkupIslands.Markup.ElementName
import MarkupIslands.Markup.Node

/-!
# Trees under construction

While markup is read, elements are moved, split and reopened, so nodes need an identity. A `Dom`
keeps all nodes made so far in a table; a node's identity is its place in the table, and every node
lists its children. The finished tree is read off with `Dom.node?`.
-/

namespace MarkupIslands.Markup

/-- The identity of a node: its place in the table. -/
abbrev NodeId := Nat

/-- What a node is. The children of a template stand under a container of their own. -/
inductive Content
  | container
  | element (name : ElementName) (attributes : List Attribute) (contents : Option NodeId)
  | text (value : String)
  | comment (value : String)
  | doctype (name : String)
deriving DecidableEq, Repr

structure Cell where
  content : Content
  children : List NodeId := []
deriving DecidableEq, Repr

/-- All nodes made so far. -/
structure Dom where
  cells : Array Cell
deriving DecidableEq, Repr

namespace Dom

/-- The identity of the container that holds the whole document. -/
def document : NodeId := 0

def empty : Dom := ⟨#[⟨.container, []⟩]⟩

instance : Inhabited Dom := ⟨empty⟩

def size (dom : Dom) : Nat := dom.cells.size

def content? (dom : Dom) (id : NodeId) : Option Content := dom.cells[id]?.map Cell.content

def children (dom : Dom) (id : NodeId) : List NodeId :=
  (dom.cells[id]?.map Cell.children).getD []

def modify (dom : Dom) (id : NodeId) (change : Cell → Cell) : Dom :=
  match dom.cells[id]? with
  | some cell => ⟨dom.cells.setIfInBounds id (change cell)⟩
  | none => dom

/-- Adds a node that stands nowhere yet; its identity is the former size. -/
def add (dom : Dom) (content : Content) : Dom := ⟨dom.cells.push ⟨content, []⟩⟩

/-- Makes `child` the last child of `parent`. -/
def append (dom : Dom) (parent child : NodeId) : Dom :=
  dom.modify parent fun cell ↦ { cell with children := cell.children ++ [child] }

def parent? (dom : Dom) (child : NodeId) : Option NodeId :=
  dom.cells.findIdx? fun cell ↦ cell.children.contains child

def detach (dom : Dom) (child : NodeId) : Dom :=
  match dom.parent? child with
  | some parent =>
    dom.modify parent fun cell ↦ { cell with children := cell.children.erase child }
  | none => dom

/-- The list with an item put before another one. -/
def before (sibling item : NodeId) (items : List NodeId) : List NodeId :=
  items.takeWhile (· != sibling) ++ item :: items.dropWhile (· != sibling)

def moveChildren (dom : Dom) (source target : NodeId) : Dom :=
  let moved := dom.children source
  (dom.modify source fun cell ↦ { cell with children := [] }).modify target
    fun cell ↦ { cell with children := cell.children ++ moved }

/-- Where a new node goes. -/
inductive Place
  | lastIn (parent : NodeId)
  | beforeIn (parent sibling : NodeId)
deriving DecidableEq, Repr

/-- Puts a node into place. -/
def put (dom : Dom) (place : Place) (child : NodeId) : Dom :=
  match place with
  | .lastIn parent => dom.append parent child
  | .beforeIn parent sibling =>
    dom.modify parent fun cell ↦ { cell with children := before sibling child cell.children }

def neighbour? (dom : Dom) : Place → Option NodeId
  | .lastIn parent => (dom.children parent).getLast?
  | .beforeIn parent sibling => ((dom.children parent).takeWhile (· != sibling)).getLast?

/-- Puts a character into place. It joins the text just before it, if there is one. -/
def putChar (dom : Dom) (place : Place) (c : Char) : Dom :=
  let joined? : Option Dom := do
    let id ← dom.neighbour? place
    let .text value ← dom.content? id | none
    return dom.modify id fun cell ↦ { cell with content := .text (value.push c) }
  match joined? with
  | some joined => joined
  | none => (dom.add (.text (String.singleton c))).put place dom.size

def contents? (dom : Dom) (id : NodeId) : Option NodeId :=
  match dom.content? id with
  | some (.element _ _ contents) => contents
  | _ => none

/-- The attributes of an element with those added that it does not have yet. -/
def addMissing (dom : Dom) (id : NodeId) (attributes : List Attribute) : Dom :=
  dom.modify id fun cell ↦
    match cell.content with
    | .element name old contents =>
      let new := attributes.filter fun attr ↦ !old.any (·.name == attr.name)
      { cell with content := .element name (old ++ new) contents }
    | _ => cell

/-- The finished tree of a node that lies at most `depth` levels deep. Containers are no nodes of a
finished tree. -/
def node? (dom : Dom) : (depth : Nat) → NodeId → Option Node
  | 0, _ => none
  | depth + 1, id =>
    match dom.cells[id]? with
    | some ⟨.element name attributes contents, children⟩ =>
      let inside := (contents.map dom.children).getD children
      some (.element name.tag (.ofList (attributes.map Attribute.entry))
        (inside.filterMap (node? dom depth)))
    | some ⟨.text value, _⟩ => some (.text value)
    | some ⟨.comment value, _⟩ => some (.comment value)
    | some ⟨.doctype name, _⟩ => some (.doctype name)
    | some ⟨.container, _⟩ | none => none

/-- The finished trees under a node; no tree is deeper than the number of nodes. -/
def nodesIn (dom : Dom) (id : NodeId) : List Node :=
  (dom.children id).filterMap (dom.node? dom.size)

end Dom

end MarkupIslands.Markup
