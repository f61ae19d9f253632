import MarkupIslands.Markup.Dom
import MarkupIslands.Markup.Token.Basic

/-!
# State of tree construction

A tree grows token by token. The state holds the nodes made so far, the elements that are still
open, the insertion mode, which selects the rules for the next token, and the formatting elements
that have to be reopened when text goes on after them. Both stacks have their newest entry first.
-/

namespace MarkupIslands.Markup

/-- The insertion modes: where in a document the next token stands. -/
inductive Mode
  | initial
  | beforeHtml
  | beforeHead
  | inHead
  | afterHead
  | inBody
  | inText
  | inTable
  | inTableText
  | inCaption
  | inColumnGroup
  | inTableBody
  | inRow
  | inCell
  | inSelect
  | inSelectInTable
  | inTemplate
  | afterBody
  | inFrameset
  | afterFrameset
  | afterAfterBody
  | afterAfterFrameset
deriving DecidableEq, Repr

structure OpenElement where
  id : NodeId
  name : ElementName
deriving DecidableEq, Repr

/-- A formatting element with the tag that made it, or a bound that reopening does not cross. -/
inductive Formatting
  | marker
  | element (id : NodeId) (tag : Tag)
deriving DecidableEq, Repr

/-- A tree under construction. -/
structure Construction where
  dom : Dom := .empty
  mode : Mode := .initial
  /-- The mode to go back to after raw text or the text of a table. -/
  returnMode : Mode := .inBody
  templateModes : List Mode := []
  /-- Text seen inside a table that has no place yet. -/
  tableText : List Char := []
  stack : List OpenElement := []
  formatting : List Formatting := []
  head : Option NodeId := none
  form : Option NodeId := none
  framesetAllowed : Bool := true
  skipLineFeed : Bool := false
  /-- Whether content that may not stand in a table goes before it. -/
  fostering : Bool := false
  /-- Whether the oldest layout rules hold, under which a table may stand in a paragraph. -/
  legacyLayout : Bool := false
  /-- Whether the text is read as if it stood inside a `body` element. -/
  isFragment : Bool := false
deriving Repr

/-- What follows a rule: the token is done with, the same token is looked at again in the mode now
set, the text that follows is raw or plain, or it stands behind a script. -/
inductive Next
  | done
  | again
  | raw (kind : RawKind)
  | plain
  | afterScript
deriving DecidableEq, Repr

/-- The state after a rule, and what follows. -/
structure Outcome where
  state : Construction
  next : Next := .done
deriving Repr

namespace Construction

def done (s : Construction) : Outcome := ⟨s, .done⟩

def againIn (s : Construction) (mode : Mode) : Outcome := ⟨{ s with mode }, .again⟩

/-! ## Open elements -/

def current? (s : Construction) : Option OpenElement := s.stack.head?

def currentIs (s : Construction) (p : ElementName → Bool) : Bool :=
  s.current?.any fun element ↦ p element.name

def currentNamed (s : Construction) (tag : String) : Bool := s.currentIs (·.isHtml [tag])

def hasOpen (s : Construction) (tag : String) : Bool :=
  s.stack.any fun element ↦ element.name.isHtml [tag]

/-- Whether the place for new content lies inside a template. -/
def inTemplateContent (s : Construction) : Bool := s.hasOpen "template"

/-- Whether an open element is found before a bound of the search. -/
def findsOpen (bounds : ElementName → Bool) (p : OpenElement → Bool) : List OpenElement → Bool
  | [] => false
  | element :: rest => p element || (!bounds element.name && findsOpen bounds p rest)

/-- Whether an element of a class is open before a bound. -/
def inScope (s : Construction) (bounds : ElementName → Bool) (p : ElementName → Bool) : Bool :=
  findsOpen bounds (p ·.name) s.stack

def namedInScope (s : Construction) (bounds : ElementName → Bool) (tag : String) : Bool :=
  s.inScope bounds (·.isHtml [tag])

def pop (s : Construction) : Construction := { s with stack := s.stack.drop 1 }

/-- Closes open elements up to and including the first one in a class. -/
def popThrough (s : Construction) (p : ElementName → Bool) : Construction :=
  { s with stack := (s.stack.dropWhile fun element ↦ !p element.name).drop 1 }

def popThroughNamed (s : Construction) (tag : String) : Construction :=
  s.popThrough (·.isHtml [tag])

/-- Closes open elements down to the first one in a class, which stays open. -/
def popTo (s : Construction) (p : ElementName → Bool) : Construction :=
  { s with stack := s.stack.dropWhile fun element ↦ !p element.name }

def popWhile (s : Construction) (p : ElementName → Bool) : Construction :=
  { s with stack := s.stack.dropWhile fun element ↦ p element.name }

/-- Closes elements whose end tag may be left out. -/
def closeImplied (s : Construction) : Construction := s.popWhile ElementName.mayEnd

def closeImpliedExcept (s : Construction) (tag : String) : Construction :=
  s.popWhile fun name ↦ name.mayEnd && !name.isHtml [tag]

def push (s : Construction) (id : NodeId) (name : ElementName) : Construction :=
  { s with stack := ⟨id, name⟩ :: s.stack }

def isOpen (s : Construction) (id : NodeId) : Bool := s.stack.any (·.id == id)

def removeOpen (s : Construction) (id : NodeId) : Construction :=
  { s with stack := s.stack.filter (·.id != id) }

def closeParagraph (s : Construction) : Construction :=
  (s.closeImpliedExcept "p").popThroughNamed "p"

/-- Closes a paragraph that is open around the place of a block. -/
def closeParagraphInScope (s : Construction) : Construction :=
  if s.namedInScope ElementName.boundsButtonScope "p" then s.closeParagraph else s

/-! ## Places and insertion -/

/-- The last place inside an element; content of a template goes to the template's container. -/
def lastIn (dom : Dom) (element : OpenElement) : Dom.Place :=
  .lastIn ((dom.contents? element.id).getD element.id)

/-- The place for content that may not stand in a table: before the innermost table, or inside the
element around it if the table stands nowhere. A template bounds the search. -/
def fosterPlace (dom : Dom) : List OpenElement → Dom.Place
  | [] => .lastIn Dom.document
  | [element] => .lastIn element.id
  | element :: around :: rest =>
    if element.name.isHtml ["template"] then lastIn dom element
    else if element.name.isHtml ["table"] then
      match dom.parent? element.id with
      | some parent => .beforeIn parent element.id
      | none => .lastIn around.id
    else fosterPlace dom (around :: rest)

def placeIn (s : Construction) (target : OpenElement) : Dom.Place :=
  if s.fostering && target.name.isTablePart then fosterPlace s.dom s.stack
  else lastIn s.dom target

def place (s : Construction) : Dom.Place :=
  match s.current? with
  | some element => s.placeIn element
  | none => .lastIn Dom.document

def insertChar (s : Construction) (c : Char) : Construction :=
  { s with dom := s.dom.putChar s.place c }

def insertComment (s : Construction) (text : String) : Construction :=
  let place := s.place
  { s with dom := (s.dom.add (.comment text)).put place s.dom.size }

/-- Adds a comment as the last child of a given node. -/
def appendComment (s : Construction) (parent : NodeId) (text : String) : Construction :=
  { s with dom := (s.dom.add (.comment text)).append parent s.dom.size }

/-- Makes an element that stands nowhere yet. Its identity is the former number of nodes. -/
def create (dom : Dom) (name : ElementName) (attributes : List Attribute) : Dom :=
  if name.isHtml ["template"] then
    (dom.add (.element name attributes (some (dom.size + 1)))).add .container
  else dom.add (.element name attributes none)

def insertClosed (s : Construction) (name : ElementName) (attributes : List Attribute) :
    Construction :=
  let place := s.place
  { s with dom := (create s.dom name attributes).put place s.dom.size }

def insertOpen (s : Construction) (name : ElementName) (attributes : List Attribute) :
    Construction :=
  (s.insertClosed name attributes).push s.dom.size name

def insertTag (s : Construction) (tag : Tag) : Construction :=
  s.insertOpen ⟨.html, tag.name⟩ (tag.attributes.map .ordinary)

def insertClosedTag (s : Construction) (tag : Tag) : Construction :=
  s.insertClosed ⟨.html, tag.name⟩ (tag.attributes.map .ordinary)

/-- Makes an element that the text does not mention. -/
def insertImplied (s : Construction) (tag : String) : Construction :=
  s.insertOpen ⟨.html, tag⟩ []

def insertRoot (s : Construction) (attributes : List Attribute) : Construction :=
  let name : ElementName := ⟨.html, "html"⟩
  { s with dom := (create s.dom name attributes).append Dom.document s.dom.size }.push
    s.dom.size name

def startRaw (s : Construction) (kind : RawKind) : Outcome :=
  ⟨{ s with returnMode := s.mode, mode := .inText }, .raw kind⟩

def insertRaw (s : Construction) (tag : Tag) (kind : RawKind) : Outcome :=
  (s.insertTag tag).startRaw kind

/-! ## The insertion mode after a piece is closed -/

/-- The mode that the open elements call for. Below everything lies the context of the piece: the
`body` element for a fragment, the root element otherwise. -/
def modeOf (s : Construction) : List OpenElement → Mode
  | [] => .inBody
  | element :: rest =>
    let isLast := rest.isEmpty
    if isLast && s.isFragment then .inBody
    else if element.name.space != .html then modeOf s rest
    else
      match element.name.tag with
      | "select" =>
        let around := rest.find? (·.name.isHtml ["template", "table"])
        if around.any (·.name.isHtml ["table"]) then .inSelectInTable else .inSelect
      | "td" | "th" => if isLast then modeOf s rest else .inCell
      | "tr" => .inRow
      | "tbody" | "thead" | "tfoot" => .inTableBody
      | "caption" => .inCaption
      | "colgroup" => .inColumnGroup
      | "table" => .inTable
      | "template" => s.templateModes.headD .inBody
      | "head" => if isLast then modeOf s rest else .inHead
      | "body" => .inBody
      | "frameset" => .inFrameset
      | "html" => if s.head.isNone then .beforeHead else .afterHead
      | _ => modeOf s rest

/-- Sets the mode that the open elements call for. -/
def resetMode (s : Construction) : Construction := { s with mode := s.modeOf s.stack }

end Construction

end MarkupIslands.Markup
