import MarkupIslands.Markup.Construction.State

/-!
# Formatting elements

A formatting element such as `b` may be closed out of order: text after the block that cut it off
is formatted again. The list of formatting elements remembers which ones to reopen, and an end tag
in the wrong place splits the element around the blocks inside it.
-/

namespace MarkupIslands.Markup

namespace Formatting

def isMarker : Formatting → Bool
  | .marker => true
  | .element .. => false

def hasId (id : NodeId) : Formatting → Bool
  | .marker => false
  | .element id' _ => id == id'

def tag? : Formatting → Option Tag
  | .marker => none
  | .element _ tag => some tag

def sinceMarker (entries : List Formatting) : List Formatting := entries.takeWhile (!·.isMarker)

/-- Two tags that make the same element, whatever the order of their attributes. -/
def sameTag (a b : Tag) : Bool :=
  a.name == b.name && a.attributes.length == b.attributes.length &&
    a.attributes.all b.attributes.contains

end Formatting

namespace Construction

open Formatting (sinceMarker)

/-- Keeps formatting from reaching into what is opened next. -/
def markFormatting (s : Construction) : Construction :=
  { s with formatting := .marker :: s.formatting }

def clearFormatting (s : Construction) : Construction :=
  { s with formatting := (s.formatting.dropWhile (!·.isMarker)).drop 1 }

def formattingTag? (s : Construction) (id : NodeId) : Option Tag :=
  (s.formatting.find? (·.hasId id)).bind Formatting.tag?

def forgetFormatting (s : Construction) (id : NodeId) : Construction :=
  { s with formatting := s.formatting.filter (!·.hasId id) }

/-- Reopens the newest formatting elements that are not open, oldest first, up to a marker or an
open one. -/
def reopen (s : Construction) : List Formatting → Construction × List Formatting
  | [] => (s, [])
  | .marker :: rest => (s, .marker :: rest)
  | .element id tag :: rest =>
    if s.isOpen id then (s, .element id tag :: rest)
    else
      let (reopened, rest) := reopen s rest
      (reopened.insertTag tag, .element reopened.dom.size tag :: rest)

/-- Reopens the formatting elements that were cut off. -/
def reopenFormatting (s : Construction) : Construction :=
  let (reopened, formatting) := s.reopen s.formatting
  { reopened with formatting }

/-- Opens a formatting element. Of four equal ones since the last marker the oldest is forgotten. -/
def insertFormatting (s : Construction) (tag : Tag) : Construction :=
  let equal := (sinceMarker s.formatting).filter fun entry ↦
    entry.tag?.any (Formatting.sameTag tag)
  let formatting :=
    match equal.getLast? with
    | some oldest => if 3 ≤ equal.length then s.formatting.erase oldest else s.formatting
    | none => s.formatting
  { s.insertTag tag with formatting := .element s.dom.size tag :: formatting }

/-- An end tag without a rule of its own closes the innermost open element of its name, unless an
element that it cannot close stands before it. -/
def closeNamed (s : Construction) (tag : String) : Construction :=
  let isEnd (element : OpenElement) : Bool :=
    element.name.isHtml [tag] || element.name.isSpecial
  match s.stack.find? isEnd with
  | some element =>
    if element.name.isHtml [tag] then (s.closeImpliedExcept tag).popThroughNamed tag else s
  | none => s

/-! ## Splitting a misnested element -/

/-- A split in progress. -/
structure Split where
  state : Construction
  /-- The innermost open elements kept between the block and the formatting element, outermost
  first. -/
  kept : List OpenElement := []
  /-- The node that goes into the next element outwards. -/
  last : NodeId
  /-- The formatting entry that the new entry goes above. -/
  bookmark : Option NodeId := none
  count : Nat := 0

/-- Goes outwards over one element between the block and the formatting element: a formatting
element near the block is made anew around what was collected, every other element is closed. -/
def splitStep (split : Split) (element : OpenElement) : Split :=
  let split := { split with count := split.count + 1 }
  match split.state.formattingTag? element.id with
  | none => split
  | some tag =>
    if 3 < split.count then { split with state := split.state.forgetFormatting element.id }
    else
      let s := split.state
      let id := s.dom.size
      let dom := create s.dom ⟨.html, tag.name⟩ (tag.attributes.map .ordinary)
      let formatting := s.formatting.map fun entry ↦
        if entry.hasId element.id then .element id tag else entry
      { split with
        state := { s with dom := (dom.detach split.last).append id split.last, formatting }
        kept := ⟨id, ⟨.html, tag.name⟩⟩ :: split.kept
        last := id
        bookmark := split.bookmark.or (some id) }

/-- Puts the entry of the new element into the list of formatting elements: in the place of the old
one, or above the bookmark. -/
def placeFormatting (formatting : List Formatting) (bookmark : Option NodeId) (old : NodeId)
    (entry : Formatting) : List Formatting :=
  match bookmark with
  | none => formatting.map fun other ↦ if other.hasId old then entry else other
  | some id =>
    (formatting.takeWhile (!·.hasId id) ++ entry :: formatting.dropWhile (!·.hasId id)).filter
      (!·.hasId old)

/-- Splits a formatting element around the block `block`. The open elements above the block are
`inner`, those between the block and the formatting element `between`, and those around the
formatting element `around`; each list has its innermost element first. -/
def splitAround (s : Construction) (id : NodeId) (tag : Tag)
    (inner : List OpenElement) (block : OpenElement) (between around : List OpenElement) :
    Construction :=
  let split := between.foldl splitStep { state := s, last := block.id }
  let s := split.state
  let ancestor := around.headD block
  let s := { s with dom := s.dom.detach split.last }
  let s := { s with dom := s.dom.put (s.placeIn ancestor) split.last }
  let fresh := s.dom.size
  let name : ElementName := ⟨.html, tag.name⟩
  let dom := create s.dom name (tag.attributes.map .ordinary)
  { s with
    dom := (dom.moveChildren block.id fresh).append block.id fresh
    formatting := placeFormatting s.formatting split.bookmark id (.element fresh tag)
    stack := inner ++ ⟨fresh, name⟩ :: block :: split.kept.reverse ++ around }

/-- Closes the newest formatting element of a name. Blocks inside it are taken out one after the
other, at most `rounds` of them. -/
def closeFormatting (s : Construction) (tag : String) : (rounds : Nat) → Construction
  | 0 => s
  | rounds + 1 =>
    match (sinceMarker s.formatting).find? (·.tag?.any (·.name == tag)) with
    | none | some .marker => s.closeNamed tag
    | some (.element id entryTag) =>
      if !s.isOpen id then s.forgetFormatting id
      else if !findsOpen ElementName.boundsScope (·.id == id) s.stack then s
      else
        let above := s.stack.takeWhile (·.id != id)
        let around := (s.stack.dropWhile (·.id != id)).drop 1
        match above.reverse.find? (·.name.isSpecial) with
        | none => { s with stack := around }.forgetFormatting id
        | some block =>
          let inner := above.takeWhile (·.id != block.id)
          let between := (above.dropWhile (·.id != block.id)).drop 1
          (s.splitAround id entryTag inner block between around).closeFormatting tag rounds

def endFormatting (s : Construction) (tag : String) : Construction :=
  match s.current? with
  | some element =>
    if element.name.isHtml [tag] && !s.formatting.any (·.hasId element.id) then s.pop
    else s.closeFormatting tag 8
  | none => s.closeFormatting tag 8

def closeAnchor (s : Construction) : Construction :=
  match (sinceMarker s.formatting).find? (·.tag?.any (·.name == "a")) with
  | some (.element id _) => ((s.endFormatting "a").forgetFormatting id).removeOpen id
  | some .marker | none => s

end Construction

end MarkupIslands.Markup
