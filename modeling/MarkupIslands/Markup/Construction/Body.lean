import MarkupIslands.Markup.Construction.Foreign
import MarkupIslands.Markup.Construction.Head

/-!
# Rules for the body of a document

The rules that hold for most content. Tags fall into classes with one rule each; a tag outside all
classes opens an element of its name or closes one.
-/

namespace MarkupIslands.Markup

inductive BodyStart
  | root
  | headContent
  | body
  | frameset
  | block
  | heading
  | preformatted
  | form
  | listItem
  | definition
  | plaintext
  | button
  | anchor
  | formatting
  | unbroken
  | embedded
  | table
  | void
  | parameter
  | thematicBreak
  | image
  | textarea
  | xmp
  | iframe
  | verbatim
  | select
  | choice
  | rubyBase
  | rubyText
  | math
  | svg
  | misplaced
  | other
deriving DecidableEq, Repr

def BodyStart.ofName (tag : String) : BodyStart :=
  match tag with
  | "html" => .root
  | "base" | "basefont" | "bgsound" | "link" | "meta" | "noframes" | "script" | "style"
  | "template" | "title" => .headContent
  | "body" => .body
  | "frameset" => .frameset
  | "address" | "article" | "aside" | "blockquote" | "center" | "details" | "dialog" | "dir"
  | "div" | "dl" | "fieldset" | "figcaption" | "figure" | "footer" | "header" | "hgroup" | "main"
  | "menu" | "nav" | "ol" | "p" | "search" | "section" | "summary" | "ul" => .block
  | "h1" | "h2" | "h3" | "h4" | "h5" | "h6" => .heading
  | "pre" | "listing" => .preformatted
  | "form" => .form
  | "li" => .listItem
  | "dd" | "dt" => .definition
  | "plaintext" => .plaintext
  | "button" => .button
  | "a" => .anchor
  | "b" | "big" | "code" | "em" | "font" | "i" | "s" | "small" | "strike" | "strong" | "tt"
  | "u" => .formatting
  | "nobr" => .unbroken
  | "applet" | "marquee" | "object" => .embedded
  | "table" => .table
  | "area" | "br" | "embed" | "img" | "input" | "keygen" | "wbr" => .void
  | "param" | "source" | "track" => .parameter
  | "hr" => .thematicBreak
  | "image" => .image
  | "textarea" => .textarea
  | "xmp" => .xmp
  | "iframe" => .iframe
  | "noembed" | "noscript" => .verbatim
  | "select" => .select
  | "optgroup" | "option" => .choice
  | "rb" | "rtc" => .rubyBase
  | "rp" | "rt" => .rubyText
  | "math" => .math
  | "svg" => .svg
  | "caption" | "col" | "colgroup" | "frame" | "head" | "tbody" | "td" | "tfoot" | "th" | "thead"
  | "tr" => .misplaced
  | _ => .other

inductive BodyEnd
  | template
  | body
  | root
  | block
  | form
  | paragraph
  | listItem
  | definition
  | heading
  | formatting
  | embedded
  | lineBreak
  | other
deriving DecidableEq, Repr

def BodyEnd.ofName (tag : String) : BodyEnd :=
  match tag with
  | "template" => .template
  | "body" => .body
  | "html" => .root
  | "address" | "article" | "aside" | "blockquote" | "button" | "center" | "details" | "dialog"
  | "dir" | "div" | "dl" | "fieldset" | "figcaption" | "figure" | "footer" | "header" | "hgroup"
  | "listing" | "main" | "menu" | "nav" | "ol" | "pre" | "search" | "section" | "summary"
  | "ul" => .block
  | "form" => .form
  | "p" => .paragraph
  | "li" => .listItem
  | "dd" | "dt" => .definition
  | "h1" | "h2" | "h3" | "h4" | "h5" | "h6" => .heading
  | "a" | "b" | "big" | "code" | "em" | "font" | "i" | "nobr" | "s" | "small" | "strike"
  | "strong" | "tt" | "u" => .formatting
  | "applet" | "marquee" | "object" => .embedded
  | "br" => .lineBreak
  | _ => .other

namespace Construction

/-- Something has been shown, so no frameset can take the place of the body. -/
def forbidFrameset (s : Construction) : Construction := { s with framesetAllowed := false }

/-- A character of text. White space alone leaves the choice of a frameset open. -/
def bodyChar (s : Construction) (c : Char) : Construction :=
  if c = '\x00' then s
  else
    let s := s.reopenFormatting.insertChar c
    if isSpaceText c then s else s.forbidFrameset

/-- The open `body` element, which stands right inside the root. -/
def body? (s : Construction) : Option OpenElement :=
  match s.stack.reverse with
  | _ :: element :: _ => if element.name.isHtml ["body"] then some element else none
  | _ => none

/-- A second body tag adds its attributes to the body. -/
def mergeBody (s : Construction) (tag : Tag) : Construction :=
  match s.body? with
  | some element =>
    if s.inTemplateContent then s
    else
      { s.forbidFrameset with
        dom := s.dom.addMissing element.id (tag.attributes.map .ordinary) }
  | none => s

/-- A frameset takes the place of the body as long as nothing has been shown. -/
def startFrameset (s : Construction) (tag : Tag) : Construction :=
  match s.framesetAllowed, s.body? with
  | true, some element =>
    let s := { s with
      dom := s.dom.detach element.id
      stack := s.stack.drop (s.stack.length - 1) }
    { s.insertTag tag with mode := .inFrameset }
  | _, _ => s

/-- A block closes the paragraph around its place. -/
def startBlock (s : Construction) (tag : Tag) : Construction :=
  s.closeParagraphInScope.insertTag tag

/-- A heading closes the paragraph around its place and a heading right around it. -/
def startHeading (s : Construction) (tag : Tag) : Construction :=
  let s := s.closeParagraphInScope
  (if s.currentIs ElementName.isHeading then s.pop else s).insertTag tag

/-- A line feed right after the start tag of preformatted text is dropped. -/
def startPreformatted (s : Construction) (tag : Tag) : Construction :=
  { s.startBlock tag with skipLineFeed := true, framesetAllowed := false }

/-- Forms do not nest, except through templates. -/
def startForm (s : Construction) (tag : Tag) : Construction :=
  if s.form.isSome && !s.inTemplateContent then s
  else
    let s := s.closeParagraphInScope
    let id := s.dom.size
    let s := s.insertTag tag
    if s.inTemplateContent then s else { s with form := some id }

/-- An item closes the open item of its list. -/
def startItem (s : Construction) (items : List String) (tag : Tag) : Construction :=
  let s := s.forbidFrameset
  let isBound (element : OpenElement) : Bool :=
    element.name.isHtml items ||
      (element.name.isSpecial && !element.name.isHtml ["address", "div", "p"])
  let s :=
    match s.stack.find? isBound with
    | some element =>
      if element.name.isHtml items then
        (s.closeImpliedExcept element.name.tag).popThroughNamed element.name.tag
      else s
    | none => s
  s.startBlock tag

/-- Buttons do not nest. -/
def startButton (s : Construction) (tag : Tag) : Construction :=
  let s :=
    if s.namedInScope ElementName.boundsScope "button" then
      s.closeImplied.popThroughNamed "button"
    else s
  (s.reopenFormatting.insertTag tag).forbidFrameset

/-- Anchors do not nest: an open one is closed first. -/
def startAnchor (s : Construction) (tag : Tag) : Construction :=
  s.closeAnchor.reopenFormatting.insertFormatting tag

/-- A formatting element stands inside the formatting elements that have to be reopened. -/
def startFormatting (s : Construction) (tag : Tag) : Construction :=
  s.reopenFormatting.insertFormatting tag

/-- An element against line breaks does not nest in its own kind. -/
def startUnbroken (s : Construction) (tag : Tag) : Construction :=
  let s := s.reopenFormatting
  let s :=
    if s.namedInScope ElementName.boundsScope "nobr" then
      (s.endFormatting "nobr").reopenFormatting
    else s
  s.insertFormatting tag

/-- Formatting does not reach into embedded objects. -/
def startEmbedded (s : Construction) (tag : Tag) : Construction :=
  (s.reopenFormatting.insertTag tag).markFormatting.forbidFrameset

/-- A table closes the paragraph around its place, except under the oldest layout rules. -/
def startTable (s : Construction) (tag : Tag) : Construction :=
  let s := if s.legacyLayout then s else s.closeParagraphInScope
  { (s.insertTag tag).forbidFrameset with mode := .inTable }

def isHiddenInput (tag : Tag) : Bool := tag.hasValue "type" "hidden"

/-- An element without content. A hidden input control leaves the choice of a frameset open. -/
def startVoid (s : Construction) (tag : Tag) : Construction :=
  let s := s.reopenFormatting.insertClosedTag tag
  if tag.name = "input" && isHiddenInput tag then s else s.forbidFrameset

def startThematicBreak (s : Construction) (tag : Tag) : Construction :=
  (s.closeParagraphInScope.insertClosedTag tag).forbidFrameset

/-- A selection list inside a table can be closed by a part of the table. -/
def startSelect (s : Construction) (tag : Tag) : Construction :=
  let inTable := [.inTable, .inCaption, .inTableBody, .inRow, .inCell].contains s.mode
  { (s.reopenFormatting.insertTag tag).forbidFrameset with
    mode := if inTable then .inSelectInTable else .inSelect }

def startChoice (s : Construction) (tag : Tag) : Construction :=
  (if s.currentNamed "option" then s.pop else s).reopenFormatting.insertTag tag

/-- Annotations of a ruby text close one another. -/
def startRuby (s : Construction) (kept : List String) (tag : Tag) : Construction :=
  let s :=
    if s.namedInScope ElementName.boundsScope "ruby" then
      s.popWhile fun name ↦ name.mayEnd && !name.isHtml kept
    else s
  s.insertTag tag

def bodyStart (s : Construction) (tag : Tag) : Outcome :=
  match BodyStart.ofName tag.name with
  | .root => (s.mergeRoot tag).done
  | .headContent => s.startHeadContent tag
  | .body => (s.mergeBody tag).done
  | .frameset => (s.startFrameset tag).done
  | .block => (s.startBlock tag).done
  | .heading => (s.startHeading tag).done
  | .preformatted => (s.startPreformatted tag).done
  | .form => (s.startForm tag).done
  | .listItem => (s.startItem ["li"] tag).done
  | .definition => (s.startItem ["dd", "dt"] tag).done
  | .plaintext => ⟨s.startBlock tag, .plain⟩
  | .button => (s.startButton tag).done
  | .anchor => (s.startAnchor tag).done
  | .formatting => (s.startFormatting tag).done
  | .unbroken => (s.startUnbroken tag).done
  | .embedded => (s.startEmbedded tag).done
  | .table => (s.startTable tag).done
  | .void => (s.startVoid tag).done
  | .parameter => (s.insertClosedTag tag).done
  | .thematicBreak => (s.startThematicBreak tag).done
  | .image => (s.startVoid { tag with name := "img" }).done
  | .textarea => { s.forbidFrameset with skipLineFeed := true }.insertRaw tag .references
  | .xmp => s.closeParagraphInScope.reopenFormatting.forbidFrameset.insertRaw tag .verbatim
  | .iframe => s.forbidFrameset.insertRaw tag .verbatim
  | .verbatim => s.insertRaw tag .verbatim
  | .select => (s.startSelect tag).done
  | .choice => (s.startChoice tag).done
  | .rubyBase => (s.startRuby [] tag).done
  | .rubyText => (s.startRuby ["rtc"] tag).done
  | .math => (s.insertForeign (foreignName .math "math") tag).done
  | .svg => (s.insertForeign (foreignName .svg "svg") tag).done
  | .misplaced => s.done
  | .other => (s.reopenFormatting.insertTag tag).done

/-- Closes a block that is open in scope, with what is open inside it. -/
def endBlock (s : Construction) (tag : String) : Construction :=
  if s.namedInScope ElementName.boundsScope tag then s.closeImplied.popThroughNamed tag else s

/-- Closes a form. Outside templates what is open inside it stays open. -/
def endForm (s : Construction) : Construction :=
  if s.inTemplateContent then s.endBlock "form"
  else
    match s.form with
    | none => s
    | some id =>
      let s := { s with form := none }
      if findsOpen ElementName.boundsScope (·.id == id) s.stack then s.closeImplied.removeOpen id
      else s

/-- A paragraph that is closed without having been opened is empty. -/
def endParagraph (s : Construction) : Construction :=
  (if s.namedInScope ElementName.boundsButtonScope "p" then s else s.insertImplied "p")
    |>.closeParagraph

def endItem (s : Construction) (bounds : ElementName → Bool) (tag : String) : Construction :=
  if s.namedInScope bounds tag then (s.closeImpliedExcept tag).popThroughNamed tag else s

/-- The end tag of any heading closes the open one. -/
def endHeading (s : Construction) : Construction :=
  if s.inScope ElementName.boundsScope ElementName.isHeading then
    s.closeImplied.popThrough ElementName.isHeading
  else s

def endEmbedded (s : Construction) (tag : String) : Construction :=
  if s.namedInScope ElementName.boundsScope tag then
    (s.closeImplied.popThroughNamed tag).clearFormatting
  else s

def bodyEnd (s : Construction) (tag : String) : Outcome :=
  match BodyEnd.ofName tag with
  | .template => s.closeTemplate.done
  | .body =>
    if s.namedInScope ElementName.boundsScope "body" then { s with mode := .afterBody }.done
    else s.done
  | .root =>
    if s.namedInScope ElementName.boundsScope "body" then s.againIn .afterBody else s.done
  | .block => (s.endBlock tag).done
  | .form => s.endForm.done
  | .paragraph => s.endParagraph.done
  | .listItem => (s.endItem ElementName.boundsListScope tag).done
  | .definition => (s.endItem ElementName.boundsScope tag).done
  | .heading => s.endHeading.done
  | .formatting => (s.endFormatting tag).done
  | .embedded => (s.endEmbedded tag).done
  | .lineBreak => (s.startVoid ⟨"br", [], false⟩).done
  | .other => (s.closeNamed tag).done

/-- The end of the text inside a template closes the template and is seen again behind it. -/
def endInTemplate (s : Construction) : Outcome :=
  if s.inTemplateContent then
    let s := (s.popThroughNamed "template").clearFormatting
    let s := { s with templateModes := s.templateModes.drop 1 }.resetMode
    ⟨s, .again⟩
  else s.done

def inBody (s : Construction) (token : Token) : Outcome :=
  match token with
  | .char c => (s.bodyChar c).done
  | .comment text => (s.insertComment text).done
  | .startTag tag => s.bodyStart tag
  | .endTag name => s.bodyEnd name
  | .endOfText => if s.templateModes.isEmpty then s.done else s.endInTemplate
  | .doctype _ | .mistake => s.done

def inText (s : Construction) (token : Token) : Outcome :=
  match token with
  | .char c => (s.insertChar c).done
  | .endTag name =>
    ⟨{ s.pop with mode := s.returnMode }, if name = "script" then .afterScript else .done⟩
  | .endOfText => s.pop.againIn s.returnMode
  | _ => s.done

end Construction

end MarkupIslands.Markup
