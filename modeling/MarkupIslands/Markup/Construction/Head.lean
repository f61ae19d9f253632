import MarkupIslands.Markup.Construction.Formatting

/-!
# Rules for the content of a head

Metadata elements, scripts, style sheets and templates are read by these rules wherever they stand.
-/

namespace MarkupIslands.Markup

def isSpaceText (c : Char) : Bool :=
  c == ' ' || c == '\n' || c == '\t' || c == '\x0c' || c == '\r'

/-- Start tags that are read by the rules of a head in the body of a document as well. -/
def isHeadContent (tag : String) : Bool :=
  ["base", "basefont", "bgsound", "link", "meta", "noframes", "script", "style", "template",
    "title"].contains tag

namespace Construction

/-- A second root tag adds its attributes to the root element. -/
def mergeRoot (s : Construction) (tag : Tag) : Construction :=
  match s.stack.getLast? with
  | some root =>
    if s.inTemplateContent then s
    else { s with dom := s.dom.addMissing root.id (tag.attributes.map .ordinary) }
  | none => s

/-- Opens a template. Its content has a mode of its own, and formatting does not reach into it. -/
def openTemplate (s : Construction) (tag : Tag) : Construction :=
  { (s.insertTag tag).markFormatting with
    framesetAllowed := false
    mode := .inTemplate
    templateModes := .inTemplate :: s.templateModes }

def closeTemplate (s : Construction) : Construction :=
  if !s.inTemplateContent then s
  else
    let s := (s.popWhile ElementName.mayEndInTemplate).popThroughNamed "template"
    { s.clearFormatting with templateModes := s.templateModes.drop 1 }.resetMode

def startHeadContent (s : Construction) (tag : Tag) : Outcome :=
  match tag.name with
  | "title" => s.insertRaw tag .references
  | "noframes" | "style" | "noscript" => s.insertRaw tag .verbatim
  | "script" => s.insertRaw tag .script
  | "template" => (s.openTemplate tag).done
  | _ => (s.insertClosedTag tag).done

/-- Closes the head and looks at the token again behind it. -/
def leaveHead (s : Construction) : Outcome := s.pop.againIn .afterHead

def inHead (s : Construction) (token : Token) : Outcome :=
  match token with
  | .char c => if isSpaceText c then (s.insertChar c).done else s.leaveHead
  | .comment text => (s.insertComment text).done
  | .startTag tag =>
    if tag.name = "html" then (s.mergeRoot tag).done
    else if tag.name = "head" then s.done
    else if isHeadContent tag.name || tag.name = "noscript" then s.startHeadContent tag
    else s.leaveHead
  | .endTag "head" => { s.pop with mode := .afterHead }.done
  | .endTag "template" => s.closeTemplate.done
  | .endTag name => if ["body", "html", "br"].contains name then s.leaveHead else s.done
  | .endOfText => s.leaveHead
  | .doctype _ | .mistake => s.done

end Construction

end MarkupIslands.Markup
