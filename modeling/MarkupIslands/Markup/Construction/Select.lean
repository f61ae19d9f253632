import MarkupIslands.Markup.Construction.Body

/-!
# Rules for selection lists and for templates

A selection list holds options, groups of options and lines between them; other tags inside it are
dropped, and the tag of another input control closes it. The content of a template decides by its
first tag which rules it follows.
-/

namespace MarkupIslands.Markup

namespace Construction

def closeSelect (s : Construction) : Construction := (s.popThroughNamed "select").resetMode

def popNamed (s : Construction) (tag : String) : Construction :=
  if s.currentNamed tag then s.pop else s

/-- Closes the open option and the open group of options, as far as they are innermost. -/
def leaveChoice (s : Construction) : Construction := (s.popNamed "option").popNamed "optgroup"

def selectStart (s : Construction) (tag : Tag) : Outcome :=
  let isInSelect := s.namedInScope ElementName.boundsSelectScope "select"
  match tag.name with
  | "html" => (s.mergeRoot tag).done
  | "option" => ((s.popNamed "option").insertTag tag).done
  | "optgroup" => (s.leaveChoice.insertTag tag).done
  | "hr" => (s.leaveChoice.insertClosedTag tag).done
  | "select" => if isInSelect then s.closeSelect.done else s.done
  | "input" | "keygen" | "textarea" =>
    if isInSelect then ⟨s.closeSelect, .again⟩ else s.done
  | "script" | "template" => s.startHeadContent tag
  | _ => s.done

def selectEnd (s : Construction) (tag : String) : Construction :=
  match tag with
  | "optgroup" =>
    let isGrouped := (s.stack.drop 1).head?.any (·.name.isHtml ["optgroup"])
    (if isGrouped then s.popNamed "option" else s).popNamed "optgroup"
  | "option" => s.popNamed "option"
  | "select" =>
    if s.namedInScope ElementName.boundsSelectScope "select" then s.closeSelect else s
  | "template" => s.closeTemplate
  | _ => s

def inSelect (s : Construction) (token : Token) : Outcome :=
  match token with
  | .char c => (if c = '\x00' then s else s.insertChar c).done
  | .comment text => (s.insertComment text).done
  | .startTag tag => s.selectStart tag
  | .endTag name => (s.selectEnd name).done
  | .endOfText => s.inBody token
  | .doctype _ | .mistake => s.done

/-- A part of the table around a selection list closes the list. -/
def inSelectInTable (s : Construction) (token : Token) : Outcome :=
  let parts := ["caption", "table", "tbody", "tfoot", "thead", "tr", "td", "th"]
  match token with
  | .startTag tag =>
    if parts.contains tag.name then ⟨s.closeSelect, .again⟩ else s.inSelect token
  | .endTag name =>
    if parts.contains name then
      if s.namedInScope ElementName.boundsTableScope name then ⟨s.closeSelect, .again⟩ else s.done
    else s.inSelect token
  | _ => s.inSelect token

/-- Reads the rest of the template by other rules. -/
def followMode (s : Construction) (mode : Mode) : Outcome :=
  { s with templateModes := mode :: s.templateModes.drop 1 }.againIn mode

/-- The rules for the content of a template before its first tag. -/
def inTemplate (s : Construction) (token : Token) : Outcome :=
  match token with
  | .char _ | .comment _ => s.inBody token
  | .startTag tag =>
    if isHeadContent tag.name then s.startHeadContent tag
    else
      match tag.name with
      | "caption" | "colgroup" | "tbody" | "tfoot" | "thead" => s.followMode .inTable
      | "col" => s.followMode .inColumnGroup
      | "tr" => s.followMode .inTableBody
      | "td" | "th" => s.followMode .inRow
      | _ => s.followMode .inBody
  | .endTag "template" => s.closeTemplate.done
  | .endTag _ => s.done
  | .endOfText => s.endInTemplate
  | .doctype _ | .mistake => s.done

end Construction

end MarkupIslands.Markup
