import MarkupIslands.Markup.Construction.Body

/-!
# Rules for tables

The parts of a table open and close one another. Content that may not stand between them goes before
the table; text is held back until it is known to be white space or not.
-/

namespace MarkupIslands.Markup

namespace Construction

/-- Reads a token by the rules of a body, with new content put before the table. -/
def fosterInBody (s : Construction) (token : Token) : Outcome :=
  let outcome := { s with fostering := true }.inBody token
  { outcome with state := { outcome.state with fostering := false } }

/-- Text in a table is held back if a part of the table is current. -/
def tableChar (s : Construction) (c : Char) : Outcome :=
  if s.currentIs ElementName.isTablePart then
    { s with returnMode := s.mode, tableText := [] }.againIn .inTableText
  else s.fosterInBody (.char c)

/-- Places the text held back: white space where it stood, other text before the table. -/
def placeTableText (s : Construction) : Construction :=
  let text := s.tableText
  let s := { s with tableText := [] }
  if text.all isSpaceText then text.foldl insertChar s
  else text.foldl (fun s c ↦ (s.fosterInBody (.char c)).state) s

def inTableText (s : Construction) (token : Token) : Outcome :=
  match token with
  | .char c => if c = '\x00' then s.done else { s with tableText := s.tableText ++ [c] }.done
  | _ => s.placeTableText.againIn s.returnMode

/-- Opens a part of a table after closing what stands inside the innermost element of a class. -/
def openPart (s : Construction) (context : ElementName → Bool) (tag : Tag) (mode : Mode) :
    Construction :=
  { (s.popTo context).insertTag tag with mode }

/-- Opens a part of a table that the text leaves out, and looks at the token again inside it. -/
def implyPart (s : Construction) (context : ElementName → Bool) (tag : String) (mode : Mode) :
    Outcome :=
  ((s.popTo context).insertImplied tag).againIn mode

def tableStart (s : Construction) (tag : Tag) : Outcome :=
  let context := ElementName.boundsTableScope
  match tag.name with
  | "caption" =>
    { ((s.popTo context).markFormatting.insertTag tag) with mode := .inCaption }.done
  | "colgroup" => (s.openPart context tag .inColumnGroup).done
  | "col" => s.implyPart context "colgroup" .inColumnGroup
  | "tbody" | "tfoot" | "thead" => (s.openPart context tag .inTableBody).done
  | "td" | "th" | "tr" => s.implyPart context "tbody" .inTableBody
  | "table" =>
    if s.namedInScope context "table" then
      let s := (s.popThroughNamed "table").resetMode
      ⟨s, .again⟩
    else s.done
  | "style" | "script" | "template" => s.startHeadContent tag
  | "input" =>
    if isHiddenInput tag then (s.insertClosedTag tag).done else s.fosterInBody (.startTag tag)
  | "form" =>
    if s.inTemplateContent || s.form.isSome then s.done
    else { s.insertClosedTag tag with form := some s.dom.size }.done
  | _ => s.fosterInBody (.startTag tag)

def tableEnd (s : Construction) (tag : String) : Outcome :=
  match tag with
  | "table" =>
    if s.namedInScope ElementName.boundsTableScope "table" then
      (s.popThroughNamed "table").resetMode.done
    else s.done
  | "body" | "caption" | "col" | "colgroup" | "html" | "tbody" | "td" | "tfoot" | "th" | "thead"
  | "tr" => s.done
  | "template" => s.closeTemplate.done
  | _ => s.fosterInBody (.endTag tag)

def inTable (s : Construction) (token : Token) : Outcome :=
  match token with
  | .char c => s.tableChar c
  | .comment text => (s.insertComment text).done
  | .startTag tag => s.tableStart tag
  | .endTag name => s.tableEnd name
  | .endOfText => s.inBody token
  | .doctype _ | .mistake => s.done

def closeCaption (s : Construction) : Option Construction :=
  if s.namedInScope ElementName.boundsTableScope "caption" then
    some (s.closeImplied.popThroughNamed "caption").clearFormatting
  else none

def inCaption (s : Construction) (token : Token) : Outcome :=
  let closeThenAgain : Outcome :=
    match s.closeCaption with
    | some closed => closed.againIn .inTable
    | none => s.done
  match token with
  | .startTag tag =>
    if ["caption", "col", "colgroup", "tbody", "td", "tfoot", "th", "thead", "tr"].contains tag.name
    then closeThenAgain
    else s.inBody token
  | .endTag "table" => closeThenAgain
  | .endTag "caption" =>
    match s.closeCaption with
    | some closed => { closed with mode := .inTable }.done
    | none => s.done
  | .endTag name =>
    let misplaced :=
      ["body", "col", "colgroup", "html", "tbody", "td", "tfoot", "th", "thead", "tr"]
    if misplaced.contains name then s.done
    else s.inBody token
  | _ => s.inBody token

def inColumnGroup (s : Construction) (token : Token) : Outcome :=
  let leave : Outcome :=
    if s.currentNamed "colgroup" then s.pop.againIn .inTable else s.done
  match token with
  | .char c => if isSpaceText c then (s.insertChar c).done else leave
  | .comment text => (s.insertComment text).done
  | .startTag tag =>
    match tag.name with
    | "html" => (s.mergeRoot tag).done
    | "col" => (s.insertClosedTag tag).done
    | "template" => s.startHeadContent tag
    | _ => leave
  | .endTag "colgroup" =>
    if s.currentNamed "colgroup" then { s.pop with mode := .inTable }.done else s.done
  | .endTag "col" => s.done
  | .endTag "template" => s.closeTemplate.done
  | .endTag _ => leave
  | .endOfText => s.inBody token
  | .doctype _ | .mistake => s.done

def inTableBody (s : Construction) (token : Token) : Outcome :=
  let context := ElementName.isTableBodyContext
  let leave : Outcome :=
    if s.inScope ElementName.boundsTableScope (·.isHtml ["table", "tbody", "tfoot"]) then
      (s.popTo context).pop.againIn .inTable
    else s.done
  match token with
  | .startTag tag =>
    match tag.name with
    | "tr" => (s.openPart context tag .inRow).done
    | "td" | "th" => s.implyPart context "tr" .inRow
    | "caption" | "col" | "colgroup" | "tbody" | "tfoot" | "thead" => leave
    | _ => s.inTable token
  | .endTag "table" => leave
  | .endTag name =>
    if ["tbody", "tfoot", "thead"].contains name then
      if s.namedInScope ElementName.boundsTableScope name then
        { (s.popTo context).pop with mode := .inTable }.done
      else s.done
    else if ["body", "caption", "col", "colgroup", "html", "td", "th", "tr"].contains name then
      s.done
    else s.inTable token
  | _ => s.inTable token

def closeRow (s : Construction) : Option Construction :=
  if s.namedInScope ElementName.boundsTableScope "tr" then
    some { (s.popTo ElementName.isTableRowContext).pop with mode := .inTableBody }
  else none

def inRow (s : Construction) (token : Token) : Outcome :=
  let leave : Outcome :=
    match s.closeRow with
    | some closed => ⟨closed, .again⟩
    | none => s.done
  match token with
  | .startTag tag =>
    match tag.name with
    | "td" | "th" =>
      (s.openPart ElementName.isTableRowContext tag .inCell).markFormatting.done
    | "caption" | "col" | "colgroup" | "tbody" | "tfoot" | "thead" | "tr" => leave
    | _ => s.inTable token
  | .endTag "tr" => (s.closeRow.getD s).done
  | .endTag "table" => leave
  | .endTag name =>
    if ["tbody", "tfoot", "thead"].contains name then
      if s.namedInScope ElementName.boundsTableScope name then leave else s.done
    else if ["body", "caption", "col", "colgroup", "html", "td", "th"].contains name then s.done
    else s.inTable token
  | _ => s.inTable token

/-- Closes the open cell and goes back to its row. -/
def closeCell (s : Construction) : Construction :=
  { (s.closeImplied.popThrough ElementName.isCell).clearFormatting with mode := .inRow }

def inCell (s : Construction) (token : Token) : Outcome :=
  match token with
  | .startTag tag =>
    if ["caption", "col", "colgroup", "tbody", "td", "tfoot", "th", "thead", "tr"].contains tag.name
    then
      if s.inScope ElementName.boundsTableScope ElementName.isCell then ⟨s.closeCell, .again⟩
      else s.done
    else s.inBody token
  | .endTag name =>
    if ["td", "th"].contains name then
      if s.namedInScope ElementName.boundsTableScope name then
        { (s.closeImplied.popThroughNamed name).clearFormatting with mode := .inRow }.done
      else s.done
    else if ["body", "caption", "col", "colgroup", "html"].contains name then s.done
    else if ["table", "tbody", "tfoot", "thead", "tr"].contains name then
      if s.namedInScope ElementName.boundsTableScope name then ⟨s.closeCell, .again⟩ else s.done
    else s.inBody token
  | _ => s.inBody token

end Construction

end MarkupIslands.Markup
