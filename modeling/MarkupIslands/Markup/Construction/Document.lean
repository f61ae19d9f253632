import MarkupIslands.Markup.Construction.Layout
import MarkupIslands.Markup.Construction.Select
import MarkupIslands.Markup.Construction.Table

/-!
# Rules around the body, and the choice of rules

The rules for what stands before, behind and in place of a body; parts of a document that the text
leaves out are made as soon as something needs them. `accept` takes one token into the tree: it
chooses the rules by the insertion mode, or the rules for foreign content.
-/

namespace MarkupIslands.Markup

namespace Construction

/-! ## Before the body -/

/-- Before anything: a text that does not begin with a document type has the oldest layout rules. -/
def initial (s : Construction) (token : Token) : Outcome :=
  let leave : Outcome := { s with legacyLayout := true }.againIn .beforeHtml
  match token with
  | .char c => if isSpaceText c then s.done else leave
  | .comment text => (s.appendComment Dom.document text).done
  | _ => leave

def beforeHtml (s : Construction) (token : Token) : Outcome :=
  let leave : Outcome := (s.insertRoot []).againIn .beforeHead
  match token with
  | .char c => if isSpaceText c then s.done else leave
  | .comment text => (s.appendComment Dom.document text).done
  | .startTag tag =>
    if tag.name = "html" then
      { s.insertRoot (tag.attributes.map .ordinary) with mode := .beforeHead }.done
    else leave
  | .endTag name => if ["head", "body", "html", "br"].contains name then leave else s.done
  | _ => leave

def startHead (s : Construction) (tag : Tag) : Construction :=
  { s.insertTag tag with head := some s.dom.size }

def beforeHead (s : Construction) (token : Token) : Outcome :=
  let leave : Outcome := (s.startHead ⟨"head", [], false⟩).againIn .inHead
  match token with
  | .char c => if isSpaceText c then s.done else leave
  | .comment text => (s.insertComment text).done
  | .startTag tag =>
    if tag.name = "html" then (s.mergeRoot tag).done
    else if tag.name = "head" then { s.startHead tag with mode := .inHead }.done
    else leave
  | .endTag name => if ["head", "body", "html", "br"].contains name then leave else s.done
  | _ => leave

/-- Head content behind the head still goes into the head. -/
def startInClosedHead (s : Construction) (tag : Tag) : Outcome :=
  match s.head with
  | none => s.done
  | some id =>
    let outcome := (s.push id ⟨.html, "head"⟩).startHeadContent tag
    { outcome with state := outcome.state.removeOpen id }

def afterHead (s : Construction) (token : Token) : Outcome :=
  let leave : Outcome := (s.insertImplied "body").againIn .inBody
  match token with
  | .char c => if isSpaceText c then (s.insertChar c).done else leave
  | .comment text => (s.insertComment text).done
  | .startTag tag =>
    match tag.name with
    | "html" => (s.mergeRoot tag).done
    | "body" => { (s.insertTag tag).forbidFrameset with mode := .inBody }.done
    | "frameset" => { s.insertTag tag with mode := .inFrameset }.done
    | "head" => s.done
    | name => if isHeadContent name then s.startInClosedHead tag else leave
  | .endTag "template" => s.closeTemplate.done
  | .endTag name => if ["body", "html", "br"].contains name then leave else s.done
  | _ => leave

/-! ## Behind the body -/

/-- Behind the body. Anything but white space and comments goes into the body after all. -/
def afterBody (s : Construction) (token : Token) : Outcome :=
  match token with
  | .char c => if isSpaceText c then s.inBody token else s.againIn .inBody
  | .comment text =>
    match s.stack.getLast? with
    | some root => (s.appendComment root.id text).done
    | none => s.done
  | .startTag tag => if tag.name = "html" then (s.mergeRoot tag).done else s.againIn .inBody
  | .endTag "html" => (if s.isFragment then s else { s with mode := .afterAfterBody }).done
  | .endOfText => s.done
  | _ => s.againIn .inBody

def afterAfterBody (s : Construction) (token : Token) : Outcome :=
  match token with
  | .char c => if isSpaceText c then s.inBody token else s.againIn .inBody
  | .comment text => (s.appendComment Dom.document text).done
  | .startTag tag => if tag.name = "html" then (s.mergeRoot tag).done else s.againIn .inBody
  | .endOfText => s.done
  | _ => s.againIn .inBody

/-! ## In place of the body -/

/-- Frames hold white space and comments only. -/
def framesetChar (s : Construction) (c : Char) : Construction :=
  if isSpaceText c then s.insertChar c else s

def inFrameset (s : Construction) (token : Token) : Outcome :=
  match token with
  | .char c => (s.framesetChar c).done
  | .comment text => (s.insertComment text).done
  | .startTag tag =>
    match tag.name with
    | "html" => (s.mergeRoot tag).done
    | "frameset" => (s.insertTag tag).done
    | "frame" => (s.insertClosedTag tag).done
    | "noframes" => s.startHeadContent tag
    | _ => s.done
  | .endTag "frameset" =>
    if s.stack.length = 1 then s.done
    else
      let s := s.pop
      if s.isFragment || s.currentNamed "frameset" then s.done
      else { s with mode := .afterFrameset }.done
  | _ => s.done

def afterFrameset (s : Construction) (token : Token) : Outcome :=
  match token with
  | .char c => (s.framesetChar c).done
  | .comment text => (s.insertComment text).done
  | .startTag tag =>
    if tag.name = "html" then (s.mergeRoot tag).done
    else if tag.name = "noframes" then s.startHeadContent tag
    else s.done
  | .endTag "html" => { s with mode := .afterAfterFrameset }.done
  | _ => s.done

def afterAfterFrameset (s : Construction) (token : Token) : Outcome :=
  match token with
  | .char c => if isSpaceText c then s.inBody token else s.done
  | .comment text => (s.appendComment Dom.document text).done
  | .startTag tag =>
    if tag.name = "html" then (s.mergeRoot tag).done
    else if tag.name = "noframes" then s.startHeadContent tag
    else s.done
  | _ => s.done

/-! ## The choice of rules -/

def byMode (s : Construction) (token : Token) : Outcome :=
  match s.mode with
  | .initial => s.initial token
  | .beforeHtml => s.beforeHtml token
  | .beforeHead => s.beforeHead token
  | .inHead => s.inHead token
  | .afterHead => s.afterHead token
  | .inBody => s.inBody token
  | .inText => s.inText token
  | .inTable => s.inTable token
  | .inTableText => s.inTableText token
  | .inCaption => s.inCaption token
  | .inColumnGroup => s.inColumnGroup token
  | .inTableBody => s.inTableBody token
  | .inRow => s.inRow token
  | .inCell => s.inCell token
  | .inSelect => s.inSelect token
  | .inSelectInTable => s.inSelectInTable token
  | .inTemplate => s.inTemplate token
  | .afterBody => s.afterBody token
  | .inFrameset => s.inFrameset token
  | .afterFrameset => s.afterFrameset token
  | .afterAfterBody => s.afterAfterBody token
  | .afterAfterFrameset => s.afterAfterFrameset token

def inForeignContent (s : Construction) (token : Token) : Outcome :=
  match token with
  | .char c =>
    if c = '\x00' then (s.insertChar '\ufffd').done
    else
      let s := s.insertChar c
      (if isSpaceText c then s else s.forbidFrameset).done
  | .comment text => (s.insertComment text).done
  | .startTag tag =>
    if tag.breaksOut then s.leaveForeign.byMode token
    else
      match s.foreignCurrent? with
      | some element => (s.insertForeign (foreignName element.name.space tag.name) tag).done
      | none => s.done
  | .endTag name =>
    if name = "br" || name = "p" then s.leaveForeign.byMode token
    else
      match foreignEnd name true s.stack with
      | .ignored => s.done
      | .closes rest => { s with stack := rest }.done
      | .ordinary => s.byMode token
  | _ => s.done

/-- Looks at a token once, by the rules for foreign content or by those of the insertion mode. -/
def choose (s : Construction) (token : Token) : Outcome :=
  if s.readsForeign token then s.inForeignContent token else s.byMode token

/-- Looks at a token until a rule is done with it, at most `rounds` times. -/
def run (s : Construction) (token : Token) : (rounds : Nat) → Outcome
  | 0 => s.done
  | rounds + 1 =>
    let outcome := s.choose token
    match outcome.next with
    | .again => outcome.state.run token rounds
    | _ => outcome

/-- Each look closes an open element or a template, or goes on to a mode for a later part of the
document, so a token is looked at no more often than this. -/
def rounds (s : Construction) : Nat := 8 * (s.stack.length + s.templateModes.length) + 32

/-- Takes a document type declaration into the tree. It counts only at the very beginning. -/
def acceptDoctype (s : Construction) (doctype : Doctype) : Construction :=
  if s.mode = .initial then
    { s with
      dom := (s.dom.add (.doctype (doctype.name.getD ""))).append Dom.document s.dom.size
      legacyLayout := doctype.isLegacy
      mode := .beforeHtml }
  else s

def accept (s : Construction) (token : Token) : Outcome :=
  let skipped := s.skipLineFeed && token == .char '\n'
  let s := { s with skipLineFeed := false }
  match token with
  | .doctype doctype => (s.acceptDoctype doctype).done
  | .mistake => s.done
  | _ => if skipped then s.done else s.run token s.rounds

def document : Construction := {}

/-- The state before a fragment, which is read as if it stood inside a body. -/
def fragment : Construction :=
  { ({ isFragment := true } : Construction).insertRoot [] with mode := .inBody }

end Construction

end MarkupIslands.Markup
