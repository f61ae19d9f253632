/-!
# Element names and their classes

An element name is a local name in one of the three namespaces of markup. The classes below say how
open elements behave while a tree grows: which ones end without an end tag, which ones stop the
search for an open element, and which ones hold foreign or ordinary content.
-/

namespace MarkupIslands.Markup

/-- The namespaces: ordinary elements, drawings and formulas. -/
inductive Namespace
  | html
  | svg
  | math
deriving DecidableEq, Repr

structure ElementName where
  space : Namespace
  tag : String
deriving DecidableEq, Repr

namespace ElementName

def isHtml (name : ElementName) (tags : List String) : Bool :=
  name.space == .html && tags.contains name.tag

def isMath (name : ElementName) (tags : List String) : Bool :=
  name.space == .math && tags.contains name.tag

def isSvg (name : ElementName) (tags : List String) : Bool :=
  name.space == .svg && tags.contains name.tag

/-- Formula elements whose text is ordinary content. -/
def isMathText (name : ElementName) : Bool := name.isMath ["mi", "mo", "mn", "ms", "mtext"]

/-- Drawing elements whose content is ordinary content. -/
def isSvgText (name : ElementName) : Bool := name.isSvg ["foreignObject", "desc", "title"]

/-- Elements that no end tag of another ordinary element can close. -/
def isSpecial (name : ElementName) : Bool :=
  name.isHtml
    ["address", "applet", "area", "article", "aside", "base", "basefont", "bgsound", "blockquote",
      "body", "br", "button", "caption", "center", "col", "colgroup", "dd", "details", "dir", "div",
      "dl", "dt", "embed", "fieldset", "figcaption", "figure", "footer", "form", "frame",
      "frameset", "h1", "h2", "h3", "h4", "h5", "h6", "head", "header", "hgroup", "hr", "html",
      "iframe", "img", "input", "isindex", "li", "link", "listing", "main", "marquee", "menu",
      "meta", "nav", "noembed", "noframes", "noscript", "object", "ol", "p", "param", "plaintext",
      "pre", "script", "section", "select", "source", "style", "summary", "table", "tbody", "td",
      "template", "textarea", "tfoot", "th", "thead", "title", "tr", "track", "ul", "wbr", "xmp"]

/-! ## Bounds of a search through the open elements -/

/-- Elements that stop most searches. -/
def boundsScope (name : ElementName) : Bool :=
  name.isHtml
    ["applet", "caption", "html", "table", "td", "th", "marquee", "object", "template"] ||
    name.isMathText || name.isSvgText

def boundsListScope (name : ElementName) : Bool := name.boundsScope || name.isHtml ["ol", "ul"]

def boundsButtonScope (name : ElementName) : Bool := name.boundsScope || name.isHtml ["button"]

def boundsTableScope (name : ElementName) : Bool := name.isHtml ["html", "table", "template"]

/-- Elements that stop the search for a selection list: all but options and their groups. -/
def boundsSelectScope (name : ElementName) : Bool := !name.isHtml ["optgroup", "option"]

def isTableBodyContext (name : ElementName) : Bool :=
  name.isHtml ["tbody", "tfoot", "thead", "template", "html"]

def isTableRowContext (name : ElementName) : Bool := name.isHtml ["tr", "template", "html"]

/-- Elements that hold the rows of a table; other content moves out of the table. -/
def isTablePart (name : ElementName) : Bool :=
  name.isHtml ["table", "tbody", "tfoot", "thead", "tr"]

def isCell (name : ElementName) : Bool := name.isHtml ["td", "th"]

def isHeading (name : ElementName) : Bool := name.isHtml ["h1", "h2", "h3", "h4", "h5", "h6"]

/-! ## End tags that may be left out -/

/-- Elements that end where their end tag is left out. -/
def mayEnd (name : ElementName) : Bool :=
  name.isHtml ["dd", "dt", "li", "option", "optgroup", "p", "rb", "rp", "rt", "rtc"]

/-- Elements that also end where the template around them does. -/
def mayEndInTemplate (name : ElementName) : Bool :=
  name.mayEnd ||
    name.isHtml ["caption", "colgroup", "tbody", "td", "tfoot", "th", "thead", "tr"]

end ElementName

end MarkupIslands.Markup
