import MarkupIslands.Markup.Construction.State

/-!
# Foreign elements

Drawings and formulas keep the letter case of their own vocabulary: names that the lexer has put in
small letters get their capitals back. The names of some attributes are taken apart into a qualifier
and a local part. A bare `xmlns` attribute names a namespace without a qualifier, so it has an empty
one.
-/

namespace MarkupIslands.Markup

/-- Words with their capitals, as an association from small letters. -/
def capitalised (words : List String) : List (String × String) :=
  words.map fun word ↦ (word.toLower, word)

def svgTags : List String :=
  ["altGlyph", "altGlyphDef", "altGlyphItem", "animateColor", "animateMotion", "animateTransform",
    "clipPath", "feBlend", "feColorMatrix", "feComponentTransfer", "feComposite",
    "feConvolveMatrix", "feDiffuseLighting", "feDisplacementMap", "feDistantLight",
    "feDropShadow", "feFlood", "feFuncA", "feFuncB", "feFuncG", "feFuncR", "feGaussianBlur",
    "feImage", "feMerge", "feMergeNode", "feMorphology", "feOffset", "fePointLight",
    "feSpecularLighting", "feSpotLight", "feTile", "feTurbulence", "foreignObject", "glyphRef",
    "linearGradient", "radialGradient", "textPath"]

def svgAttributes : List String :=
  ["attributeName", "attributeType", "baseFrequency", "baseProfile", "calcMode", "clipPathUnits",
    "diffuseConstant", "edgeMode", "filterUnits", "glyphRef", "gradientTransform",
    "gradientUnits", "kernelMatrix", "kernelUnitLength", "keyPoints", "keySplines", "keyTimes",
    "lengthAdjust", "limitingConeAngle", "markerHeight", "markerUnits", "markerWidth",
    "maskContentUnits", "maskUnits", "numOctaves", "pathLength", "patternContentUnits",
    "patternTransform", "patternUnits", "pointsAtX", "pointsAtY", "pointsAtZ", "preserveAlpha",
    "preserveAspectRatio", "primitiveUnits", "refX", "refY", "repeatCount", "repeatDur",
    "requiredExtensions", "requiredFeatures", "specularConstant", "specularExponent",
    "spreadMethod", "startOffset", "stdDeviation", "stitchTiles", "surfaceScale",
    "systemLanguage", "tableValues", "targetX", "targetY", "textLength", "viewBox", "viewTarget",
    "xChannelSelector", "yChannelSelector", "zoomAndPan"]

/-- The name of an attribute with the capitals that it has on elements of a namespace. -/
def capitalisedAttribute (space : Namespace) (name : String) : String :=
  match space with
  | .svg => ((capitalised svgAttributes).lookup name).getD name
  | .math => if name = "definitionurl" then "definitionURL" else name
  | .html => name

/-- The names that are taken apart on foreign elements. -/
def qualifiedNames : List (String × AttributeName) :=
  [("xlink:actuate", ⟨some "xlink", "actuate"⟩), ("xlink:arcrole", ⟨some "xlink", "arcrole"⟩),
    ("xlink:href", ⟨some "xlink", "href"⟩), ("xlink:role", ⟨some "xlink", "role"⟩),
    ("xlink:show", ⟨some "xlink", "show"⟩), ("xlink:title", ⟨some "xlink", "title"⟩),
    ("xlink:type", ⟨some "xlink", "type"⟩), ("xml:lang", ⟨some "xml", "lang"⟩),
    ("xml:space", ⟨some "xml", "space"⟩), ("xmlns", ⟨some "", "xmlns"⟩),
    ("xmlns:xlink", ⟨some "xmlns", "xlink"⟩)]

/-- The name of an attribute with its qualifier, if it is to have one. -/
def qualified (name : String) : AttributeName := (qualifiedNames.lookup name).getD ⟨none, name⟩

/-- The attribute name of a foreign element. -/
def foreignAttribute (space : Namespace) (name : String) : AttributeName :=
  qualified (capitalisedAttribute space name)

def foreignAttributes (space : Namespace) (entries : List (String × String)) : List Attribute :=
  entries.map fun entry ↦ ⟨foreignAttribute space entry.1, entry.2⟩

def foreignName (space : Namespace) (tag : String) : ElementName :=
  match space with
  | .svg => ⟨.svg, ((capitalised svgTags).lookup tag).getD tag⟩
  | .math | .html => ⟨space, tag⟩

/-- Start tags of ordinary content that end foreign content. -/
def breakoutTags : List String :=
  ["b", "big", "blockquote", "body", "br", "center", "code", "dd", "div", "dl", "dt", "em", "embed",
    "h1", "h2", "h3", "h4", "h5", "h6", "head", "hr", "i", "img", "li", "listing", "menu", "meta",
    "nobr", "ol", "p", "pre", "ruby", "s", "small", "span", "strong", "strike", "sub", "sup",
    "table", "tt", "u", "ul", "var"]

/-- Whether a start tag ends foreign content. A `font` tag does if it sets a font. -/
def Tag.breaksOut (tag : Tag) : Bool :=
  breakoutTags.contains tag.name ||
    (tag.name == "font" &&
      tag.attributes.any fun entry ↦ ["color", "face", "size"].contains entry.1)

namespace Construction

def insertForeign (s : Construction) (name : ElementName) (tag : Tag) : Construction :=
  let attributes := foreignAttributes name.space tag.attributes
  if tag.selfClosing then s.insertClosed name attributes else s.insertOpen name attributes

/-- The element whose content is read next, if it is foreign. In a fragment the lowest open element
stands for its context, which is ordinary. -/
def foreignCurrent? (s : Construction) : Option OpenElement :=
  match s.stack with
  | [] => none
  | element :: rest =>
    if element.name.space == .html || (s.isFragment && rest.isEmpty) then none else some element

def inForeign (s : Construction) : Bool := s.foreignCurrent?.isSome

/-- Whether an annotation of a formula holds ordinary content. -/
def isMarkupAnnotation (s : Construction) (element : OpenElement) : Bool :=
  match s.dom.content? element.id with
  | some (.element _ attributes _) =>
    (attributes.find? (·.name == ⟨none, "encoding"⟩)).any fun encoding ↦
      ["text/html", "application/xhtml+xml"].contains encoding.value.toLower
  | _ => false

def readsForeign (s : Construction) (token : Token) : Bool :=
  match s.foreignCurrent? with
  | none => false
  | some element =>
    let name := element.name
    match token with
    | .endOfText => false
    | .char _ =>
      !(name.isMathText || name.isSvgText ||
        (name.isMath ["annotation-xml"] && s.isMarkupAnnotation element))
    | .startTag tag =>
      !(name.isSvgText ||
        (name.isMathText && !(["mglyph", "malignmark"].contains tag.name)) ||
        (name.isMath ["annotation-xml"] && (tag.name == "svg" || s.isMarkupAnnotation element)))
    | _ => true

/-- Closes foreign elements down to ordinary content. -/
def leaveForeign (s : Construction) : Construction :=
  s.popTo fun name ↦ name.space == .html || name.isMathText || name.isSvgText

/-- What an end tag does inside foreign content. -/
inductive ForeignEnd
  | ignored
  | closes (rest : List OpenElement)
  | ordinary

/-- Looks for the element that an end tag closes, without regard to ASCII case. Below the innermost
element, an ordinary one hands the tag over to the ordinary rules. -/
def foreignEnd (tag : String) (isFirst : Bool) : List OpenElement → ForeignEnd
  | [] | [_] => .ignored
  | element :: rest =>
    if !isFirst && element.name.space == .html then .ordinary
    else if element.name.tag.toLower == tag then .closes rest
    else foreignEnd tag false rest

end Construction

end MarkupIslands.Markup
