/-!
# Attribute names in JSX

Component frameworks spell many markup attributes in their own way. A name is looked up without
regard to ASCII case; a name that is not in the table is kept as written. A name that JSX cannot
spell as an attribute has to go into a spread object.
-/

namespace MarkupIslands.Jsx

/-- Markup attribute names in lower case, with their spelling as component properties. -/
def attributeSpellings : List (String × String) :=
  [("class", "className"), ("for", "htmlFor"), ("accesskey", "accessKey"),
    ("allowfullscreen", "allowFullScreen"), ("autocomplete", "autoComplete"),
    ("autofocus", "autoFocus"), ("autoplay", "autoPlay"), ("cellpadding", "cellPadding"),
    ("cellspacing", "cellSpacing"), ("charset", "charSet"), ("colspan", "colSpan"),
    ("contenteditable", "contentEditable"), ("crossorigin", "crossOrigin"),
    ("datetime", "dateTime"), ("enctype", "encType"), ("formaction", "formAction"),
    ("frameborder", "frameBorder"), ("http-equiv", "httpEquiv"), ("inputmode", "inputMode"),
    ("itemprop", "itemProp"), ("itemscope", "itemScope"), ("itemtype", "itemType"),
    ("maxlength", "maxLength"), ("minlength", "minLength"), ("novalidate", "noValidate"),
    ("playsinline", "playsInline"), ("readonly", "readOnly"),
    ("referrerpolicy", "referrerPolicy"), ("rowspan", "rowSpan"), ("spellcheck", "spellCheck"),
    ("srcdoc", "srcDoc"), ("srclang", "srcLang"), ("srcset", "srcSet"), ("tabindex", "tabIndex"),
    ("usemap", "useMap"),
    -- drawing attributes
    ("clip-path", "clipPath"), ("clip-rule", "clipRule"), ("fill-opacity", "fillOpacity"),
    ("fill-rule", "fillRule"), ("font-family", "fontFamily"), ("font-size", "fontSize"),
    ("stop-color", "stopColor"), ("stop-opacity", "stopOpacity"),
    ("stroke-dasharray", "strokeDasharray"), ("stroke-linecap", "strokeLinecap"),
    ("stroke-linejoin", "strokeLinejoin"), ("stroke-opacity", "strokeOpacity"),
    ("stroke-width", "strokeWidth"), ("text-anchor", "textAnchor"), ("xlink:href", "xlinkHref"),
    ("xml:lang", "xmlLang"), ("xml:space", "xmlSpace"), ("xmlns:xlink", "xmlnsXlink")]

def attributeName (name : String) : String :=
  (attributeSpellings.lookup name.toLower).getD name

def isIdentifierStart (c : Char) : Bool := c.isAlpha || c == '_' || c == '$'

/-- Whether a character can go on an identifier. -/
def isIdentifierPart (c : Char) : Bool := isIdentifierStart c || c.isDigit

/-- Whether a text is an identifier of ASCII characters. -/
def isIdentifier : List Char → Bool
  | [] => false
  | c :: rest => isIdentifierStart c && rest.all isIdentifierPart

/-- Whether JSX accepts a text as an attribute name: an identifier that may also hold dashes after
its first character. Names with a namespace are left out. -/
def isSpellable : List Char → Bool
  | [] => false
  | c :: rest => isIdentifierStart c && rest.all fun c ↦ isIdentifierPart c || c == '-'

theorem isSpellable_of_isIdentifier {name : List Char} (h : isIdentifier name) :
    isSpellable name := by
  cases name with
  | nil => exact h
  | cons c rest =>
    simp only [isIdentifier, isSpellable, Bool.and_eq_true, List.all_eq_true,
      Bool.or_eq_true] at h ⊢
    exact ⟨h.1, fun d hd ↦ Or.inl (h.2 d hd)⟩

end MarkupIslands.Jsx
