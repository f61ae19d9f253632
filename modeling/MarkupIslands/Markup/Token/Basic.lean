/-!
# Tokens of markup

What a markup text is made of: tags, characters, comments and document type declarations. Names are
in small letters, and an attribute name occurs once in a tag, with the first value written for it.
-/

namespace MarkupIslands.Markup

structure Tag where
  name : String
  attributes : List (String × String) := []
  selfClosing : Bool := false
deriving DecidableEq, Repr

/-- A document type declaration. A malformed one forces the oldest layout rules. -/
structure Doctype where
  name : Option String := none
  publicId : Option String := none
  systemId : Option String := none
  malformed : Bool := false
deriving DecidableEq, Repr

/-- The way the text inside an element is read when it is not markup: with character references, as
it is, or as a script with its two levels of escapes. -/
inductive RawKind
  | references
  | verbatim
  | script
  | escapedScript
  | nestedScript
deriving DecidableEq, Repr

/-- A piece of markup. -/
inductive Token
  | startTag (tag : Tag)
  | endTag (name : String)
  | char (c : Char)
  | comment (text : String)
  | doctype (doctype : Doctype)
  /-- A mistake without a text of its own. It still stands between what is before and after it. -/
  | mistake
  | endOfText
deriving DecidableEq, Repr

/-- The tag has the given attribute with the given value, ASCII case aside. -/
def Tag.hasValue (tag : Tag) (name value : String) : Bool :=
  (tag.attributes.lookup name).any fun found ↦ found.toLower == value

end MarkupIslands.Markup
