import MarkupIslands.Markup.Properties

/-!
# Attributes of nodes under construction

The name of an attribute has a local part. On foreign elements it may also have a qualifier, which
is empty for the attribute that names a namespace without one. The finished tree has the name as one
text.
-/

namespace MarkupIslands.Markup

structure AttributeName where
  qualifier? : Option String := none
  localName : String
deriving DecidableEq, Repr

/-- The name as one text: the local part, behind the qualifier and a colon if there is one. -/
def AttributeName.written (name : AttributeName) : String :=
  match name.qualifier? with
  | some qualifier => qualifier ++ ":" ++ name.localName
  | none => name.localName

structure Attribute where
  name : AttributeName
  value : String
deriving DecidableEq, Repr

namespace Attribute

/-- The attribute of an ordinary element, whose name is local as a whole. -/
def ordinary (entry : String × String) : Attribute := ⟨⟨none, entry.1⟩, entry.2⟩

/-- What the finished tree has of an attribute. -/
def entry (attr : Attribute) : String × PropertyValue := (attr.name.written, .text attr.value)

@[simp]
theorem entry_ordinary (entry : String × String) :
    (ordinary entry).entry = (entry.1, .text entry.2) := rfl

end Attribute

end MarkupIslands.Markup
