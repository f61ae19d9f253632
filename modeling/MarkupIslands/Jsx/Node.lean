/-!
# JSX trees

The trees that are written as JSX source. An expression is kept as its source text, which is
written between braces.
-/

namespace MarkupIslands.Jsx

/-- The value of an attribute: none, a text between quotes, or an expression between braces. -/
inductive AttributeValue
  | bare
  | text (value : String)
  | expression (source : String)
deriving DecidableEq, Repr

/-- A spread holds the source of an object whose keys are names that JSX cannot spell. -/
inductive Attribute
  | named (name : String) (value : AttributeValue)
  | spread (object : String)
deriving DecidableEq, Repr

/-- A node of a JSX tree. -/
inductive Node
  | element (name : String) (attributes : List Attribute) (children : List Node)
    (selfClosing : Bool)
  | fragment (children : List Node)
  | text (value : String)
  | expression (source : String)

instance : Inhabited Node := ⟨.fragment []⟩

def Node.named (name : String) : Node := .element name [] [] false

end MarkupIslands.Jsx
